import KubeEntities.Proofs.Json.RoundTrip

/-! What a text says of a tree. JSON has no text for a number that is not finite, and writes `null`
for it; a tree written so is read with `null` in that place and is otherwise the same
(`read?_render_written`). -/

namespace KubeEntities

def Scalar.written : Scalar → Scalar
  | .float x => if x.isFinite then .float x else .null
  | .noText => .null
  | .null => .null
  | .bool b => .bool b
  | .int n => .int n
  | .str s => .str s

namespace Json

theorem spellScalar_written (s : Scalar) : spellScalar s.written = spellScalar s := by
  cases s with
  | float x => cases x <;> rfl
  | null | bool | int | str | noText => rfl

mutual

def written : Json → Json
  | .scalar s => .scalar s.written
  | .arr items => .arr (writtenItems items)
  | .obj members => .obj (writtenMembers members)

def writtenItems : List Json → List Json
  | [] => []
  | item :: rest => item.written :: writtenItems rest

def writtenMembers : List (String × Json) → List (String × Json)
  | [] => []
  | (key, value) :: rest => (key, value.written) :: writtenMembers rest

end

theorem writtenItems_eq_map (items : List Json) : writtenItems items = items.map written := by
  induction items with
  | nil => rfl
  | cons item items ih => rw [writtenItems, ih, List.map_cons]

theorem writtenMembers_eq_map (members : List (String × Json)) :
    writtenMembers members = members.map fun m => (m.1, m.2.written) := by
  induction members with
  | nil => rfl
  | cons m members ih => rw [writtenMembers, ih, List.map_cons]

mutual

theorem scalars_written : ∀ j : Json, j.written.scalars = j.scalars.map Scalar.written
  | .scalar _ => rfl
  | .arr items => scalarsItems_written items
  | .obj members => scalarsMembers_written members

theorem scalarsItems_written : ∀ items : List Json,
    scalarsItems (writtenItems items) = (scalarsItems items).map Scalar.written
  | [] => rfl
  | item :: rest => by
    rw [writtenItems, scalarsItems, scalarsItems, List.map_append, scalars_written item,
      scalarsItems_written rest]

theorem scalarsMembers_written : ∀ members : List (String × Json),
    scalarsMembers (writtenMembers members) = (scalarsMembers members).map Scalar.written
  | [] => rfl
  | (_, value) :: rest => by
    rw [writtenMembers, scalarsMembers, scalarsMembers, List.map_append, scalars_written value,
      scalarsMembers_written rest]

end

mutual

theorem compact_written : ∀ j : Json, j.written.compact = j.compact
  | .scalar s => spellScalar_written s
  | .arr [] => rfl
  | .arr (item :: rest) => by
    rw [written, writtenItems, compact, compact, compact_written item, compactItems_written rest]
  | .obj [] => rfl
  | .obj ((_, value) :: rest) => by
    rw [written, writtenMembers, compact, compact, compact_written value,
      compactMembers_written rest]

theorem compactItems_written : ∀ items : List Json,
    compactItems (writtenItems items) = compactItems items
  | [] => rfl
  | item :: rest => by
    rw [writtenItems, compactItems, compactItems, compact_written item, compactItems_written rest]

theorem compactMembers_written : ∀ members : List (String × Json),
    compactMembers (writtenMembers members) = compactMembers members
  | [] => rfl
  | (_, value) :: rest => by
    rw [writtenMembers, compactMembers, compactMembers, compact_written value,
      compactMembers_written rest]

end

mutual

theorem pretty_written : ∀ (level : Nat) (j : Json), j.written.pretty level = j.pretty level
  | _, .scalar s => spellScalar_written s
  | _, .arr [] => rfl
  | level, .arr (item :: rest) => by
    rw [written, writtenItems, pretty, pretty, pretty_written _ item,
      prettyItems_written level rest]
  | _, .obj [] => rfl
  | level, .obj ((_, value) :: rest) => by
    rw [written, writtenMembers, pretty, pretty, pretty_written _ value,
      prettyMembers_written level rest]

theorem prettyItems_written : ∀ (level : Nat) (items : List Json),
    prettyItems level (writtenItems items) = prettyItems level items
  | _, [] => rfl
  | level, item :: rest => by
    rw [writtenItems, prettyItems, prettyItems, pretty_written _ item,
      prettyItems_written level rest]

theorem prettyMembers_written : ∀ (level : Nat) (members : List (String × Json)),
    prettyMembers level (writtenMembers members) = prettyMembers level members
  | _, [] => rfl
  | level, (_, value) :: rest => by
    rw [writtenMembers, prettyMembers, prettyMembers, pretty_written _ value,
      prettyMembers_written level rest]

end

theorem render_written (indented : Bool) (j : Json) :
    j.written.render indented = j.render indented := by
  cases indented with
  | false => exact congrArg String.ofList (compact_written j)
  | true => exact congrArg String.ofList (pretty_written 0 j)

theorem read?_render_written (indented : Bool) {j : Json}
    (h : ∀ s ∈ j.scalars, s.written.ReadsBack) : read? (j.render indented) = some j.written := by
  rw [← render_written]
  refine read?_render indented fun s hs => ?_
  rw [scalars_written] at hs
  obtain ⟨own, held, rfl⟩ := List.mem_map.1 hs
  exact h own held

end Json
end KubeEntities
