import KubeEntities.Json.Reader
import KubeEntities.Json.Writer
import KubeEntities.Proofs.Json.Lexing

/-! Both written forms of a tree are read as the tree. The forms differ in white space only, so
both are lexed to the tokens of the tree (`adds_compact`, `adds_pretty`), and the reader delivers
the tree when it has taken these (`delivers_tokens`). -/

namespace KubeEntities.Json

mutual

def tokens : Json → List Token
  | .scalar s => [.scalar s]
  | .arr [] => [.beginArray, .endArray]
  | .arr (item :: rest) => .beginArray :: item.tokens ++ tokensItems rest
  | .obj [] => [.beginObject, .endObject]
  | .obj ((key, value) :: rest) =>
    .beginObject :: .scalar (.str key) :: .colon :: value.tokens ++ tokensMembers rest

def tokensItems : List Json → List Token
  | [] => [.endArray]
  | item :: rest => .comma :: item.tokens ++ tokensItems rest

def tokensMembers : List (String × Json) → List Token
  | [] => [.endObject]
  | (key, value) :: rest =>
    .comma :: .scalar (.str key) :: .colon :: value.tokens ++ tokensMembers rest

end

mutual

def scalars : Json → List Scalar
  | .scalar s => [s]
  | .arr items => scalarsItems items
  | .obj members => scalarsMembers members

def scalarsItems : List Json → List Scalar
  | [] => []
  | item :: rest => item.scalars ++ scalarsItems rest

def scalarsMembers : List (String × Json) → List Scalar
  | [] => []
  | (_, value) :: rest => value.scalars ++ scalarsMembers rest

end

theorem mem_scalarsItems {s : Scalar} {items : List Json} :
    s ∈ scalarsItems items ↔ ∃ item ∈ items, s ∈ item.scalars := by
  induction items with
  | nil => simp [scalarsItems]
  | cons item items ih => simp [scalarsItems, ih]

theorem mem_scalarsMembers {s : Scalar} {members : List (String × Json)} :
    s ∈ scalarsMembers members ↔ ∃ m ∈ members, s ∈ m.2.scalars := by
  induction members with
  | nil => simp [scalarsMembers]
  | cons m members ih => simp [scalarsMembers, ih]

theorem mem_scalars_ofMap {s : Scalar} {m : SortedMap Json} :
    s ∈ (ofMap m).scalars ↔ ∃ key value, m.find? key = some value ∧ s ∈ value.scalars := by
  simp only [ofMap, scalars, mem_scalarsMembers, SortedMap.find?_eq_some_iff]
  constructor
  · rintro ⟨⟨key, value⟩, there, held⟩
    exact ⟨key, value, there, held⟩
  · rintro ⟨key, value, there, held⟩
    exact ⟨(key, value), there, held⟩

def ReadsBack (j : Json) : Prop := ∀ s ∈ j.scalars, s.ReadsBack

theorem ends_compactItems (items : List Json) :
    (compactItems items).head?.any Lexer.endsWord = true := by
  cases items <;> rfl

theorem ends_compactMembers (members : List (String × Json)) :
    (compactMembers members).head?.any Lexer.endsWord = true := by
  cases members <;> rfl

theorem Adds.member (key : String) {chars : List Char} {tokens : List Token}
    (value : Adds chars tokens) :
    Adds (spellString key ++ ':' :: chars) (.scalar (.str key) :: .colon :: tokens) :=
  (adds_spellString key).append (.punctuation rfl value) rfl

mutual

theorem adds_compact : ∀ j : Json, j.ReadsBack → Adds j.compact j.tokens
  | .scalar s, h => adds_spellScalar (h s (by simp [scalars]))
  | .arr [], _ => .punctuation rfl (.punctuation rfl .nil)
  | .arr (item :: rest), h => by
    have first := adds_compact item fun s hs => h s (List.mem_append_left _ hs)
    have others := adds_compactItems rest fun s hs => h s (List.mem_append_right _ hs)
    exact .punctuation rfl (first.append others (ends_compactItems rest))
  | .obj [], _ => .punctuation rfl (.punctuation rfl .nil)
  | .obj ((key, value) :: rest), h => by
    have first := adds_compact value fun s hs => h s (List.mem_append_left _ hs)
    have others := adds_compactMembers rest fun s hs => h s (List.mem_append_right _ hs)
    exact .punctuation rfl ((first.member key).append others (ends_compactMembers rest))

theorem adds_compactItems : ∀ items : List Json, (∀ s ∈ scalarsItems items, s.ReadsBack) →
    Adds (compactItems items) (tokensItems items)
  | [], _ => .punctuation rfl .nil
  | item :: rest, h => by
    have first := adds_compact item fun s hs => h s (List.mem_append_left _ hs)
    have others := adds_compactItems rest fun s hs => h s (List.mem_append_right _ hs)
    exact .punctuation rfl (first.append others (ends_compactItems rest))

theorem adds_compactMembers : ∀ members : List (String × Json),
    (∀ s ∈ scalarsMembers members, s.ReadsBack) →
      Adds (compactMembers members) (tokensMembers members)
  | [], _ => .punctuation rfl .nil
  | (key, value) :: rest, h => by
    have first := adds_compact value fun s hs => h s (List.mem_append_left _ hs)
    have others := adds_compactMembers rest fun s hs => h s (List.mem_append_right _ hs)
    exact .punctuation rfl ((first.member key).append others (ends_compactMembers rest))

end

theorem Adds.newLine (level : Nat) {chars : List Char} {tokens : List Token}
    (rest : Adds chars tokens) : Adds (newLine level ++ chars) tokens := by
  have spaces (n : Nat) : Adds (List.replicate n ' ' ++ chars) tokens := by
    induction n with
    | zero => exact rest
    | succ n ih => exact .space rfl ih
  exact .space rfl (spaces (2 * level))

theorem ends_prettyItems (level : Nat) (items : List Json) :
    (prettyItems level items).head?.any Lexer.endsWord = true := by
  cases items <;> rfl

theorem ends_prettyMembers (level : Nat) (members : List (String × Json)) :
    (prettyMembers level members).head?.any Lexer.endsWord = true := by
  cases members <;> rfl

theorem Adds.prettyMember (key : String) {chars : List Char} {tokens : List Token}
    (value : Adds chars tokens) :
    Adds (spellString key ++ ':' :: ' ' :: chars) (.scalar (.str key) :: .colon :: tokens) :=
  .member key (.space rfl value)

mutual

theorem adds_pretty : ∀ (level : Nat) (j : Json), j.ReadsBack → Adds (j.pretty level) j.tokens
  | _, .scalar s, h => adds_spellScalar (h s (by simp [scalars]))
  | _, .arr [], _ => .punctuation rfl (.punctuation rfl .nil)
  | level, .arr (item :: rest), h => by
    have first := adds_pretty (level + 1) item fun s hs => h s (List.mem_append_left _ hs)
    have others := adds_prettyItems level rest fun s hs => h s (List.mem_append_right _ hs)
    exact .punctuation rfl ((first.newLine (level + 1)).append others (ends_prettyItems level rest))
  | _, .obj [], _ => .punctuation rfl (.punctuation rfl .nil)
  | level, .obj ((key, value) :: rest), h => by
    have first := adds_pretty (level + 1) value fun s hs => h s (List.mem_append_left _ hs)
    have others := adds_prettyMembers level rest fun s hs => h s (List.mem_append_right _ hs)
    have member := (first.prettyMember key).newLine (level + 1)
    have all := Adds.punctuation (c := '\x7b') rfl
      (member.append others (ends_prettyMembers level rest))
    simpa [pretty, tokens] using all

theorem adds_prettyItems : ∀ (level : Nat) (items : List Json),
    (∀ s ∈ scalarsItems items, s.ReadsBack) → Adds (prettyItems level items) (tokensItems items)
  | level, [], _ => .newLine level (.punctuation rfl .nil)
  | level, item :: rest, h => by
    have first := adds_pretty (level + 1) item fun s hs => h s (List.mem_append_left _ hs)
    have others := adds_prettyItems level rest fun s hs => h s (List.mem_append_right _ hs)
    exact .punctuation rfl ((first.newLine (level + 1)).append others (ends_prettyItems level rest))

theorem adds_prettyMembers : ∀ (level : Nat) (members : List (String × Json)),
    (∀ s ∈ scalarsMembers members, s.ReadsBack) →
      Adds (prettyMembers level members) (tokensMembers members)
  | level, [], _ => .newLine level (.punctuation rfl .nil)
  | level, (key, value) :: rest, h => by
    have first := adds_pretty (level + 1) value fun s hs => h s (List.mem_append_left _ hs)
    have others := adds_prettyMembers level rest fun s hs => h s (List.mem_append_right _ hs)
    have member := (first.prettyMember key).newLine (level + 1)
    have all := Adds.punctuation (c := ',') rfl
      (member.append others (ends_prettyMembers level rest))
    simpa [prettyMembers, tokensMembers] using all

end

theorem exists_tokens_eq_cons (j : Json) :
    ∃ token rest, j.tokens = token :: rest ∧ ∀ stack, Reader.step ⟨stack, .firstItem⟩ token =
      Reader.step ⟨.array [] :: stack, .value⟩ token := by
  cases j with
  | scalar s => exact ⟨_, _, rfl, fun _ => rfl⟩
  | arr items => cases items <;> exact ⟨_, _, rfl, fun _ => rfl⟩
  | obj members =>
    cases members with
    | nil => exact ⟨_, _, rfl, fun _ => rfl⟩
    | cons member rest => exact ⟨_, _, rfl, fun _ => rfl⟩

theorem foldlM_firstItem (j : Json) (stack : List Frame) :
    j.tokens.foldlM Reader.step ⟨stack, .firstItem⟩ =
      j.tokens.foldlM Reader.step ⟨.array [] :: stack, .value⟩ := by
  obtain ⟨token, rest, first, same⟩ := j.exists_tokens_eq_cons
  rw [first, List.foldlM_cons, List.foldlM_cons, same]

theorem objectOf_named (members : List (String × Json)) :
    objectOf (members.reverse.map fun m => (some m.1, m.2)) = .obj members := by
  have named (members : List (String × Json)) :
      (members.map fun m => ((some m.1, m.2) : Option String × Json)).mapM
        (fun m => m.1.map (·, m.2)) = some members := by
    induction members with
    | nil => rfl
    | cons m members ih => simp [ih]
  have read := named members
  rw [← List.reverse_reverse (members.map _), ← List.map_reverse] at read
  rw [objectOf]
  split
  · rename_i others
    exact congrArg Json.obj (Option.some.inj (others.symm.trans read))
  · rename_i none
    cases none.symm.trans read

/-- Reading on from a state, and what comes of it. -/
def Delivers (r : Reader) (tokens : List Token) (r' : Reader) : Prop :=
  tokens.foldlM Reader.step r = some r'

theorem Delivers.append {r r' r'' : Reader} {tokens tokens' : List Token}
    (first : Delivers r tokens r') (second : Delivers r' tokens' r'') :
    Delivers r (tokens ++ tokens') r'' := by
  rw [Delivers, List.foldlM_append, first]
  exact second

mutual

theorem delivers_tokens : ∀ (j : Json) (stack : List Frame),
    Delivers ⟨stack, .value⟩ j.tokens (Reader.deliver j stack)
  | .scalar s, stack => rfl
  | .arr [], stack => rfl
  | .arr (item :: rest), stack => by
    have first : Delivers ⟨stack, .firstItem⟩ item.tokens ⟨stack, .afterItem [item]⟩ := by
      rw [Delivers, foldlM_firstItem]
      exact delivers_tokens item (.array [] :: stack)
    have others := delivers_tokensItems rest [item] stack
    exact first.append others
  | .obj [], stack => rfl
  | .obj ((key, value) :: rest), stack => by
    have first := delivers_tokens value (.object [] (some key) :: stack)
    have others := delivers_tokensMembers rest [(key, value)] stack
    exact first.append others

theorem delivers_tokensItems : ∀ (items before : List Json) (stack : List Frame),
    Delivers ⟨stack, .afterItem before⟩ (tokensItems items)
      (Reader.deliver (.arr (before.reverse ++ items)) stack)
  | [], before, stack => by
    rw [List.append_nil]
    rfl
  | item :: rest, before, stack => by
    have first := delivers_tokens item (.array before :: stack)
    have others := delivers_tokensItems rest (item :: before) stack
    rw [List.reverse_cons, List.append_assoc] at others
    exact first.append others

theorem delivers_tokensMembers : ∀ (members before : List (String × Json)) (stack : List Frame),
    Delivers ⟨stack, .afterMember (before.map fun m => (some m.1, m.2))⟩ (tokensMembers members)
      (Reader.deliver (.obj (before.reverse ++ members)) stack)
  | [], before, stack => by
    have read := objectOf_named before.reverse
    rw [List.reverse_reverse] at read
    rw [List.append_nil, ← read]
    rfl
  | (key, value) :: rest, before, stack => by
    have first := delivers_tokens value
      (.object (before.map fun m => (some m.1, m.2)) (some key) :: stack)
    have others := delivers_tokensMembers rest ((key, value) :: before) stack
    rw [List.reverse_cons, List.append_assoc] at others
    exact first.append others

end

theorem ofTokens?_tokens (j : Json) : ofTokens? j.tokens = some j := by
  have read := delivers_tokens j []
  rw [ofTokens?, Reader.start, read]
  rfl

theorem read?_render (indented : Bool) {j : Json} (h : j.ReadsBack) :
    read? (j.render indented) = some j := by
  have lexed : Json.tokens? (j.render indented).toList = some j.tokens := by
    cases indented with
    | false => exact (String.toList_ofList ▸ adds_compact j h : Adds _ _).tokens?
    | true => exact (String.toList_ofList ▸ adds_pretty 0 j h : Adds _ _).tokens?
  rw [read?, lexed]
  exact ofTokens?_tokens j

end KubeEntities.Json
