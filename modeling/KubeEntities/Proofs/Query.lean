import KubeEntities.Proofs.Number.Text
import KubeEntities.Query
import Mathlib.Data.List.Perm.Basic

/-! Value predicates compare numbers. Their comparison of texts tells numbers apart, and nothing
else (`Value.text_eq_text_iff`), so the two predicates on a value split a family between them
(`run_splits`). -/

namespace KubeEntities

theorem Magnitude.eq_of_units_eq {x y : Magnitude} (h : x.units = y.units) : x = y := by
  have nearest (z : Magnitude) : nearest? z.units 1 = some z :=
    nearest?_of_covers Nat.one_pos (by simpa using z.covers_units)
  exact Option.some.inj (by rw [← nearest x, ← nearest y, h])

namespace Number

/-- The same binary64 value: all NaN are one, and the two zeros are not. -/
def IsSame : Number → Number → Prop
  | .nan, .nan => True
  | .infinite s, .infinite t => s = t
  | .finite s x, .finite t y => s = t ∧ x.units = y.units
  | _, _ => False

theorem isSame_iff {a b : Number} : a.IsSame b ↔ a = b := by
  constructor
  · intro same
    cases a with
    | nan =>
      cases b with
      | nan => rfl
      | infinite t => exact same.elim
      | finite t y => exact same.elim
    | infinite s =>
      cases b with
      | nan => exact same.elim
      | infinite t => exact congrArg infinite same
      | finite t y => exact same.elim
    | finite s x =>
      cases b with
      | nan => exact same.elim
      | infinite t => exact same.elim
      | finite t y => rw [same.1, Magnitude.eq_of_units_eq same.2]
  · rintro rfl
    cases a with
    | nan => trivial
    | infinite s => rfl
    | finite s x => exact ⟨rfl, rfl⟩

theorem text_injective {a b : Number} (h : a.text = b.text) : a = b :=
  Option.some.inj (by rw [← ofText?_text a, ← ofText?_text b, h])

theorem text_ne_empty (a : Number) : a.text ≠ "" := by
  intro empty
  have read := ofText?_text a
  rw [empty] at read
  cases read

end Number

namespace Value

/-- No number on either side, or the same one; the kinds do not matter. -/
def SameNumber (v w : Value) : Prop :=
  match v.number?, w.number? with
  | none, none => True
  | some x, some y => x.IsSame y
  | _, _ => False

theorem sameNumber_iff {v w : Value} : v.SameNumber w ↔ v.number? = w.number? := by
  unfold SameNumber
  cases v.number? <;> cases w.number? <;> simp [Number.isSame_iff]

instance (v w : Value) : Decidable (v.SameNumber w) := decidable_of_iff _ sameNumber_iff.symm

theorem text_eq_text_iff (v w : Value) : v.text = w.text ↔ v.SameNumber w := by
  rw [sameNumber_iff]
  constructor
  · intro same
    unfold text at same
    cases mine : v.number? with
    | none =>
      cases theirs : w.number? with
      | none => rfl
      | some y =>
        rw [mine, theirs] at same
        exact absurd same.symm y.text_ne_empty
    | some x =>
      cases theirs : w.number? with
      | none =>
        rw [mine, theirs] at same
        exact absurd same x.text_ne_empty
      | some y =>
        rw [mine, theirs] at same
        rw [Number.text_injective same]
  · intro same
    rw [text, text, same]

end Value

namespace Query

def kept (q : Query) (f : Family) : List Series := (q.run f).elim [] Family.series

theorem kept_eq {q : Query} {f : Family} (named : f.name = q.metric) :
    q.kept f = f.series.filter q.keeps := by
  rw [kept, run, if_pos named]
  cases found : f.series.filter q.keeps <;> rfl

theorem run_eq {q : Query} {f : Family} (named : f.name = q.metric) :
    q.run f = if q.kept f = [] then none
      else some ⟨q.customName.getD f.name, f.kind, q.kept f⟩ := by
  rw [kept_eq named, run, if_pos named]
  simp only [List.isEmpty_iff]

/-- The query that tells the series with a value from the others. -/
def onValue (metric : String) (custom : Option String) (w : Value) (a : Admission) : Query :=
  ⟨metric, none, some ⟨a, w⟩, custom⟩

theorem keeps_onValue (metric : String) (custom : Option String) (w : Value) (a : Admission)
    (s : Series) :
    (onValue metric custom w a).keeps s = a.admits (decide (s.value.SameNumber w)) := by
  have compared : (s.value.text == w.text) = decide (s.value.SameNumber w) := by
    rw [Bool.beq_eq_decide_eq]
    exact decide_eq_decide.2 (s.value.text_eq_text_iff w)
  simp [keeps, onValue, keepsValue, compared]

/-- Values are told apart by their numbers alone, so that the series of a family go to one of the
two queries on a value if they have the number of that value, and to the other one if not. -/
theorem run_splits :
    (∀ v w : Value, v.text = w.text ↔ v.SameNumber w) ∧
    ∀ (f : Family) (metric : String) (custom : Option String) (w : Value),
      let query := onValue metric custom w
      if f.name = metric then
        (query .and).kept f = f.series.filter (fun s => decide (s.value.SameNumber w)) ∧
          (query .nor).kept f = f.series.filter (fun s => !decide (s.value.SameNumber w)) ∧
          ((query .and).kept f ++ (query .nor).kept f).Perm f.series ∧
          ∀ a, (query a).run f = if (query a).kept f = [] then none
            else some ⟨custom.getD f.name, f.kind, (query a).kept f⟩
      else ∀ a, (query a).run f = none := by
  refine ⟨Value.text_eq_text_iff, fun f metric custom w => ?_⟩
  intro query
  split
  · rename_i named
    have sides (a : Admission) : (query a).kept f =
        f.series.filter fun s => a.admits (decide (s.value.SameNumber w)) := by
      rw [kept_eq (q := query a) named]
      exact List.filter_congr fun s _ => keeps_onValue metric custom w a s
    refine ⟨sides .and, sides .nor, ?_, fun a => run_eq (q := query a) named⟩
    rw [sides, sides]
    exact List.filter_append_perm _ _
  · rename_i other
    exact fun a => if_neg other

/-- A value is found whatever its kind, and the negative zero is not the other one. -/
example :
    let f : Family := ⟨"m", .gauge, [⟨∅, .gauge (.zero false)⟩, ⟨∅, .counter (.zero true)⟩,
      ⟨∅, .absent⟩, ⟨∅, .untyped (.zero false)⟩]⟩
    let query := onValue "m" none (.counter (.zero false))
    (query .and).kept f = [⟨∅, .gauge (.zero false)⟩, ⟨∅, .untyped (.zero false)⟩] ∧
      (query .nor).kept f = [⟨∅, .counter (.zero true)⟩, ⟨∅, .absent⟩] := by
  decide +kernel

end Query
end KubeEntities
