import KubeEntities.Proofs.Text.Cut
import Mathlib.Data.List.Basic

/-! Text put together from parts with a mark between them. A part that is known not to hold the mark
can be read back: the first (`eq_of_joined`), the last (`eq_of_joined_last`), and as many as there
are if only the last may hold it (`intercalate_inj`). -/

namespace KubeEntities.Text

theorem forall_bne_of_notMem {mark : Char} {part : List Char} (h : mark ∉ part) :
    ∀ c ∈ part, (c != mark) = true := by
  intro c hc
  rw [bne_iff_ne]
  rintro rfl
  exact h hc

theorem eq_of_marked {mark : Char} {l l' rest rest' : List Char} (h : mark ∉ l) (h' : mark ∉ l')
    (same : l ++ mark :: rest = l' ++ mark :: rest') : l = l' :=
  (run_unique (forall_bne_of_notMem h) (forall_bne_of_notMem h') (by simp) (by simp) same).1

section
variable {joint a b c d : String} {mark : Char} (single : joint.toList = [mark])
include single

theorem toList_joined (a b : String) :
    (a ++ (joint ++ b)).toList = a.toList ++ mark :: b.toList := by
  rw [String.toList_append, String.toList_append, single, List.singleton_append]

theorem eq_of_joined (ha : mark ∉ a.toList) (hb : mark ∉ b.toList)
    (h : a ++ (joint ++ c) = b ++ (joint ++ d)) : a = b := by
  have same := congrArg String.toList h
  rw [toList_joined single, toList_joined single] at same
  exact String.toList_inj.1 (eq_of_marked ha hb same)

theorem eq_of_joined_last (hc : mark ∉ c.toList) (hd : mark ∉ d.toList)
    (h : a ++ (joint ++ c) = b ++ (joint ++ d)) : c = d := by
  have same := congrArg (·.toList.reverse) h
  simp only [toList_joined single, List.reverse_append, List.reverse_cons, List.append_assoc,
    List.singleton_append] at same
  have parts := eq_of_marked (mt List.mem_reverse.1 hc) (mt List.mem_reverse.1 hd) same
  exact String.toList_inj.1 (List.reverse_inj.1 parts)

theorem eq_and_eq_of_joined (hc : mark ∉ c.toList) (hd : mark ∉ d.toList)
    (h : a ++ (joint ++ b) = c ++ (joint ++ d)) : a = c ∧ b = d := by
  have same := congrArg String.toList h
  rw [toList_joined single, toList_joined single] at same
  obtain ⟨before, _, behind⟩ := (List.append_cons_inj_of_notMem hc hd).1 same.symm
  exact ⟨String.toList_inj.1 before.symm, String.toList_inj.1 behind.symm⟩

theorem intercalate_inj {parts parts' : List String} (length : parts.length = parts'.length)
    (h : ∀ part ∈ parts.dropLast, mark ∉ part.toList)
    (h' : ∀ part ∈ parts'.dropLast, mark ∉ part.toList) :
    joint.intercalate parts = joint.intercalate parts' ↔ parts = parts' := by
  refine ⟨fun same => ?_, congrArg _⟩
  induction parts generalizing parts' with
  | nil => exact (List.length_eq_zero_iff.1 length.symm).symm
  | cons first rest ih =>
    obtain ⟨first', rest', rfl⟩ := List.exists_cons_of_length_eq_add_one length.symm
    replace length := Nat.succ.inj length
    cases rest with
    | nil =>
      obtain rfl := List.length_eq_zero_iff.1 length.symm
      simpa using same
    | cons second rest =>
      obtain ⟨second', rest', rfl⟩ := List.exists_cons_of_length_eq_add_one length.symm
      rw [List.dropLast_cons_cons, List.forall_mem_cons] at h h'
      rw [String.intercalate_cons_cons, String.intercalate_cons_cons, String.append_assoc,
        String.append_assoc] at same
      obtain rfl := eq_of_joined single h.1 h'.1 same
      simp only [String.append_right_inj] at same
      rw [ih length h.2 h'.2 same]

end

end KubeEntities.Text
