/-! White space, by the Unicode property White_Space, and the three ways in which text is cut at it:
trimming both ends, splitting into fields, and splitting at a separator. -/

namespace KubeEntities.Text

def isBlank (c : Char) : Bool :=
  let n := c.toNat
  (0x09 ≤ n && n ≤ 0x0d) || n == 0x20 || n == 0x85 || n == 0xa0 || n == 0x1680
    || (0x2000 ≤ n && n ≤ 0x200a) || n == 0x2028 || n == 0x2029 || n == 0x202f
    || n == 0x205f || n == 0x3000

def trimStart (chars : List Char) : List Char := chars.dropWhile isBlank

def trimEnd (chars : List Char) : List Char := (chars.reverse.dropWhile isBlank).reverse

def trim (chars : List Char) : List Char := trimEnd (trimStart chars)

/-- The pieces between separators; one more than there are separators. -/
def splitAt (isSeparator : Char → Bool) : List Char → List (List Char)
  | [] => [[]]
  | c :: rest =>
    if isSeparator c then [] :: splitAt isSeparator rest
    else match splitAt isSeparator rest with
      | [] => [[c]]
      | piece :: pieces => (c :: piece) :: pieces

/-- The maximal runs without white space. -/
def fields (chars : List Char) : List (List Char) :=
  (splitAt isBlank chars).filter fun piece => !piece.isEmpty

/-- Lines end at line feeds. -/
def lines (s : String) : List (List Char) := splitAt (· == '\n') s.toList

theorem splitAt_ne_nil (isSeparator : Char → Bool) (chars : List Char) :
    splitAt isSeparator chars ≠ [] := by
  cases chars with
  | nil => simp [splitAt]
  | cons c rest =>
    rw [splitAt]
    split
    · simp
    · split <;> simp

theorem not_isSeparator_of_mem_splitAt {isSeparator : Char → Bool} {chars piece : List Char}
    (h : piece ∈ splitAt isSeparator chars) : ∀ c ∈ piece, isSeparator c = false := by
  induction chars generalizing piece with
  | nil => simp_all [splitAt]
  | cons c rest ih =>
    rw [splitAt] at h
    split at h
    · rcases List.mem_cons.1 h with rfl | h
      · simp
      · exact ih h
    · rename_i plain
      split at h
      · rename_i eq
        exact absurd eq (splitAt_ne_nil _ _)
      · rename_i first others eq
        rcases List.mem_cons.1 h with rfl | h
        · intro x hx
          rcases List.mem_cons.1 hx with rfl | hx
          · simpa using plain
          · exact ih (eq ▸ List.mem_cons_self) x hx
        · exact ih (eq ▸ List.mem_cons_of_mem _ h)

end KubeEntities.Text
