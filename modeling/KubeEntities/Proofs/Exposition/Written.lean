import KubeEntities.Exposition.Line
import KubeEntities.Proofs.SortedMap
import KubeEntities.Proofs.Text.Integer

/-! The written form of families. A family is a line that declares its kind and one line for each
series; values of labels are quoted, with backslash, quote and line feed escaped. Each line is read
back as what it was written for (`ofChars_declarationLine`, `ofChars_line`). -/

namespace KubeEntities.Exposition

/-- Letters, digits and `_`. Beyond ASCII every character but white space is taken for a letter. -/
def isNameChar (c : Char) : Bool :=
  c.isAlphanum || c == '_' || (0x80 ≤ c.toNat && !Text.isBlank c)

def isLabelName (name : String) : Bool := !name.isEmpty && name.toList.all isNameChar

/-- A colon may stand anywhere, a digit not at the start. -/
def isMetricName (name : String) : Bool :=
  !name.isEmpty && name.toList.all (fun c => isNameChar c || c == ':')
    && !name.toList.head?.any Char.isDigit

/-- A series as it is written: its labels in some order, the text of its number, and maybe the time
at which it was taken. -/
structure WrittenSample where
  labels : Labels
  listed : List (String × String)
  listed_perm : listed.Perm labels.entries
  named : ∀ label ∈ listed, isLabelName label.1 = true
  /-- whether braces stand around no labels too -/
  braced : Bool
  token : List Char
  number : Number
  unbroken : ∀ c ∈ token, Text.isBlank c = false
  reads : Number.ofChars? token = some number
  timestamp : Option Int64

structure WrittenFamily where
  name : String
  kind : Kind
  samples : List WrittenSample
  named : isMetricName name = true
  filled : samples ≠ []

def WrittenSample.series (kind : Kind) (s : WrittenSample) : Series :=
  ⟨s.labels, .ofKind kind s.number⟩

def WrittenFamily.family (f : WrittenFamily) : Family :=
  ⟨f.name, f.kind, f.samples.map (·.series f.kind)⟩

def escaped (c : Char) : List Char :=
  if c = '\\' then ['\\', '\\']
  else if c = '"' then ['\\', '"']
  else if c = '\n' then ['\\', 'n']
  else [c]

def writtenLabel (label : String × String) : List Char :=
  label.1.toList ++ '=' :: '"' :: label.2.toList.flatMap escaped ++ ['"']

namespace WrittenSample

def block (s : WrittenSample) : List Char :=
  if s.listed.isEmpty && !s.braced then []
  else '\x7b' :: List.intercalate [','] (s.listed.map writtenLabel) ++ ['\x7d']

def timeText (s : WrittenSample) : List Char :=
  s.timestamp.elim [] fun time => ' ' :: (toString time.toInt).toList

def line (name : String) (s : WrittenSample) : List Char :=
  name.toList ++ s.block ++ ' ' :: s.token ++ s.timeText

end WrittenSample

/-- The comment `# TYPE name kind`, from behind its `#`. -/
def declaration (name : String) (kind : Kind) : List Char :=
  ' ' :: ['T', 'Y', 'P', 'E'] ++ ' ' :: name.toList ++ ' ' :: kind.name.toList

def declarationLine (name : String) (kind : Kind) : List Char := '#' :: declaration name kind

def WrittenFamily.lines (f : WrittenFamily) : List (List Char) :=
  declarationLine f.name f.kind :: f.samples.map (·.line f.name)

def written (families : List WrittenFamily) : String :=
  String.ofList ((families.flatMap WrittenFamily.lines).flatMap (· ++ ['\n']))

theorem visible_of_isAlphanum {c : Char} (h : c.isAlphanum = true) :
    0x20 < c.toNat ∧ c.toNat < 0x80 := by
  delta Char.isAlphanum Char.isAlpha Char.isUpper Char.isLower Char.isDigit at h
  simp only [Bool.or_eq_true, Bool.and_eq_true, decide_eq_true_eq, UInt32.le_iff_toNat_le,
    ge_iff_le] at h
  change ((65 ≤ c.toNat ∧ c.toNat ≤ 90) ∨ (97 ≤ c.toNat ∧ c.toNat ≤ 122)) ∨
    (48 ≤ c.toNat ∧ c.toNat ≤ 57) at h
  omega

theorem isBlank_of_isNameChar {c : Char} (h : isNameChar c = true) : Text.isBlank c = false := by
  simp only [isNameChar, Bool.or_eq_true, Bool.and_eq_true, beq_iff_eq, Bool.not_eq_true'] at h
  rcases h with (ascii | rfl) | ⟨_, plain⟩
  · obtain ⟨low, high⟩ := visible_of_isAlphanum ascii
    exact Text.isBlank_eq_false_of_visible low high
  · decide
  · exact plain

theorem ne_of_isNameChar {c d : Char} (h : isNameChar c = true) (other : isNameChar d = false) :
    c ≠ d := by
  rintro rfl
  rw [h] at other
  cases other

theorem isWord_of_unbroken {name : String} (filled : name.isEmpty = false)
    (unbroken : ∀ c ∈ name.toList, Text.isBlank c = false) : Text.IsWord name.toList where
  nonempty nothing := by
    rw [String.toList_eq_nil_iff] at nothing
    rw [nothing] at filled
    cases filled
  unbroken := unbroken

theorem isLabelName_iff {name : String} :
    isLabelName name = true ↔ name.isEmpty = false ∧ ∀ c ∈ name.toList, isNameChar c = true := by
  simp [isLabelName]

theorem isWord_of_isLabelName {name : String} (h : isLabelName name = true) :
    Text.IsWord name.toList := by
  obtain ⟨filled, chars⟩ := isLabelName_iff.1 h
  exact isWord_of_unbroken filled fun c hc => isBlank_of_isNameChar (chars c hc)

theorem mem_metricName {name : String} (h : isMetricName name = true) {c : Char}
    (hc : c ∈ name.toList) : endsName c = false ∧ c ≠ '#' := by
  simp only [isMetricName, Bool.and_eq_true, List.all_eq_true, Bool.or_eq_true, beq_iff_eq] at h
  rcases h.1.2 c hc with char | rfl
  · have brace : c ≠ '\x7b' := ne_of_isNameChar char (by decide)
    exact ⟨by simp [endsName, brace, isBlank_of_isNameChar char], ne_of_isNameChar char (by decide)⟩
  · decide

theorem isWord_of_isMetricName {name : String} (h : isMetricName name = true) :
    Text.IsWord name.toList := by
  refine isWord_of_unbroken ?_ fun c hc => ?_
  · simp only [isMetricName, Bool.and_eq_true, Bool.not_eq_true'] at h
    exact h.1.1
  · have ends := (mem_metricName h hc).1
    simp only [endsName, Bool.or_eq_false_iff] at ends
    exact ends.2

theorem isWord_kind_name (kind : Kind) : Text.IsWord kind.name.toList := by
  cases kind <;> exact ⟨by decide, Text.unbroken_of_all (by decide)⟩

/-! Labels -/

theorem scanLabels_name (labels : Labels) {name : List Char}
    (h : ∀ c ∈ name, isNameChar c = true) (read rest : List Char) :
    scanLabels labels (.name read) (name ++ '=' :: rest) =
      scanLabels labels (.opening (String.ofList (Text.trim (read.reverse ++ name)))) rest := by
  induction name generalizing read with
  | nil => simp [scanLabels]
  | cons c name ih =>
    have apart : c ≠ '=' := ne_of_isNameChar (h c List.mem_cons_self) (by decide)
    rw [List.cons_append, scanLabels, if_neg apart,
      ih (fun d hd => h d (List.mem_cons_of_mem _ hd)), List.reverse_cons, List.append_assoc,
      List.singleton_append]

theorem scanLabels_escaped (labels : Labels) (label : String) (c : Char) (read rest : List Char) :
    scanLabels labels (.value label read) (escaped c ++ rest) =
      scanLabels labels (.value label (c :: read)) rest := by
  unfold escaped
  split
  · rename_i same
    simp [scanLabels, same]
  · split
    · rename_i same
      simp [scanLabels, same]
    · split
      · rename_i same
        simp [scanLabels, same]
      · rename_i backslash quote _
        simp [scanLabels, backslash, quote]

theorem scanLabels_value (labels : Labels) (label : String) (value read rest : List Char) :
    scanLabels labels (.value label read) (value.flatMap escaped ++ '"' :: rest) =
      scanLabels (labels.insert label (String.ofList (read.reverse ++ value))) .between rest := by
  induction value generalizing read with
  | nil => simp [scanLabels]
  | cons c value ih =>
    rw [List.flatMap_cons, List.append_assoc, scanLabels_escaped, ih, List.reverse_cons,
      List.append_assoc, List.singleton_append]

theorem scanLabels_label (labels : Labels) {label : String × String}
    (h : isLabelName label.1 = true) (rest : List Char) :
    scanLabels labels .between (writtenLabel label ++ rest) =
      scanLabels (labels.insert label.1 label.2) .between rest := by
  obtain ⟨_, chars⟩ := isLabelName_iff.1 h
  have word := isWord_of_isLabelName h
  obtain ⟨c, name, spelled⟩ := List.exists_cons_of_ne_nil word.nonempty
  have first : isNameChar c = true := chars c (spelled ▸ List.mem_cons_self)
  have plain : (Text.isBlank c || c == ',') = false := by
    simp [isBlank_of_isNameChar first, ne_of_isNameChar first (d := ',') (by decide)]
  have inner : c ≠ '\x7d' := ne_of_isNameChar first (by decide)
  have trimmed : String.ofList (Text.trim (c :: name)) = label.1 := by
    rw [← spelled, word.trim, String.ofList_toList]
  have others : ∀ d ∈ name, isNameChar d = true := fun d hd =>
    chars d (spelled ▸ List.mem_cons_of_mem _ hd)
  simp only [writtenLabel, spelled, List.cons_append, List.append_assoc]
  rw [scanLabels, if_neg (by simp [plain]), if_neg inner, scanLabels_name labels others,
    List.reverse_singleton, List.singleton_append, trimmed, scanLabels, if_pos rfl,
    List.nil_append, scanLabels_value, List.reverse_nil, List.nil_append, String.ofList_toList]

theorem scanLabels_listed (labels : Labels) {listed : List (String × String)}
    (h : ∀ label ∈ listed, isLabelName label.1 = true) (rest : List Char) :
    scanLabels labels .between
        (List.intercalate [','] (listed.map writtenLabel) ++ '\x7d' :: rest) =
      .ok (listed.foldl (fun m e => m.insert e.1 e.2) labels, rest) := by
  induction listed generalizing labels with
  | nil => simp [scanLabels, Text.isBlank]
  | cons label listed ih =>
    have first := h label List.mem_cons_self
    have others := fun e he => h e (List.mem_cons_of_mem _ he)
    -- behind the last label stands the brace, behind any other a comma
    cases listed with
    | nil =>
      rw [List.map_singleton, List.intercalate_singleton, scanLabels_label labels first]
      simp [scanLabels, Text.isBlank]
    | cons next listed =>
      rw [List.map_cons, List.map_cons, List.intercalate_cons_cons, List.append_assoc,
        List.append_assoc, scanLabels_label labels first, List.singleton_append, scanLabels,
        if_pos (by decide)]
      exact ih _ others

/-! Lines -/

namespace WrittenSample

theorem labelBlock_block (s : WrittenSample) (rest : List Char) :
    labelBlock (s.block ++ ' ' :: rest) = .ok (s.labels, ' ' :: rest) := by
  unfold block
  split
  · rename_i bare
    have nothing : s.listed = [] := by
      simpa using (Bool.and_eq_true_iff.1 bare).1
    have no_labels : SortedMap.ofList [] = s.labels :=
      SortedMap.ofList_of_perm (nothing ▸ s.listed_perm)
    rw [← no_labels]
    rfl
  · have all : s.listed.foldl (fun m e => m.insert e.1 e.2) ∅ = s.labels :=
      SortedMap.ofList_of_perm s.listed_perm
    rw [List.cons_append, List.cons_append, List.append_assoc, labelBlock, List.singleton_append,
      scanLabels_listed ∅ s.named, all]

theorem isWord_token (s : WrittenSample) : Text.IsWord s.token where
  nonempty nothing := by
    have unread : Number.ofChars? [] = none := by decide
    have reads := s.reads
    rw [nothing, unread] at reads
    cases reads
  unbroken := s.unbroken

theorem sampleNumber_fields (s : WrittenSample) (name : String) :
    sampleNumber name (Text.fields (' ' :: s.token ++ s.timeText)) = .ok s.number := by
  rw [List.cons_append, Text.fields_blank_cons (by decide)]
  unfold timeText
  cases s.timestamp with
  | none =>
    rw [Option.elim, List.append_nil, s.isWord_token.fields]
    simp [sampleNumber, s.reads]
  | some time =>
    rw [Option.elim, s.isWord_token.fields_append (by decide), (Text.isWord_toString _).fields]
    simp only [sampleNumber, s.reads, Text.signed64?_toString]

theorem block_append (s : WrittenSample) (rest : List Char) :
    ∃ c more, s.block ++ ' ' :: rest = c :: more ∧ endsName c = true := by
  unfold block
  split
  · exact ⟨' ', rest, rfl, by decide⟩
  · exact ⟨'\x7b', _, rfl, by decide⟩

theorem ofChars_line (s : WrittenSample) {name : String} (h : isMetricName name = true) :
    Sample.ofChars (s.line name) = .ok ⟨name, s.labels, s.number⟩ := by
  have word := isWord_of_isMetricName h
  have inner : ∀ c ∈ name.toList, (!endsName c) = true := fun c hc => by
    simp [(mem_metricName h hc).1]
  obtain ⟨c, more, behind, ends⟩ := s.block_append (s.token ++ s.timeText)
  have cut : s.line name = name.toList ++ c :: more := by
    rw [line, List.append_assoc, List.append_assoc, List.cons_append, behind]
  have read : labelBlock (c :: more) = .ok (s.labels, ' ' :: (s.token ++ s.timeText)) := by
    rw [← behind, s.labelBlock_block]
  have number := s.sampleNumber_fields name
  rw [List.cons_append] at number
  rw [cut, Sample.ofChars, List.takeWhile_append_of_pos inner, List.dropWhile_append_of_pos inner]
  simp [ends, word.nonempty, read, number, bind, Except.bind, pure, Except.pure]

theorem exists_last_word (s : WrittenSample) (name : String) :
    ∃ middle last, s.line name = name.toList ++ (middle ++ last) ∧ Text.IsWord last := by
  unfold line timeText
  cases s.timestamp with
  | none => exact ⟨s.block ++ [' '], s.token, by simp, s.isWord_token⟩
  | some time =>
    exact ⟨s.block ++ ' ' :: s.token ++ [' '], (toString time.toInt).toList, by simp,
      Text.isWord_toString _⟩

end WrittenSample

theorem ofChars_line (s : WrittenSample) {name : String} (h : isMetricName name = true) :
    Line.ofChars (s.line name) = .sample ⟨name, s.labels, s.number⟩ := by
  have word := isWord_of_isMetricName h
  obtain ⟨middle, last, ends, last_word⟩ := s.exists_last_word name
  obtain ⟨c, more, spelled⟩ := List.exists_cons_of_ne_nil word.nonempty
  have no_comment : c ≠ '#' := (mem_metricName h (spelled ▸ List.mem_cons_self)).2
  have trimmed : Text.trim (s.line name) = s.line name := by
    rw [ends, word.trim_append last_word]
  have sample := s.ofChars_line h
  rw [Line.ofChars, trimmed]
  rw [ends, spelled, List.cons_append] at sample ⊢
  -- the line is not blank, and its first character is of the name, so it starts no comment
  split
  · contradiction
  · rename_i same
    cases same
    exact absurd rfl no_comment
  · rw [sample]

theorem declaredKind_name (kind : Kind) : declaredKind kind.name.toList = kind := by
  cases kind <;> decide

theorem fields_declaration {name : String} (h : isMetricName name = true) (kind : Kind) :
    Text.fields (declaration name kind) =
      [['T', 'Y', 'P', 'E'], name.toList, kind.name.toList] := by
  have type : Text.IsWord ['T', 'Y', 'P', 'E'] := ⟨by decide, Text.unbroken_of_all (by decide)⟩
  have spelled : declaration name kind =
      ' ' :: (['T', 'Y', 'P', 'E'] ++ ' ' :: (name.toList ++ ' ' :: kind.name.toList)) := by
    simp only [declaration, List.cons_append, List.append_assoc]
  rw [spelled, Text.fields_blank_cons (by decide), type.fields_append (by decide),
    (isWord_of_isMetricName h).fields_append (by decide), (isWord_kind_name kind).fields]

theorem ofChars_declarationLine {name : String} (h : isMetricName name = true) (kind : Kind) :
    Line.ofChars (declarationLine name kind) = .declaration name kind := by
  have hash : Text.IsWord ['#'] := ⟨by decide, Text.unbroken_of_all (by decide)⟩
  have trimmed : Text.trim (declarationLine name kind) = declarationLine name kind := by
    have ends : declarationLine name kind =
        ['#'] ++ ((' ' :: ['T', 'Y', 'P', 'E'] ++ ' ' :: name.toList ++ [' ']) ++
          kind.name.toList) := by
      simp only [declarationLine, declaration, List.cons_append, List.append_assoc,
        List.nil_append]
    rw [ends, hash.trim_append (isWord_kind_name kind)]
  have read : comment (declaration name kind) = .declaration name kind := by
    rw [comment, fields_declaration h kind]
    simp only [String.ofList_toList, declaredKind_name]
  rw [Line.ofChars, trimmed]
  exact read

/-! No line feed is written within a line. -/

theorem newline_notMem_escaped (c : Char) : '\n' ∉ escaped c := by
  unfold escaped
  split
  · decide
  · split
    · decide
    · split
      · decide
      · rename_i other
        simpa using Ne.symm other

theorem newline_notMem_writtenLabel {label : String × String} (h : isLabelName label.1 = true) :
    '\n' ∉ writtenLabel label := by
  have name := (isWord_of_isLabelName h).newline_notMem
  have value : '\n' ∉ label.2.toList.flatMap escaped := by
    rw [List.mem_flatMap]
    rintro ⟨c, _, inside⟩
    exact newline_notMem_escaped c inside
  simp only [writtenLabel, List.mem_append, List.mem_cons, not_or]
  exact ⟨⟨name, by decide, by decide, value⟩, by decide, List.not_mem_nil⟩

theorem newline_notMem_listed {listed : List (String × String)}
    (h : ∀ label ∈ listed, isLabelName label.1 = true) :
    '\n' ∉ List.intercalate [','] (listed.map writtenLabel) := by
  induction listed with
  | nil => exact List.not_mem_nil
  | cons label listed ih =>
    have first := newline_notMem_writtenLabel (h label List.mem_cons_self)
    have others := ih fun e he => h e (List.mem_cons_of_mem _ he)
    cases listed with
    | nil => simpa using first
    | cons next listed =>
      rw [List.map_cons, List.map_cons, List.intercalate_cons_cons, List.mem_append,
        List.mem_append, not_or, not_or]
      exact ⟨⟨first, by decide⟩, others⟩

theorem newline_notMem_line (s : WrittenSample) {name : String} (h : isMetricName name = true) :
    '\n' ∉ s.line name := by
  have block : '\n' ∉ s.block := by
    unfold WrittenSample.block
    split
    · exact List.not_mem_nil
    · simp only [List.mem_append, List.mem_cons, not_or]
      exact ⟨⟨by decide, newline_notMem_listed s.named⟩, by decide, List.not_mem_nil⟩
  have time : '\n' ∉ s.timeText := by
    unfold WrittenSample.timeText
    cases s.timestamp with
    | none => exact List.not_mem_nil
    | some time =>
      rw [Option.elim, List.mem_cons, not_or]
      exact ⟨by decide, (Text.isWord_toString time.toInt).newline_notMem⟩
  simp only [WrittenSample.line, List.mem_append, List.mem_cons, not_or]
  exact ⟨⟨⟨(isWord_of_isMetricName h).newline_notMem, block⟩, by decide,
    s.isWord_token.newline_notMem⟩, time⟩

theorem newline_notMem_declarationLine {name : String} (h : isMetricName name = true)
    (kind : Kind) : '\n' ∉ declarationLine name kind := by
  simp only [declarationLine, declaration, List.mem_append, List.mem_cons, not_or]
  exact ⟨by decide, ⟨by decide, by decide, (isWord_of_isMetricName h).newline_notMem⟩, by decide,
    (isWord_kind_name kind).newline_notMem⟩

end KubeEntities.Exposition
