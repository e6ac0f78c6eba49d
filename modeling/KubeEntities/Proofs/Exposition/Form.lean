import KubeEntities.Exposition.Line
import KubeEntities.Proofs.Text.Cut

/-! The forms of a sample line. A line is read as a sample exactly when it is put together from a
name, at most one block of labels and fields, the first of them a number and the second, if there is
one, a whole number (`ofChars_eq_ok_iff`). The line determines its parts (`SampleForm.eq_of_text`).
Not every form is as strict as the format: fields may follow the second one, labels may be divided by
any number of commas, also by none, and a label's name may hold what marks off labels. -/

namespace KubeEntities.Exposition

def isGap (c : Char) : Bool := Text.isBlank c || c == ','

inductive Quotes : List Char → List Char → Prop
  | nil : Quotes [] []
  | plain {c : Char} {text value : List Char} :
      c ≠ '\\' → c ≠ '"' → Quotes text value → Quotes (c :: text) (c :: value)
  | escape {c : Char} {text value : List Char} :
      Quotes text value → Quotes ('\\' :: c :: text) ((if c = 'n' then '\n' else c) :: value)

/-- A label as it stands in a block, with what divides it from what stands before. -/
structure LabelForm where
  gap : List Char
  first : Char
  more : List Char
  quoted : List Char
  value : List Char
  gap_skipped : ∀ c ∈ gap, isGap c = true
  first_kept : isGap first = false
  first_inner : first ≠ '\x7d'
  more_ends : '=' ∉ more
  quotes : Quotes quoted value

/-- What stands between two braces. -/
structure BlockForm where
  labels : List LabelForm
  gap : List Char
  gap_skipped : ∀ c ∈ gap, isGap c = true

namespace LabelForm

def name (l : LabelForm) : List Char := Text.trim (l.first :: l.more)

def text (l : LabelForm) : List Char :=
  l.gap ++ l.first :: (l.more ++ '=' :: '"' :: (l.quoted ++ ['"']))

def label (l : LabelForm) : String × String := (String.ofList l.name, String.ofList l.value)

end LabelForm

namespace BlockForm

def inner (b : BlockForm) : List Char := b.labels.flatMap LabelForm.text ++ b.gap

def text (b : BlockForm) : List Char := '\x7b' :: (b.inner ++ ['\x7d'])

/-- Of several labels with one name the last one counts. -/
def addTo (b : BlockForm) (labels : Labels) : Labels :=
  (b.labels.map LabelForm.label).foldl (fun m e => m.insert e.1 e.2) labels

end BlockForm

/-- The text is what is left of a block, and then the rest. -/
def EndsBlock (found : Labels) (rest : List Char) (labels : Labels) (text : List Char) : Prop :=
  ∃ block : BlockForm, text = block.inner ++ '\x7d' :: rest ∧ block.addTo labels = found

def EndsValue (found : Labels) (rest : List Char) (labels : Labels) (label : String)
    (read text : List Char) : Prop :=
  ∃ quoted value behind, Quotes quoted value ∧ text = quoted ++ '"' :: behind ∧
    EndsBlock found rest (labels.insert label (String.ofList (read.reverse ++ value))) behind

/-- What the text must be for a scan that stands here to find these labels and leave this rest. -/
def Scan.Completes (found : Labels) (rest : List Char) (labels : Labels) :
    Scan → List Char → Prop
  | .between, text => EndsBlock found rest labels text
  | .name read, text => ∃ more behind, '=' ∉ more ∧ text = more ++ '=' :: '"' :: behind ∧
      EndsValue found rest labels (String.ofList (Text.trim (read.reverse ++ more))) [] behind
  | .opening label, text => ∃ behind, text = '"' :: behind ∧
      EndsValue found rest labels label [] behind
  | .value label read, text => EndsValue found rest labels label read text
  | .escape label read, text => ∃ c behind, text = c :: behind ∧
      EndsValue found rest labels label ((if c = 'n' then '\n' else c) :: read) behind

section
variable {found labels : Labels} {rest text : List Char} {c : Char} {label : String}
  {read : List Char}

/-! One character of a block -/

theorem not_endsBlock_nil : ¬ EndsBlock found rest labels [] := by
  rintro ⟨block, same, _⟩
  simp at same

theorem endsBlock_cons : EndsBlock found rest labels (c :: text) ↔
    (isGap c = true ∧ EndsBlock found rest labels text) ∨
    (c = '\x7d' ∧ labels = found ∧ text = rest) ∨
    (isGap c = false ∧ c ≠ '\x7d' ∧ Scan.Completes found rest labels (.name [c]) text) := by
  constructor
  · rintro ⟨⟨forms, last, skipped⟩, same, holds⟩
    cases forms with
    | nil =>
      cases last with
      | nil =>
        obtain ⟨rfl, rfl⟩ := List.cons.inj same
        exact .inr (.inl ⟨rfl, holds, rfl⟩)
      | cons d last =>
        obtain ⟨rfl, rfl⟩ := List.cons.inj same
        have ⟨gap, others⟩ := List.forall_mem_cons.1 skipped
        exact .inl ⟨gap, ⟨[], last, others⟩, rfl, holds⟩
    | cons form forms =>
      obtain ⟨gap, first, more, quoted, value, skipped', kept, inner, ends, quotes⟩ := form
      cases gap with
      | nil =>
        obtain ⟨rfl, rfl⟩ := List.cons.inj same
        refine .inr (.inr ⟨kept, inner, more, _, ends, ?_, quoted, value, _, quotes, rfl,
          ⟨forms, last, skipped⟩, rfl, holds⟩)
        simp [BlockForm.inner, List.flatMap_def]
      | cons d gap =>
        obtain ⟨rfl, rfl⟩ := List.cons.inj same
        have ⟨first_gap, others⟩ := List.forall_mem_cons.1 skipped'
        exact .inl ⟨first_gap, ⟨⟨gap, first, more, quoted, value, others, kept, inner, ends,
          quotes⟩ :: forms, last, skipped⟩, rfl, holds⟩
  · rintro (⟨gap, ⟨forms, last, skipped⟩, rfl, holds⟩ | ⟨rfl, rfl, rfl⟩ |
      ⟨kept, inner, more, _, ends, rfl, quoted, value, _, quotes, rfl, ⟨forms, last, skipped⟩, rfl,
        rfl⟩)
    · cases forms with
      | nil => exact ⟨⟨[], c :: last, List.forall_mem_cons.2 ⟨gap, skipped⟩⟩, rfl, holds⟩
      | cons form forms =>
        exact ⟨⟨{ form with
          gap := c :: form.gap
          gap_skipped := List.forall_mem_cons.2 ⟨gap, form.gap_skipped⟩ } :: forms, last, skipped⟩,
          rfl, holds⟩
    · exact ⟨⟨[], [], List.forall_mem_nil _⟩, rfl, rfl⟩
    · refine ⟨⟨⟨[], c, more, quoted, value, List.forall_mem_nil _, kept, inner, ends, quotes⟩ ::
        forms, last, skipped⟩, ?_, rfl⟩
      simp [BlockForm.inner, LabelForm.text]

theorem completes_name_cons (between : c ≠ '=') :
    Scan.Completes found rest labels (.name read) (c :: text) ↔
      Scan.Completes found rest labels (.name (c :: read)) text := by
  constructor
  · rintro ⟨more, behind, ends, same, holds⟩
    cases more with
    | nil =>
      obtain ⟨rfl, _⟩ := List.cons.inj same
      exact absurd rfl between
    | cons d more =>
      obtain ⟨rfl, rfl⟩ := List.cons.inj same
      refine ⟨more, behind, fun h => ends (List.mem_cons_of_mem _ h), rfl, ?_⟩
      simpa using holds
  · rintro ⟨more, behind, ends, rfl, holds⟩
    refine ⟨c :: more, behind, ?_, rfl, ?_⟩
    · simpa using ⟨Ne.symm between, ends⟩
    · simpa using holds

theorem completes_name_equals :
    Scan.Completes found rest labels (.name read) ('=' :: text) ↔
      Scan.Completes found rest labels
        (.opening (String.ofList (Text.trim read.reverse))) text := by
  constructor
  · rintro ⟨more, behind, ends, same, holds⟩
    cases more with
    | nil =>
      obtain ⟨_, rfl⟩ := List.cons.inj same
      exact ⟨behind, rfl, by simpa using holds⟩
    | cons d more =>
      obtain ⟨rfl, _⟩ := List.cons.inj same
      exact absurd List.mem_cons_self ends
  · rintro ⟨behind, rfl, holds⟩
    exact ⟨[], behind, List.not_mem_nil, rfl, by simpa using holds⟩

theorem endsValue_cons : EndsValue found rest labels label read (c :: text) ↔
    (c = '"' ∧ EndsBlock found rest
      (labels.insert label (String.ofList read.reverse)) text) ∨
    (c = '\\' ∧ Scan.Completes found rest labels (.escape label read) text) ∨
    (c ≠ '"' ∧ c ≠ '\\' ∧ EndsValue found rest labels label (c :: read) text) := by
  constructor
  · rintro ⟨quoted, value, behind, quotes, same, holds⟩
    cases quotes with
    | nil =>
      obtain ⟨rfl, rfl⟩ := List.cons.inj same
      exact .inl ⟨rfl, by simpa using holds⟩
    | plain backslash quote quotes =>
      obtain ⟨rfl, rfl⟩ := List.cons.inj same
      exact .inr (.inr ⟨quote, backslash, _, _, behind, quotes, rfl, by simpa using holds⟩)
    | escape quotes =>
      obtain ⟨rfl, rfl⟩ := List.cons.inj same
      exact .inr (.inl ⟨rfl, _, _, rfl, _, _, behind, quotes, rfl, by simpa using holds⟩)
  · rintro (⟨rfl, holds⟩ | ⟨rfl, d, _, rfl, quoted, value, behind, quotes, rfl, holds⟩ |
      ⟨quote, backslash, quoted, value, behind, quotes, rfl, holds⟩)
    · exact ⟨[], [], text, .nil, rfl, by simpa using holds⟩
    · exact ⟨_, _, behind, .escape quotes, rfl, by simpa using holds⟩
    · exact ⟨_, _, behind, .plain backslash quote quotes, rfl, by simpa using holds⟩

theorem not_completes_nil (scan : Scan) : ¬ scan.Completes found rest labels [] := by
  have no_value (label : String) (read : List Char) :
      ¬ EndsValue found rest labels label read [] := by
    rintro ⟨quoted, value, behind, _, same, _⟩
    simp at same
  cases scan with
  | between => exact not_endsBlock_nil
  | name read =>
    rintro ⟨more, behind, _, same, _⟩
    simp at same
  | opening label =>
    rintro ⟨behind, same, _⟩
    cases same
  | value label read => exact no_value label read
  | escape label read =>
    rintro ⟨d, behind, same, _⟩
    cases same

theorem scanLabels_eq_ok_iff (labels : Labels) (scan : Scan) (text : List Char) :
    scanLabels labels scan text = .ok (found, rest) ↔ scan.Completes found rest labels text := by
  induction text generalizing labels scan with
  | nil =>
    have refused : scanLabels labels scan [] ≠ .ok (found, rest) := by
      cases scan <;> simp [scanLabels]
    exact iff_of_false refused (not_completes_nil scan)
  | cons c text ih =>
    cases scan with
    | between =>
      rw [Scan.Completes, endsBlock_cons, scanLabels, ← isGap]
      by_cases gap : isGap c = true
      · rw [if_pos gap, ih, Scan.Completes]
        constructor
        · exact fun holds => .inl ⟨gap, holds⟩
        · rintro (⟨_, holds⟩ | ⟨rfl, _⟩ | ⟨kept, _⟩)
          · exact holds
          · exact absurd gap (by decide)
          · exact absurd (gap.symm.trans kept) (by decide)
      · rw [if_neg gap, Bool.eq_false_iff.2 gap]
        by_cases closed : c = '\x7d'
        · simp [closed]
        · rw [if_neg closed, ih]
          simp [closed]
    | name read =>
      rw [scanLabels]
      by_cases ends : c = '='
      · rw [if_pos ends, ih, ends, completes_name_equals]
      · rw [if_neg ends, ih, completes_name_cons ends]
    | opening label =>
      rw [scanLabels]
      by_cases quote : c = '"'
      · rw [if_pos quote, ih]
        simp [Scan.Completes, quote]
      · simp [Scan.Completes, quote]
    | value label read =>
      rw [Scan.Completes, endsValue_cons, scanLabels]
      by_cases backslash : c = '\\'
      · rw [if_pos backslash, ih]
        simp [backslash]
      · rw [if_neg backslash]
        by_cases quote : c = '"'
        · rw [if_pos quote, ih, Scan.Completes]
          simp [quote]
        · rw [if_neg quote, ih, Scan.Completes]
          simp [quote, backslash]
    | escape label read =>
      rw [scanLabels, ih]
      constructor
      · intro holds
        exact ⟨c, text, rfl, holds⟩
      · rintro ⟨d, behind, same, holds⟩
        obtain ⟨rfl, rfl⟩ := List.cons.inj same
        exact holds

theorem labelBlock_eq_ok_iff : labelBlock text = .ok (found, rest) ↔
    (∃ block : BlockForm, text = block.text ++ rest ∧ block.addTo ∅ = found) ∨
    (text.head? ≠ some '\x7b' ∧ ∅ = found ∧ text = rest) := by
  unfold labelBlock
  split
  · rw [scanLabels_eq_ok_iff]
    simp [Scan.Completes, EndsBlock, BlockForm.text]
  · rename_i unbraced
    have no_block (block : BlockForm) : text ≠ block.text ++ rest := fun same => unbraced _ same
    have head : text.head? ≠ some '\x7b' := by
      intro first
      obtain ⟨more, same⟩ := List.head?_eq_some_iff.1 first
      exact unbraced more same
    simp [no_block, head]

end

/-- What follows the labels: fields, the first of them a number, the second, if there is one, a
whole number, the time of the sample. -/
structure TailForm where
  text : List Char
  value : List Char
  more : List (List Char)
  number : Number
  cut : Text.fields text = value :: more
  reads : Number.ofChars? value = some number
  timed : ∀ timestamp ∈ more.head?, (Text.signed64? timestamp).isSome = true

theorem sampleNumber_eq_ok_iff {name : String} {text : List Char} {x : Number} :
    sampleNumber name (Text.fields text) = .ok x ↔
      ∃ tail : TailForm, tail.text = text ∧ tail.number = x := by
  constructor
  · intro read
    unfold sampleNumber at read
    split at read
    · cases read
    · rename_i value more cut
      split at read
      · cases read
      · rename_i y reads
        split at read
        · cases read
          exact ⟨⟨text, value, [], x, cut, reads, fun _ h => nomatch h⟩, rfl, rfl⟩
        · rename_i timestamp others
          split at read
          · cases read
          · rename_i time integer
            cases read
            refine ⟨⟨text, value, timestamp :: others, x, cut, reads, fun first h => ?_⟩, rfl, rfl⟩
            cases h
            rw [integer]
            rfl
  · rintro ⟨⟨text, value, more, x, cut, reads, timed⟩, rfl, rfl⟩
    cases more with
    | nil => simp [cut, sampleNumber, reads]
    | cons timestamp more =>
      obtain ⟨time, integer⟩ := Option.isSome_iff_exists.1 (timed timestamp rfl)
      simp [cut, sampleNumber, reads, integer]

/-- A line as it is put together; without labels, a blank stands behind the name. -/
structure SampleForm where
  name : List Char
  block : Option BlockForm
  tail : TailForm
  named : name ≠ []
  unbroken : ∀ c ∈ name, endsName c = false
  apart : block = none → ∃ c rest, tail.text = c :: rest ∧ Text.isBlank c = true

namespace SampleForm

def behind (form : SampleForm) : List Char :=
  form.block.elim [] BlockForm.text ++ form.tail.text

def text (form : SampleForm) : List Char := form.name ++ form.behind

def sample (form : SampleForm) : Sample :=
  ⟨String.ofList form.name, form.block.elim ∅ (·.addTo ∅), form.tail.number⟩

theorem kept_of_mem_name (form : SampleForm) : ∀ c ∈ form.name, (!endsName c) = true := by
  intro c hc
  rw [form.unbroken c hc]
  rfl

theorem exists_behind (form : SampleForm) :
    ∃ c rest, form.behind = c :: rest ∧ endsName c = true := by
  unfold behind
  cases block : form.block with
  | none =>
    obtain ⟨c, rest, same, blank⟩ := form.apart block
    exact ⟨c, rest, same, by simp [endsName, blank]⟩
  | some block => exact ⟨'\x7b', _, rfl, by decide⟩

theorem labelBlock_behind (form : SampleForm) :
    labelBlock form.behind = .ok (form.sample.labels, form.tail.text) := by
  rw [labelBlock_eq_ok_iff]
  unfold behind sample
  cases block : form.block with
  | none =>
    obtain ⟨c, rest, same, blank⟩ := form.apart block
    refine .inr ⟨?_, rfl, rfl⟩
    rw [Option.elim, List.nil_append, same]
    rintro ⟨⟩
    exact absurd blank (by decide)
  | some labels => exact .inl ⟨labels, rfl, rfl⟩

end SampleForm

theorem cut_of_ofChars {line : List Char} {s : Sample} (read : Sample.ofChars line = .ok s) :
    ∃ name behind rest, name ++ behind = line ∧ name ≠ [] ∧ (∀ c ∈ name, endsName c = false) ∧
      (∃ c more, behind = c :: more ∧ endsName c = true) ∧ s.name = String.ofList name ∧
      labelBlock behind = .ok (s.labels, rest) ∧
      sampleNumber (String.ofList name) (Text.fields rest) = .ok s.number := by
  unfold Sample.ofChars at read
  generalize cut : (line.takeWhile fun c => !endsName c) = name at read
  generalize left : (line.dropWhile fun c => !endsName c) = behind at read
  have whole : name ++ behind = line := by rw [← cut, ← left, List.takeWhile_append_dropWhile]
  have unbroken : ∀ c ∈ name, endsName c = false := by
    intro c hc
    rw [← cut] at hc
    simpa using List.all_eq_true.1 List.all_takeWhile c hc
  dsimp only at read
  split at read
  · cases read
  · rename_i remains
    obtain ⟨c, more, spelled⟩ := List.exists_cons_of_ne_nil (mt List.isEmpty_iff.2 remains)
    have ends : endsName c = true := by
      have stops := List.head?_dropWhile_not (fun c => !endsName c) line
      simpa [left, spelled] using stops
    split at read
    · cases read
    · rename_i filled
      have named : name ≠ [] := by simpa using filled
      cases block : labelBlock behind with
      | error e =>
        rw [block] at read
        cases read
      | ok found =>
        cases number : sampleNumber (String.ofList name) (Text.fields found.2) with
        | error e => simp [block, number, bind, Except.bind] at read
        | ok x =>
          simp only [block, number, bind, Except.bind, pure, Except.pure, Except.ok.injEq] at read
          subst read
          exact ⟨name, behind, found.2, whole, named, unbroken, ⟨c, more, spelled, ends⟩, rfl,
            block, number⟩

/-- A line is read as a sample exactly when it is put together so. -/
theorem ofChars_eq_ok_iff {line : List Char} {s : Sample} :
    Sample.ofChars line = .ok s ↔ ∃ form : SampleForm, form.text = line ∧ form.sample = s := by
  constructor
  · intro read
    obtain ⟨name, behind, rest, whole, named, unbroken, ⟨c, more, spelled, ends⟩, called, labeled,
      number⟩ := cut_of_ofChars read
    obtain ⟨sample, labels, x⟩ := s
    obtain ⟨tail, rfl, rfl⟩ := sampleNumber_eq_ok_iff.1 number
    obtain rfl : sample = String.ofList name := called
    rcases labelBlock_eq_ok_iff.1 labeled with ⟨block, rfl, rfl⟩ | ⟨unbraced, rfl, rfl⟩
    · exact ⟨⟨name, some block, tail, named, unbroken, nofun⟩, whole, rfl⟩
    · have brace : c ≠ '\x7b' := by
        rintro rfl
        exact unbraced (by rw [spelled]; rfl)
      have blank : Text.isBlank c = true := by simpa [endsName, brace] using ends
      exact ⟨⟨name, none, tail, named, unbroken, fun _ => ⟨c, more, spelled, blank⟩⟩, whole, rfl⟩
  · rintro ⟨form, rfl, rfl⟩
    have block := form.labelBlock_behind
    have number : sampleNumber (String.ofList form.name) (Text.fields form.tail.text) =
        .ok form.tail.number := sampleNumber_eq_ok_iff.2 ⟨form.tail, rfl, rfl⟩
    obtain ⟨c, rest, spelled, ends⟩ := form.exists_behind
    rw [spelled] at block
    rw [SampleForm.text, spelled, Sample.ofChars, List.takeWhile_append_of_pos form.kept_of_mem_name,
      List.dropWhile_append_of_pos form.kept_of_mem_name]
    simp [ends, form.named, block, number, bind, Except.bind, pure, Except.pure, SampleForm.sample]

/-! Lines -/

def isSampleLine (raw : List Char) : Bool :=
  match Text.trim raw with
  | [] => false
  | first :: _ => first != '#'

theorem Line.ofChars_of_isSampleLine {raw : List Char} (h : isSampleLine raw = true) :
    Line.ofChars raw = match Sample.ofChars (Text.trim raw) with
      | .ok s => .sample s
      | .error cause => .malformed cause := by
  unfold isSampleLine at h
  unfold Line.ofChars
  split at h
  · cases h
  · rename_i first more trimmed
    rw [trimmed]
    split
    · rename_i nothing
      cases nothing
    · rename_i hash
      cases hash
      cases h
    · rfl

theorem Line.ofChars_of_not_isSampleLine {raw : List Char} (h : isSampleLine raw = false) :
    Line.ofChars raw = .skipped ∨ ∃ name kind, Line.ofChars raw = .declaration name kind := by
  unfold isSampleLine at h
  unfold Line.ofChars
  split at h
  · rename_i nothing
    rw [nothing]
    exact .inl rfl
  · rename_i first more trimmed
    obtain rfl : first = '#' := by simpa using h
    rw [trimmed]
    change comment more = .skipped ∨ ∃ name kind, comment more = .declaration name kind
    unfold comment
    split
    · exact .inr ⟨_, _, rfl⟩
    · exact .inl rfl

theorem Line.ofChars_eq_sample_iff {raw : List Char} {s : Sample} : Line.ofChars raw = .sample s ↔
    isSampleLine raw = true ∧ Sample.ofChars (Text.trim raw) = .ok s := by
  cases counts : isSampleLine raw with
  | false =>
    rcases Line.ofChars_of_not_isSampleLine counts with read | ⟨name, kind, read⟩ <;> simp [read]
  | true =>
    rw [Line.ofChars_of_isSampleLine counts]
    cases Sample.ofChars (Text.trim raw) <;> simp

theorem Line.ofChars_eq_malformed_iff {raw : List Char} {cause : LineError} :
    Line.ofChars raw = .malformed cause ↔
      isSampleLine raw = true ∧ Sample.ofChars (Text.trim raw) = .error cause := by
  cases counts : isSampleLine raw with
  | false =>
    rcases Line.ofChars_of_not_isSampleLine counts with read | ⟨name, kind, read⟩ <;> simp [read]
  | true =>
    rw [Line.ofChars_of_isSampleLine counts]
    cases Sample.ofChars (Text.trim raw) <;> simp

theorem name_of_ofChars {line : List Char} {s : Sample} (h : Sample.ofChars line = .ok s) :
    s.name ≠ "" ∧ ∀ c ∈ s.name.toList, endsName c = false := by
  obtain ⟨form, _, rfl⟩ := ofChars_eq_ok_iff.1 h
  refine ⟨?_, ?_⟩
  · intro nothing
    exact form.named (by simpa [SampleForm.sample] using congrArg String.toList nothing)
  · simpa [SampleForm.sample] using form.unbroken

end KubeEntities.Exposition
