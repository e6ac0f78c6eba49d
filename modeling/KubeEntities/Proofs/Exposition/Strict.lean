import KubeEntities.Proofs.Exposition.Form
import Mathlib.Data.List.TakeWhile

/-! Which sample lines are well-formed. The parts of a line are determined by it
(`SampleForm.eq_of_text`), so an accepted line is well-formed exactly when its one form is strict: no
field behind the second, labels divided by one comma each, and no mark within a label's name
(`ofChars_reads`). -/

namespace KubeEntities.Exposition

/-- What divides labels, and their names from their values. -/
def isMark (c : Char) : Bool := c == '"' || c == ',' || c == '=' || c == '\x7b' || c == '\x7d'

/-- One comma stands between two labels, and maybe one behind the last. -/
def BlockForm.IsListed (block : BlockForm) : Prop :=
  match block.labels with
  | [] => ',' ∉ block.gap
  | first :: others => ',' ∉ first.gap ∧ (∀ label ∈ others, label.gap.count ',' = 1) ∧
      block.gap.count ',' ≤ 1

structure SampleForm.IsStrict (form : SampleForm) : Prop where
  timed_last : form.tail.more.length ≤ 1
  listed : ∀ block ∈ form.block, block.IsListed
  named : ∀ block ∈ form.block, ∀ label ∈ block.labels,
    label.name ≠ [] ∧ ∀ c ∈ label.name, isMark c = false

def IsWellFormed (line : List Char) : Prop := ∃ form : SampleForm, form.text = line ∧ form.IsStrict

def IsMisread (line : List Char) : Prop :=
  (∃ s, Sample.ofChars line = .ok s) ∧ ¬ IsWellFormed line

theorem Quotes.unique {quoted quoted' value value' rest rest' : List Char}
    (h : Quotes quoted value) (h' : Quotes quoted' value')
    (same : quoted ++ '"' :: rest = quoted' ++ '"' :: rest') :
    quoted = quoted' ∧ value = value' ∧ rest = rest' := by
  induction h generalizing quoted' value' with
  | nil =>
    cases h' with
    | nil => exact ⟨rfl, rfl, (List.cons.inj same).2⟩
    | plain _ quote _ => exact absurd (List.cons.inj same).1.symm quote
    | escape _ => exact absurd (List.cons.inj same).1 (by decide)
  | plain backslash quote _ ih =>
    cases h' with
    | nil => exact absurd (List.cons.inj same).1 quote
    | plain _ _ h' =>
      obtain ⟨rfl, others⟩ := List.cons.inj same
      obtain ⟨rfl, rfl, rfl⟩ := ih h' others
      exact ⟨rfl, rfl, rfl⟩
    | escape _ => exact absurd (List.cons.inj same).1 backslash
  | escape _ ih =>
    cases h' with
    | nil => exact absurd (List.cons.inj same).1 (by decide)
    | plain backslash _ _ => exact absurd (List.cons.inj same).1.symm backslash
    | escape h' =>
      obtain ⟨rfl, others⟩ := List.cons.inj (List.cons.inj same).2
      obtain ⟨rfl, rfl, rfl⟩ := ih h' others
      exact ⟨rfl, rfl, rfl⟩

theorem isGap_closing : isGap '\x7d' = false := by decide

theorem LabelForm.unique {form form' : LabelForm} {rest rest' : List Char}
    (same : form.text ++ rest = form'.text ++ rest') : form = form' ∧ rest = rest' := by
  obtain ⟨gap, first, more, quoted, value, skipped, kept, inner, ends, quotes⟩ := form
  obtain ⟨gap', first', more', quoted', value', skipped', kept', inner', ends', quotes'⟩ := form'
  simp only [LabelForm.text, List.append_assoc, List.cons_append, List.nil_append] at same
  have no_equals {more : List Char} (h : '=' ∉ more) : ∀ c ∈ more, (c != '=') = true := by
    intro c hc
    rw [bne_iff_ne]
    rintro rfl
    exact h hc
  obtain ⟨rfl, rfl, named⟩ := Text.run_unique skipped skipped' kept kept' same
  obtain ⟨rfl, _, opened⟩ :=
    Text.run_unique (no_equals ends) (no_equals ends') (by decide) (by decide) named
  obtain ⟨rfl, rfl, rfl⟩ := quotes.unique quotes' (List.cons.inj opened).2
  exact ⟨rfl, rfl⟩

theorem BlockForm.unique {block block' : BlockForm} {rest rest' : List Char}
    (same : block.text ++ rest = block'.text ++ rest') : block = block' ∧ rest = rest' := by
  obtain ⟨forms, gap, skipped⟩ := block
  obtain ⟨forms', gap', skipped'⟩ := block'
  simp only [text, inner, List.cons_append, List.append_assoc, List.nil_append, List.cons.injEq,
    true_and] at same
  -- the first place where the blocks could differ is in their first labels
  induction forms generalizing forms' with
  | nil =>
    cases forms' with
    | nil =>
      obtain ⟨rfl, _, rfl⟩ :=
        Text.run_unique skipped skipped' isGap_closing isGap_closing same
      exact ⟨rfl, rfl⟩
    | cons form' forms' =>
      simp only [List.flatMap_cons, LabelForm.text, List.append_assoc, List.cons_append] at same
      obtain ⟨_, brace, _⟩ := Text.run_unique skipped form'.gap_skipped isGap_closing
        form'.first_kept same
      exact absurd brace.symm form'.first_inner
  | cons form forms ih =>
    cases forms' with
    | nil =>
      simp only [List.flatMap_cons, LabelForm.text, List.append_assoc, List.cons_append] at same
      obtain ⟨_, brace, _⟩ := Text.run_unique form.gap_skipped skipped' form.first_kept
        isGap_closing same
      exact absurd brace form.first_inner
    | cons form' forms' =>
      simp only [List.flatMap_cons, List.append_assoc] at same
      obtain ⟨rfl, left⟩ := LabelForm.unique same
      obtain ⟨others, rfl⟩ := ih forms' left
      cases others
      exact ⟨rfl, rfl⟩

theorem TailForm.eq_of_text {tail tail' : TailForm} (same : tail.text = tail'.text) :
    tail = tail' := by
  obtain ⟨text, value, more, number, cut, reads, timed⟩ := tail
  obtain ⟨text', value', more', number', cut', reads', timed'⟩ := tail'
  obtain rfl : text = text' := same
  obtain ⟨rfl, rfl⟩ := List.cons.inj (cut.symm.trans cut')
  obtain rfl : number = number' := Option.some.inj (reads.symm.trans reads')
  rfl

theorem TailForm.ne_block {tail : TailForm} {block : BlockForm} {rest : List Char}
    (apart : ∃ c more, tail.text = c :: more ∧ Text.isBlank c = true) :
    tail.text ≠ block.text ++ rest := by
  obtain ⟨c, more, spelled, blank⟩ := apart
  rw [spelled]
  intro same
  rw [(List.cons.inj same).1] at blank
  exact absurd blank (by decide)

theorem SampleForm.eq_of_text {form form' : SampleForm} (same : form.text = form'.text) :
    form = form' := by
  have parts : form.name = form'.name ∧ form.behind = form'.behind := by
    obtain ⟨c, rest, spelled, ends⟩ := form.exists_behind
    obtain ⟨c', rest', spelled', ends'⟩ := form'.exists_behind
    rw [SampleForm.text, SampleForm.text, spelled, spelled'] at same
    obtain ⟨names, rfl, rfl⟩ := Text.run_unique form.kept_of_mem_name form'.kept_of_mem_name
      (by simp [ends]) (by simp [ends']) same
    exact ⟨names, spelled.trans spelled'.symm⟩
  obtain ⟨name, block, tail, named, unbroken, apart⟩ := form
  obtain ⟨name', block', tail', named', unbroken', apart'⟩ := form'
  obtain ⟨rfl, behind⟩ := parts
  cases block with
  | none =>
    cases block' with
    | none =>
      obtain rfl := TailForm.eq_of_text behind
      rfl
    | some block' => exact absurd behind (TailForm.ne_block (apart rfl))
  | some block =>
    cases block' with
    | none => exact absurd behind.symm (TailForm.ne_block (apart' rfl))
    | some block' =>
      obtain ⟨rfl, tails⟩ := BlockForm.unique behind
      obtain rfl := TailForm.eq_of_text tails
      rfl

theorem isWellFormed_text_iff (form : SampleForm) : IsWellFormed form.text ↔ form.IsStrict := by
  constructor
  · rintro ⟨form', same, strict⟩
    rwa [SampleForm.eq_of_text same] at strict
  · exact fun strict => ⟨form, rfl, strict⟩

theorem isMisread_text_iff (form : SampleForm) : IsMisread form.text ↔ ¬ form.IsStrict := by
  rw [IsMisread, isWellFormed_text_iff]
  exact and_iff_right ⟨form.sample, ofChars_eq_ok_iff.2 ⟨form, rfl, rfl⟩⟩

theorem LabelForm.name_ne_nil (label : LabelForm) : label.name ≠ [] := by
  have first : Text.isBlank label.first = false := (Bool.or_eq_false_iff.1 label.first_kept).1
  have start : Text.trimStart (label.first :: label.more) = label.first :: label.more := by
    simp [Text.trimStart, first]
  intro nothing
  rw [name, Text.trim, start, Text.trimEnd, List.reverse_eq_nil_iff, List.dropWhile_eq_nil_iff]
    at nothing
  have blank := nothing label.first (by simp)
  rw [first] at blank
  cases blank

/-! Lines of a sample `a` with the number one -/

def TailForm.one : TailForm :=
  ⟨[' ', '1'], ['1'], [], .ofInt 1, by decide +kernel, by decide +kernel, nofun⟩

def LabelForm.one (first : Char) (more : List Char) (kept : isGap first = false)
    (inner : first ≠ '\x7d') (ends : '=' ∉ more) : LabelForm :=
  ⟨[], first, more, ['1'], ['1'], nofun, kept, inner, ends, .plain (by decide) (by decide) .nil⟩

def SampleForm.one (block : Option BlockForm) (tail : TailForm)
    (apart : ∃ rest, tail.text = ' ' :: rest) : SampleForm :=
  ⟨['a'], block, tail, by decide, List.forall_mem_singleton.2 (by decide), fun _ =>
    let ⟨rest, same⟩ := apart
    ⟨' ', rest, same, by decide⟩⟩

/-! Accepted lines -/

/-- A line is accepted exactly when it has a form, and any other sample line is refused. An accepted
line is well-formed unless more fields follow than a number and a time, its labels are not divided
by one comma each, or a mark stands within the name of a label. -/
theorem ofChars_reads (line : List Char) :
    (∀ s, Sample.ofChars line = .ok s ↔ ∃ form : SampleForm, form.text = line ∧ form.sample = s) ∧
    (∀ form : SampleForm, form.text = line → (IsWellFormed line ↔
      form.tail.more.length ≤ 1 ∧ ∀ block ∈ form.block,
        block.IsListed ∧ ∀ label ∈ block.labels, ∀ c ∈ label.name, isMark c = false)) ∧
    ∀ raw, Text.trim raw = line → isSampleLine raw = true →
      (∀ form : SampleForm, form.text ≠ line) → ∃ cause, Line.ofChars raw = .malformed cause := by
  refine ⟨fun s => ofChars_eq_ok_iff, ?_, ?_⟩
  · rintro form rfl
    rw [isWellFormed_text_iff]
    constructor
    · intro strict
      exact ⟨strict.timed_last, fun block there => ⟨strict.listed block there,
        fun label inside => (strict.named block there label inside).2⟩⟩
    · rintro ⟨timed_last, blocks⟩
      exact ⟨timed_last, fun block there => (blocks block there).1,
        fun block there label inside => ⟨label.name_ne_nil, (blocks block there).2 label inside⟩⟩
  · rintro raw rfl counts formless
    cases read : Sample.ofChars (Text.trim raw) with
    | ok s =>
      obtain ⟨form, same, _⟩ := ofChars_eq_ok_iff.1 read
      exact absurd same (formless form)
    | error cause => exact ⟨cause, Line.ofChars_eq_malformed_iff.2 ⟨counts, read⟩⟩

theorem ofChars_reads_comma :
    let listed := "a\x7bb=\"1\",\x7d 1".toList
    let unquoted := "a\x7bb=1\x7d 1".toList
    (∃ form : SampleForm, form.text = listed) ∧ IsWellFormed listed ∧
      Text.trim (' ' :: unquoted) = unquoted ∧ isSampleLine (' ' :: unquoted) = true ∧
      (∀ form : SampleForm, form.text ≠ unquoted) ∧
      ∃ cause, Line.ofChars (' ' :: unquoted) = .malformed cause := by
  intro listed unquoted
  let b : LabelForm := .one 'b' [] (by decide) (by decide) (by decide)
  let block : BlockForm := ⟨[b], [','], List.forall_mem_singleton.2 (by decide)⟩
  let form : SampleForm := .one (some block) .one ⟨_, rfl⟩
  have same : form.text = listed := by decide +kernel
  have strict : form.tail.more.length ≤ 1 ∧ ∀ block ∈ form.block,
      block.IsListed ∧ ∀ label ∈ block.labels, ∀ c ∈ label.name, isMark c = false := by
    refine ⟨by decide, fun _ there => ?_⟩
    obtain rfl := Option.some.inj there
    refine ⟨⟨by decide, nofun, by decide⟩, List.forall_mem_singleton.2 ?_⟩
    rw [show b.name = ['b'] by decide +kernel]
    exact List.forall_mem_singleton.2 (by decide)
  have trimmed : Text.trim (' ' :: unquoted) = unquoted := by decide +kernel
  have counts : isSampleLine (' ' :: unquoted) = true := by decide +kernel
  have refused : (Sample.ofChars unquoted).toBool = false := by decide +kernel
  have formless (form : SampleForm) : form.text ≠ unquoted := by
    intro same
    rw [((ofChars_reads unquoted).1 form.sample).2 ⟨form, same, rfl⟩] at refused
    cases refused
  exact ⟨⟨form, same⟩, ((ofChars_reads listed).2.1 form same).2 strict, trimmed, counts, formless,
    (ofChars_reads unquoted).2.2 (' ' :: unquoted) trimmed counts formless⟩

/-- A third field, labels without a comma between them, and a quote within a label's name. -/
theorem ofChars_lenient : IsMisread "a 1 2 3".toList ∧
    IsMisread "a\x7bb=\"1\"c=\"1\"\x7d 1".toList ∧
    IsMisread "a\x7bb\"c=\"1\"\x7d 1".toList := by
  have misread (form : SampleForm) (line : String) (same : form.text = line.toList)
      (loose : ¬ form.IsStrict) : IsMisread line.toList := by
    rw [← same]
    exact (isMisread_text_iff form).2 loose
  let b : LabelForm := .one 'b' [] (by decide) (by decide) (by decide)
  let c : LabelForm := .one 'c' [] (by decide) (by decide) (by decide)
  let quote : LabelForm := .one 'b' ['"', 'c'] (by decide) (by decide) (by decide)
  let fields : TailForm := ⟨" 1 2 3".toList, ['1'], [['2'], ['3']], .ofInt 1, by decide +kernel,
    by decide +kernel, by decide +kernel⟩
  refine ⟨?third, ?undivided, ?marked⟩
  case third =>
    refine misread (.one none fields ⟨_, rfl⟩) _ (by decide +kernel) fun strict => ?_
    exact absurd strict.timed_last (by decide)
  case undivided =>
    refine misread (.one (some ⟨[b, c], [], nofun⟩) .one ⟨_, rfl⟩) _ (by decide +kernel)
      fun strict => ?_
    exact absurd ((strict.listed _ rfl).2.1 c List.mem_cons_self) (by decide)
  case marked =>
    refine misread (.one (some ⟨[quote], [], nofun⟩) .one ⟨_, rfl⟩) _ (by decide +kernel)
      fun strict => ?_
    exact absurd ((strict.named _ rfl quote List.mem_cons_self).2 '"' (by decide +kernel)) (by decide)

end KubeEntities.Exposition
