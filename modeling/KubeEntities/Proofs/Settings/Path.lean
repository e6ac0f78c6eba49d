import KubeEntities.Settings.Layer

/-! Keys read as paths. Reading commutes with lower case unless the Kelvin sign is in the key
(`pathOf_lower`), so the keys of a table, all in lower case, are names that are read as they stand
(`pathOf_lower_first`). A path of names alone tells the key that it was read from
(`eq_of_pathOf_eq`). -/

namespace KubeEntities.Settings

/-- The one capital that lower case takes from beyond ASCII into it. -/
abbrev kelvin : Char := '\u212a'

theorem lowerChar_cases {P : Char → Prop} (sign : P kelvin)
    (capital : ∀ i : Fin 26, P (Char.ofNat (65 + i))) (other : ∀ c, lowerChar c = c → P c)
    (c : Char) : P c := by
  by_cases same : c = kelvin
  · exact same ▸ sign
  by_cases upper : 65 ≤ c.toNat ∧ c.toNat ≤ 90
  · have there := capital ⟨c.toNat - 65, by omega⟩
    have code : 65 + (c.toNat - 65) = c.toNat := by omega
    rwa [code, Char.ofNat_toNat] at there
  · refine other c ?_
    rw [lowerChar, if_neg same]
    delta Char.toLower
    rw [dif_neg]
    intro bounds
    exact upper ⟨UInt32.le_iff_toNat_le.1 bounds.1, UInt32.le_iff_toNat_le.1 bounds.2⟩

theorem lowerChar_lowerChar : ∀ c, lowerChar (lowerChar c) = lowerChar c :=
  lowerChar_cases (by decide) (by decide) fun c h => by rw [h, h]

theorem lowerChar_ne_kelvin : ∀ c, lowerChar c ≠ kelvin := by
  refine lowerChar_cases (by decide) (by decide) fun c h same => ?_
  rw [h] at same
  subst same
  exact absurd h (by decide)

theorem isPathChar_lowerChar {c : Char} (h : c ≠ kelvin) :
    isPathChar (lowerChar c) = isPathChar c := by
  revert h
  exact lowerChar_cases (P := fun c => c ≠ kelvin → isPathChar (lowerChar c) = isPathChar c)
    (fun h => absurd rfl h) (by decide) (fun c h _ => by rw [h]) c

theorem isDigit_lowerChar : ∀ c, (lowerChar c).isDigit = c.isDigit :=
  lowerChar_cases (by decide) (by decide) fun c h => by rw [h]

theorem lowerChar_eq_point : ∀ c, lowerChar c = '.' ↔ c = '.' :=
  lowerChar_cases (by decide) (by decide) fun c h => by rw [h]

theorem lowerChar_eq_open : ∀ c, lowerChar c = '[' ↔ c = '[' :=
  lowerChar_cases (by decide) (by decide) fun c h => by rw [h]

theorem lowerChar_eq_close : ∀ c, lowerChar c = ']' ↔ c = ']' :=
  lowerChar_cases (by decide) (by decide) fun c h => by rw [h]

@[simp] theorem lower_lower (s : String) : lower (lower s) = lower s := by
  simp [lower, Function.comp_def, lowerChar_lowerChar]

theorem kelvin_not_mem_lower (s : String) : kelvin ∉ (lower s).toList := by
  simp [lower, lowerChar_ne_kelvin]

theorem lowerChar_of_isDigit : ∀ {c : Char}, c.isDigit = true → lowerChar c = c := by
  intro c
  exact lowerChar_cases (P := fun c => c.isDigit = true → lowerChar c = c) (by decide) (by decide)
    (fun c h _ => h) c

theorem natural?_map_lowerChar (chars : List Char) :
    Text.natural? (chars.map lowerChar) = Text.natural? chars := by
  by_cases digits : chars.all Char.isDigit = true
  · have kept : chars.map lowerChar = chars :=
      (List.map_congr_left fun c hc =>
        lowerChar_of_isDigit (List.all_eq_true.1 digits c hc)).trans (List.map_id chars)
    rw [kept]
  · have same : (chars.map lowerChar).all Char.isDigit = chars.all Char.isDigit := by
      simp [List.all_map, Function.comp_def, isDigit_lowerChar]
    simp [Text.natural?, same, digits]

theorem splitSign_map_lowerChar (chars : List Char) :
    Number.splitSign (chars.map lowerChar) =
      ((Number.splitSign chars).1, (Number.splitSign chars).2.map lowerChar) := by
  cases chars with
  | nil => rfl
  | cons c rest =>
    have minus : lowerChar c = '-' ↔ c = '-' :=
      lowerChar_cases (P := fun c => lowerChar c = '-' ↔ c = '-') (by decide) (by decide)
        (fun c h => by rw [h]) c
    have plus : lowerChar c = '+' ↔ c = '+' :=
      lowerChar_cases (P := fun c => lowerChar c = '+' ↔ c = '+') (by decide) (by decide)
        (fun c h => by rw [h]) c
    unfold Number.splitSign
    by_cases isMinus : c = '-'
    · subst isMinus
      rfl
    by_cases isPlus : c = '+'
    · subst isPlus
      rfl
    simp [minus, plus, isMinus, isPlus]

theorem signed64?_map_lowerChar (chars : List Char) :
    Text.signed64? (chars.map lowerChar) = Text.signed64? chars := by
  simp [Text.signed64?, splitSign_map_lowerChar, natural?_map_lowerChar]

theorem position?_map_lowerChar (chars : List Char) :
    position? (chars.map lowerChar) = position? chars := by
  have padding : ((fun c => c == ' ' || c == '\t') ∘ lowerChar) = fun c => c == ' ' || c == '\t' :=
    funext <| lowerChar_cases (by decide) (by decide) fun c h => by simp [h]
  have plus : ∀ c, lowerChar c = '+' ↔ c = '+' :=
    lowerChar_cases (by decide) (by decide) fun c h => by rw [h]
  simp [position?, List.dropWhile_map, ← List.map_reverse, padding, signed64?_map_lowerChar, plus]

def scan? (state : List Step × PathScan) (chars : List Char) : Option (List Step × PathScan) :=
  chars.foldlM (fun state c => pathStep state.1 state.2 c) state

theorem pathOf_eq (key : String) :
    pathOf key = ((scan? ([], .name []) key.toList).bind pathEnd).getD [.key key] := rfl

def Step.lower : Step → Step
  | .key name => .key (Settings.lower name)
  | .index i => .index i

def PathScan.lower : PathScan → PathScan
  | .name read => .name (read.map lowerChar)
  | .index read => .index (read.map lowerChar)
  | .closed => .closed

def lowerState (state : List Step × PathScan) : List Step × PathScan :=
  (state.1.map Step.lower, state.2.lower)

theorem lower_ofList_reverse (read : List Char) :
    lower (String.ofList read.reverse) = String.ofList (read.map lowerChar).reverse := by
  rw [lower, String.toList_ofList, List.map_reverse]

theorem pathStep_lower (state : List Step × PathScan) {c : Char} (h : c ≠ kelvin) :
    pathStep (lowerState state).1 (lowerState state).2 (lowerChar c) =
      (pathStep state.1 state.2 c).map lowerState := by
  obtain ⟨steps, scan⟩ := state
  cases scan with
  | name read =>
    simp only [lowerState, PathScan.lower, pathStep, isPathChar_lowerChar h, lowerChar_eq_point,
      lowerChar_eq_open, List.isEmpty_map]
    by_cases plain : isPathChar c = true
    · simp [plain, lowerState, PathScan.lower]
    by_cases empty : read.isEmpty = true
    · simp [plain, empty]
    have ended (scan : PathScan) : some (Step.key (String.ofList (read.map lowerChar).reverse) ::
        steps.map Step.lower, scan.lower) =
          (some (Step.key (String.ofList read.reverse) :: steps, scan)).map lowerState := by
      rw [← lower_ofList_reverse]
      rfl
    rw [if_neg plain, if_neg plain]
    simp only [empty, Bool.false_eq_true, if_false]
    by_cases point : c = '.'
    · rw [if_pos point, if_pos point]
      exact ended (.name [])
    by_cases opens : c = '['
    · rw [if_neg point, if_neg point, if_pos opens, if_pos opens]
      exact ended (.index [])
    · simp [point, opens]
  | index read =>
    simp only [lowerState, PathScan.lower, pathStep, lowerChar_eq_close, ← List.map_reverse,
      position?_map_lowerChar]
    split
    · cases position? read.reverse <;> simp [lowerState, PathScan.lower, Step.lower]
    · simp [lowerState, PathScan.lower]
  | closed =>
    simp only [lowerState, PathScan.lower, pathStep, lowerChar_eq_point, lowerChar_eq_open]
    repeat' split
    all_goals simp [lowerState, PathScan.lower]

theorem scan?_lower {chars : List Char} (h : kelvin ∉ chars) (state : List Step × PathScan) :
    scan? (lowerState state) (chars.map lowerChar) = (scan? state chars).map lowerState := by
  induction chars generalizing state with
  | nil => rfl
  | cons c rest ih =>
    have first : c ≠ kelvin := fun same => h (same ▸ List.mem_cons_self)
    have others : kelvin ∉ rest := fun there => h (List.mem_cons_of_mem c there)
    rw [List.map_cons, scan?, List.foldlM_cons, pathStep_lower state first]
    rw [scan?, List.foldlM_cons]
    cases pathStep state.1 state.2 c with
    | none => rfl
    | some next => exact ih others next

theorem pathEnd_lower (state : List Step × PathScan) :
    pathEnd (lowerState state) = (pathEnd state).map (List.map Step.lower) := by
  obtain ⟨steps, scan⟩ := state
  cases scan with
  | name read =>
    cases read with
    | nil => rfl
    | cons c read =>
      simp only [lowerState, PathScan.lower, pathEnd, List.map_cons, Option.map_some,
        List.map_reverse, Step.lower, lower_ofList_reverse]
  | index read => rfl
  | closed => simp [lowerState, PathScan.lower, pathEnd]

theorem pathOf_lower {key : String} (h : kelvin ∉ key.toList) :
    pathOf (lower key) = (pathOf key).map Step.lower := by
  have same := scan?_lower h ([], .name [])
  change scan? ([], .name []) (key.toList.map lowerChar) = _ at same
  rw [pathOf_eq, pathOf_eq, lower, String.toList_ofList, same]
  cases scan? ([], .name []) key.toList with
  | none => rfl
  | some state =>
    simp only [Option.map_some, Option.bind_some, pathEnd_lower]
    cases pathEnd state <;> rfl

def spelled : Step → List Char
  | .key name => name.toList ++ ['.']
  | .index _ => []

/-- What a state says of the characters behind it. Without a position in it, it tells them all. -/
structure Scanned (chars : List Char) (state : List Step × PathScan) : Prop where
  name : ∀ n, .key n ∈ state.1 → n.toList ≠ [] ∧ ∀ c ∈ n.toList, isPathChar c = true
  first : ∀ i, state.1.getLast? ≠ some (.index i)
  fresh : state.1 = [] → ∃ read, state.2 = .name read
  closed : state.2 = .closed → ∃ i, .index i ∈ state.1
  read : ∀ read, state.2 = .name read → (∀ c ∈ read, isPathChar c = true) ∧
    ((∀ i, .index i ∉ state.1) → chars = state.1.reverse.flatMap spelled ++ read.reverse)

namespace Scanned
variable {chars : List Char} {steps : List Step} {read : List Char}

theorem letter (h : Scanned chars (steps, .name read)) {c : Char} (hc : isPathChar c = true) :
    Scanned (chars ++ [c]) (steps, .name (c :: read)) := by
  obtain ⟨plain, told⟩ := h.read read rfl
  refine ⟨h.name, h.first, fun _ => ⟨_, rfl⟩, nofun, ?_⟩
  rintro _ ⟨⟩
  refine ⟨List.forall_mem_cons.2 ⟨hc, plain⟩, fun names => ?_⟩
  rw [told names, List.reverse_cons, List.append_assoc]

theorem ended (h : Scanned chars (steps, .name read)) (some : read ≠ []) {c : Char}
    {scan : PathScan} (next : (c = '.' ∧ scan = .name []) ∨ scan = .index []) :
    Scanned (chars ++ [c]) (.key (String.ofList read.reverse) :: steps, scan) := by
  obtain ⟨plain, told⟩ := h.read read rfl
  refine ⟨fun n there => ?_, fun i last => ?_, nofun, fun same => ?_, fun read' same => ?_⟩
  · rcases List.mem_cons.1 there with same | there
    · cases same
      rw [String.toList_ofList]
      exact ⟨mt List.reverse_eq_nil_iff.1 some, fun c hc => plain c (List.mem_reverse.1 hc)⟩
    · exact h.name n there
  · rw [List.getLast?_cons] at last
    cases before : steps.getLast? with
    | none => simp [before] at last
    | some step =>
      simp only [before, Option.getD_some] at last
      exact h.first i (before.trans last)
  · rcases next with ⟨-, rfl⟩ | rfl <;> cases same
  · rcases next with ⟨rfl, rfl⟩ | rfl
    · cases same
      refine ⟨nofun, fun names => ?_⟩
      rw [told fun i there => names i (List.mem_cons_of_mem _ there)]
      simp [spelled]
    · cases same

theorem bracket (h : Scanned chars (steps, .index read)) (c : Char) (read' : List Char) :
    Scanned (chars ++ [c]) (steps, .index read') :=
  ⟨h.name, h.first, fun none => (nomatch h.fresh none), nofun, nofun⟩

theorem step {state next : List Step × PathScan} (h : Scanned chars state) {c : Char}
    (stepped : pathStep state.1 state.2 c = some next) : Scanned (chars ++ [c]) next := by
  obtain ⟨steps, scan⟩ := state
  cases scan with
  | name read =>
    simp only [pathStep] at stepped
    by_cases hc : isPathChar c = true
    · rw [if_pos hc] at stepped
      cases stepped
      exact h.letter hc
    cases read with
    | nil => simp [hc] at stepped
    | cons d read =>
      simp only [if_neg hc, List.isEmpty_cons, Bool.false_eq_true, if_false] at stepped
      split at stepped
      · rename_i point
        cases stepped
        exact h.ended nofun (.inl ⟨point, rfl⟩)
      · split at stepped
        · cases stepped
          exact h.ended nofun (.inr rfl)
        · cases stepped
  | index read =>
    simp only [pathStep] at stepped
    split at stepped
    · obtain ⟨i, position, rfl⟩ := Option.map_eq_some_iff.1 stepped
      refine ⟨fun n there => ?_, fun j last => ?_, nofun, fun _ => ⟨i, List.mem_cons_self⟩, nofun⟩
      · rcases List.mem_cons.1 there with same | there
        · cases same
        · exact h.name n there
      · cases before : steps.getLast? with
        | none => exact nomatch h.fresh (List.getLast?_eq_none_iff.1 before)
        | some step =>
          simp only [List.getLast?_cons, before, Option.getD_some] at last
          exact h.first j (before.trans last)
    · cases stepped
      exact h.bracket c _
  | closed =>
    simp only [pathStep] at stepped
    obtain ⟨i, there⟩ := h.closed rfl
    split at stepped
    · cases stepped
      refine ⟨h.name, h.first, fun none => ⟨_, rfl⟩, nofun, ?_⟩
      rintro _ ⟨⟩
      exact ⟨nofun, fun names => absurd there (names i)⟩
    · split at stepped
      · cases stepped
        exact ⟨h.name, h.first, fun none => (nomatch h.fresh none), nofun, nofun⟩
      · cases stepped

theorem run {before chars : List Char} {state next : List Step × PathScan}
    (h : Scanned before state) (scanned : scan? state chars = some next) :
    Scanned (before ++ chars) next := by
  induction chars generalizing before state with
  | nil =>
    cases scanned
    rwa [List.append_nil]
  | cons c chars ih =>
    rw [scan?, List.foldlM_cons] at scanned
    obtain ⟨middle, first, others⟩ := Option.bind_eq_some_iff.1 scanned
    have after := ih (h.step first) others
    rwa [List.append_assoc] at after

theorem exists_reverse_eq_cons {scan : PathScan} (h : Scanned chars (steps, scan))
    (some : steps ≠ []) : ∃ name rest, steps.reverse = .key name :: rest ∧ .key name ∈ steps := by
  cases reversed : steps.reverse with
  | nil => exact absurd (List.reverse_eq_nil_iff.1 reversed) some
  | cons step rest =>
    have last : steps.getLast? = Option.some step := by
      rw [List.getLast?_eq_head?_reverse, reversed]
      rfl
    cases step with
    | key name => exact ⟨name, rest, rfl, List.mem_of_getLast? last⟩
    | index i => exact absurd last (h.first i)

theorem start : Scanned [] ([], .name []) :=
  ⟨nofun, nofun, fun _ => ⟨_, rfl⟩, nofun, fun _ same => by cases same; exact ⟨nofun, fun _ => rfl⟩⟩

end Scanned

theorem scanned_of_scan? {chars : List Char} {state : List Step × PathScan}
    (h : scan? ([], .name []) chars = some state) : Scanned chars state :=
  Scanned.start.run h

theorem pathOf_of_plain {name : String} (some : name.toList ≠ [])
    (plain : ∀ c ∈ name.toList, isPathChar c = true) : pathOf name = [.key name] := by
  have run (chars read : List Char) (plain : ∀ c ∈ chars, isPathChar c = true) :
      scan? ([], .name read) chars = Option.some ([], .name (chars.reverse ++ read)) := by
    induction chars generalizing read with
    | nil => rfl
    | cons c chars ih =>
      obtain ⟨first, others⟩ := List.forall_mem_cons.1 plain
      rw [scan?, List.foldlM_cons, pathStep, if_pos first]
      rw [List.reverse_cons, List.append_assoc]
      exact ih (c :: read) others
  rw [pathOf_eq, run _ _ plain, List.append_nil]
  cases reversed : name.toList.reverse with
  | nil => exact absurd (List.reverse_eq_nil_iff.1 reversed) some
  | cons c rest =>
    have back : String.ofList (c :: rest).reverse = name := by
      rw [← reversed, List.reverse_reverse, String.ofList_toList]
    simp only [Option.bind_some, pathEnd, back]
    rfl

theorem pathOf_cases (key : String) : pathOf key = [.key key] ∨
    ∃ state path, Scanned key.toList state ∧ pathEnd state = some path ∧ pathOf key = path := by
  rw [pathOf_eq]
  cases scanned : scan? ([], .name []) key.toList with
  | none => exact .inl rfl
  | some state =>
    cases ended : pathEnd state with
    | none => exact .inl (by rw [Option.bind_some, ended]; rfl)
    | some path =>
      refine .inr ⟨state, path, scanned_of_scan? scanned, ended, ?_⟩
      rw [Option.bind_some, ended]
      rfl

/-- Every path begins with a name. In the whole key or in a part of it, this name is read as it
stands. -/
theorem exists_pathOf_eq_cons (key : String) : ∃ name rest, pathOf key = .key name :: rest ∧
    pathOf name = [.key name] ∧ (kelvin ∉ key.toList → kelvin ∉ name.toList) := by
  rcases pathOf_cases key with whole | ⟨⟨steps, scan⟩, path, h, ended, same⟩
  · exact ⟨key, [], whole, whole, id⟩
  have plain {name : String} (h : name.toList ≠ [] ∧ ∀ c ∈ name.toList, isPathChar c = true) :
      pathOf name = [.key name] ∧ (kelvin ∉ key.toList → kelvin ∉ name.toList) :=
    ⟨pathOf_of_plain h.1 h.2, fun _ there => absurd (h.2 kelvin there) (by decide)⟩
  rw [same]
  by_cases none : steps = []
  · subst none
    obtain ⟨read, named⟩ := h.fresh rfl
    cases named
    cases read with
    | nil => cases ended
    | cons c read =>
      cases ended
      refine ⟨_, _, rfl, plain ⟨by simp, fun d hd => (h.read _ rfl).1 d ?_⟩⟩
      rwa [String.toList_ofList, List.mem_reverse] at hd
  · obtain ⟨name, rest, first, there⟩ := h.exists_reverse_eq_cons none
    have longer : ∃ rest', path = .key name :: rest' := by
      cases scan with
      | index read => cases ended
      | closed =>
        cases ended
        exact ⟨rest, first⟩
      | name read =>
        cases read with
        | nil => cases ended
        | cons c read =>
          cases ended
          exact ⟨_, by rw [List.reverse_cons, first, List.cons_append]⟩
    obtain ⟨rest', rfl⟩ := longer
    exact ⟨name, rest', rfl, plain (h.name name there)⟩

theorem pathOf_lower_first {key name : String} {rest : List Step} (h : kelvin ∉ key.toList)
    (path : pathOf key = .key name :: rest) : pathOf (lower name) = [.key (lower name)] := by
  obtain ⟨name', rest', path', alone, free⟩ := exists_pathOf_eq_cons key
  rw [path'] at path
  cases path
  rw [pathOf_lower (free h), alone]
  rfl

theorem toList_of_pathOf {key last : String} {init : List Step}
    (path : pathOf key = init ++ [.key last]) (names : ∀ i, .index i ∉ init) :
    key.toList = init.flatMap spelled ++ last.toList := by
  rcases pathOf_cases key with whole | ⟨⟨steps, scan⟩, path', h, ended, same⟩
  · rw [whole] at path
    cases init with
    | nil =>
      cases path
      rfl
    | cons step init => cases init <;> cases path
  · rw [same] at path
    subst path
    cases scan with
    | index read => cases ended
    | closed =>
      obtain ⟨i, there⟩ := h.closed rfl
      have inside := List.mem_reverse.2 there
      rw [Option.some.inj ended, List.mem_append, List.mem_singleton] at inside
      rcases inside with inside | same
      · exact absurd inside (names i)
      · cases same
    | name read =>
      cases read with
      | nil => cases ended
      | cons c read =>
        have parts := Option.some.inj ended
        rw [List.reverse_cons] at parts
        obtain ⟨before, same⟩ := List.append_inj' parts rfl
        cases same
        have told := (h.read _ rfl).2 fun i there => names i (before ▸ List.mem_reverse.2 there)
        rw [told, before, String.toList_ofList]

theorem eq_of_pathOf_eq {key key' : String} {names : List String} (some : names ≠ [])
    (path : pathOf key = names.map .key) (path' : pathOf key' = names.map .key) : key = key' := by
  obtain ⟨init, last, rfl⟩ := List.eq_nil_or_concat names |>.resolve_left some
  rw [List.concat_eq_append, List.map_append] at path path'
  have noPosition : ∀ i, Step.index i ∉ init.map Step.key := by simp
  exact String.toList_injective ((toList_of_pathOf path noPosition).trans
    (toList_of_pathOf path' noPosition).symm)

end KubeEntities.Settings
