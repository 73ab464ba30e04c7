import IrLink.Decode.Module

/-!
# Steps of a loader

What a loader does is told by cases for each of its steps: when it ends with which result or
error, and in which state.  Two computations that follow one another are carried out in turn
(`InTurn`), and so are the items of a list; a file is the list of its declarations, and a
module the list of its files.
-/

namespace IrLink

namespace Load

variable {α β γ κ : Type} {environment : Environment} {source : Source}
  {state after : LoadState}

/-! ## One computation after the other -/

theorem bind_ok_iff {first : Load α} {rest : α → Load β} {result : β} :
    (first >>= rest) environment state = .ok result after ↔
      ∃ a middle, first environment state = .ok a middle ∧
        rest a environment middle = .ok result after := by
  change EStateM.bind (first environment) (fun a => rest a environment) state = _ ↔ _
  unfold EStateM.bind
  cases first environment state with
  | error error middle => simp
  | ok a middle => simp [and_assoc]

theorem bind_error_iff {first : Load α} {rest : α → Load β} {error : DecodeError} :
    (first >>= rest) environment state = .error error after ↔
      first environment state = .error error after ∨
        ∃ a middle, first environment state = .ok a middle ∧
          rest a environment middle = .error error after := by
  change EStateM.bind (first environment) (fun a => rest a environment) state = _ ↔ _
  unfold EStateM.bind
  cases first environment state with
  | error error middle => simp
  | ok a middle => simp [and_assoc]

theorem pure_ok_iff {a result : α} :
    (pure a : Load α) environment state = .ok result after ↔ a = result ∧ state = after := by
  constructor
  · rintro ⟨⟩
    exact ⟨rfl, rfl⟩
  · rintro ⟨rfl, rfl⟩
    rfl

theorem not_pure_error {a : α} {error : DecodeError} :
    ¬ (pure a : Load α) environment state = .error error after := by
  rintro ⟨⟩

/-- A computation ends as `first` does and then `second` in the state that `first`
leaves, and joins what the two give. -/
structure InTurn (environment : Environment) (whole : Load γ) (first : Load α)
    (second : Load β) (join : α → β → γ) : Prop where
  ok_iff : ∀ {state : LoadState} {result : γ} {after : LoadState},
    whole environment state = .ok result after ↔
      ∃ a middle b, first environment state = .ok a middle ∧
        second environment middle = .ok b after ∧ join a b = result
  error_iff : ∀ {state : LoadState} {error : DecodeError} {after : LoadState},
    whole environment state = .error error after ↔
      first environment state = .error error after ∨
        ∃ a middle, first environment state = .ok a middle ∧
          second environment middle = .error error after

theorem InTurn.bind (first : Load α) (second : Load β) (join : α → β → γ) :
    InTurn environment (do return join (← first) (← second)) first second join where
  ok_iff := by
    intro state result after
    simp only [bind_ok_iff, pure_ok_iff]
    constructor
    · rintro ⟨a, middle, firstRun, b, last, secondRun, rfl, rfl⟩
      exact ⟨a, middle, b, firstRun, secondRun, rfl⟩
    · rintro ⟨a, middle, b, firstRun, secondRun, rfl⟩
      exact ⟨a, middle, firstRun, b, after, secondRun, rfl, rfl⟩
  error_iff := by
    intro state error after
    simp only [bind_error_iff, not_pure_error, and_false, exists_false, or_false]

/-! ## Items of a list -/

section Items

variable {step : κ → Load α} {keys : List κ}

theorem inTurn_append (front back : List κ) :
    InTurn environment ((front ++ back).mapM step) (front.mapM step) (back.mapM step)
      (· ++ ·) := by
  rw [List.mapM_append]
  exact .bind _ _ _

theorem inTurn_cons (key : κ) (keys : List κ) :
    InTurn environment ((key :: keys).mapM step) (step key) (keys.mapM step) (· :: ·) := by
  rw [List.mapM_cons]
  exact .bind _ _ _

theorem mapM_nil_ok_iff {results : List α} :
    ([] : List κ).mapM step environment state = .ok results after ↔
      [] = results ∧ state = after := by
  rw [List.mapM_nil]
  exact pure_ok_iff

theorem length_of_mapM {results : List α}
    (run : keys.mapM step environment state = .ok results after) :
    results.length = keys.length := by
  induction keys generalizing state results with
  | nil =>
    rcases mapM_nil_ok_iff.mp run with ⟨rfl, -⟩
    rfl
  | cons key keys inductionHypothesis =>
    rcases (inTurn_cons key keys).ok_iff.mp run with ⟨_, middle, tail, _, tailRun, rfl⟩
    rw [List.length_cons, List.length_cons, inductionHypothesis tailRun]

/-- Each item is loaded in the state that loading the items before it leaves. -/
theorem item_of_mapM {results : List α}
    (run : keys.mapM step environment state = .ok results after) {place : Nat} {key : κ}
    {result : α} (item : keys[place]? = some key) (given : results[place]? = some result) :
    ∃ done before next, (keys.take place).mapM step environment state = .ok done before ∧
      step key environment before = .ok result next := by
  induction keys generalizing state results place with
  | nil => cases item
  | cons head keys inductionHypothesis =>
    rcases (inTurn_cons head keys).ok_iff.mp run with
      ⟨first, middle, tail, headRun, tailRun, rfl⟩
    cases place with
    | zero =>
      cases item
      cases given
      exact ⟨[], state, middle, mapM_nil_ok_iff.mpr ⟨rfl, rfl⟩, headRun⟩
    | succ place =>
      rcases inductionHypothesis tailRun item given with ⟨done, before, next, doneRun, itemRun⟩
      refine ⟨first :: done, before, next, ?_, itemRun⟩
      exact (inTurn_cons head (keys.take place)).ok_iff.mpr
        ⟨first, middle, done, headRun, doneRun, rfl⟩

/-- Where a list fails, one of its items does, in the state that loading the items
before it leaves. -/
theorem item_of_mapM_error {error : DecodeError}
    (run : keys.mapM step environment state = .error error after) :
    ∃ place key done before, keys[place]? = some key ∧
      (keys.take place).mapM step environment state = .ok done before ∧
      step key environment before = .error error after := by
  induction keys generalizing state with
  | nil =>
    rw [List.mapM_nil] at run
    cases run
  | cons head keys inductionHypothesis =>
    rcases (inTurn_cons head keys).error_iff.mp run with
      headRun | ⟨first, middle, headRun, tailRun⟩
    · exact ⟨0, head, [], state, rfl, mapM_nil_ok_iff.mpr ⟨rfl, rfl⟩, headRun⟩
    · rcases inductionHypothesis tailRun with ⟨place, key, done, before, item, doneRun, itemRun⟩
      refine ⟨place + 1, key, first :: done, before, item, ?_, itemRun⟩
      exact (inTurn_cons head (keys.take place)).ok_iff.mpr
        ⟨first, middle, done, headRun, doneRun, rfl⟩

/-- What is asked for a list is what is asked for its items, in order. -/
theorem asked_of_mapM {ids : κ → List UInt64}
    (asks : ∀ {key : κ} {result : α} {state after : LoadState},
      step key environment state = .ok result after → after.asked = state.asked ++ ids key)
    {results : List α} (run : keys.mapM step environment state = .ok results after) :
    after.asked = state.asked ++ keys.flatMap ids := by
  induction keys generalizing state results with
  | nil =>
    rcases mapM_nil_ok_iff.mp run with ⟨-, rfl⟩
    simp
  | cons key keys inductionHypothesis =>
    rcases (inTurn_cons key keys).ok_iff.mp run with ⟨_, middle, tail, headRun, tailRun, rfl⟩
    rw [inductionHypothesis tailRun, asks headRun, List.flatMap_cons, List.append_assoc]

end Items

/-! ## Declarations -/

theorem ask_ok_iff {id : UInt64} {bytes : List UInt8} :
    ask source id environment state = .ok bytes after ↔
      source id = some bytes ∧ after = { state with asked := state.asked ++ [id] } := by
  unfold ask
  cases source id with
  | none =>
    constructor
    · rintro ⟨⟩
    · rintro ⟨⟨⟩, -⟩
  | some found =>
    constructor
    · rintro ⟨⟩
      exact ⟨rfl, rfl⟩
    · rintro ⟨⟨⟩, rfl⟩
      rfl

theorem ask_error_iff {id : UInt64} {error : DecodeError} :
    ask source id environment state = .error error after ↔
      source id = none ∧ error = .missingRecord id ∧
        after = { state with asked := state.asked ++ [id] } := by
  unfold ask
  cases source id with
  | none =>
    constructor
    · rintro ⟨⟩
      exact ⟨rfl, rfl, rfl⟩
    · rintro ⟨-, rfl, rfl⟩
      rfl
  | some found =>
    constructor
    · rintro ⟨⟩
    · rintro ⟨⟨⟩, -⟩

theorem ofBytes_ok_iff {found : Except Bytes.Fault α} {result : α} :
    ofBytes found environment state = .ok result after ↔
      found = .ok result ∧ after = state := by
  cases found with
  | error fault =>
    constructor
    · rintro ⟨⟩
    · rintro ⟨⟨⟩, -⟩
  | ok a =>
    constructor
    · rintro ⟨⟩
      exact ⟨rfl, rfl⟩
    · rintro ⟨⟨⟩, rfl⟩
      rfl

theorem ofBytes_error_iff {found : Except Bytes.Fault α} {error : DecodeError} :
    ofBytes found environment state = .error error after ↔
      ∃ fault, found = .error fault ∧ error = .malformedRecord fault ∧ after = state := by
  cases found with
  | error fault =>
    constructor
    · rintro ⟨⟩
      exact ⟨fault, rfl, rfl, rfl⟩
    · rintro ⟨_, ⟨⟩, rfl, rfl⟩
      rfl
  | ok a =>
    constructor
    · rintro ⟨⟩
    · rintro ⟨_, ⟨⟩, -⟩

theorem ofDecode_ok_iff {computation : Decode α} {result : α} :
    ofDecode computation environment state = .ok result after ↔
      ∃ session, computation environment state.session = .ok result session ∧
        after = { state with session } := by
  unfold ofDecode
  cases computation environment state.session with
  | ok a session =>
    constructor
    · rintro ⟨⟩
      exact ⟨session, rfl, rfl⟩
    · rintro ⟨_, ⟨⟩, rfl⟩
      rfl
  | error error session =>
    constructor
    · rintro ⟨⟩
    · rintro ⟨_, ⟨⟩, -⟩

theorem ofDecode_error_iff {computation : Decode α} {error : DecodeError} :
    ofDecode computation environment state = .error error after ↔
      ∃ session, computation environment state.session = .error error session ∧
        after = { state with session } := by
  unfold ofDecode
  cases computation environment state.session with
  | error found session =>
    constructor
    · rintro ⟨⟩
      exact ⟨session, rfl, rfl⟩
    · rintro ⟨_, ⟨⟩, rfl⟩
      rfl
  | ok a session =>
    constructor
    · rintro ⟨⟩
    · rintro ⟨_, ⟨⟩, -⟩

/-- A declaration is linked from the bytes under its identifier, below its file. -/
theorem declaration_ok_iff {file : String} {id : UniqueId} {tree : Tree .declaration} :
    declaration source file id environment state = .ok tree after ↔
      ∃ bytes record session, source id.index = some bytes ∧
        Record.ofBytes .declaration bytes = .ok record ∧
        Decode.buildDeclaration record (.file file) environment state.session =
          .ok tree session ∧
        after = ⟨session, state.asked ++ [id.index]⟩ := by
  simp only [declaration, bind_ok_iff, ask_ok_iff, ofBytes_ok_iff, ofDecode_ok_iff]
  constructor
  · rintro ⟨bytes, _, ⟨found, rfl⟩, record, _, ⟨decoded, rfl⟩, session, built, rfl⟩
    exact ⟨bytes, record, session, found, decoded, built, rfl⟩
  · rintro ⟨bytes, record, session, found, decoded, built, rfl⟩
    exact ⟨bytes, _, ⟨found, rfl⟩, record, _, ⟨decoded, rfl⟩, session, built, rfl⟩

/-- A declaration fails for want of bytes, for what they hold, or where it is linked. -/
theorem declaration_error_iff {file : String} {id : UniqueId} {error : DecodeError} :
    declaration source file id environment state = .error error after ↔
      (source id.index = none ∧ error = .missingRecord id.index ∧
        after = { state with asked := state.asked ++ [id.index] }) ∨
      (∃ bytes fault, source id.index = some bytes ∧
        Record.ofBytes .declaration bytes = .error fault ∧ error = .malformedRecord fault ∧
        after = { state with asked := state.asked ++ [id.index] }) ∨
      ∃ bytes record session, source id.index = some bytes ∧
        Record.ofBytes .declaration bytes = .ok record ∧
        Decode.buildDeclaration record (.file file) environment state.session =
          .error error session ∧
        after = ⟨session, state.asked ++ [id.index]⟩ := by
  simp only [declaration, bind_error_iff, ask_ok_iff, ask_error_iff, ofBytes_ok_iff,
    ofBytes_error_iff, ofDecode_error_iff]
  constructor
  · rintro (missing | ⟨bytes, _, ⟨found, rfl⟩,
      ⟨fault, malformed, rfl, rfl⟩ | ⟨record, _, ⟨decoded, rfl⟩, session, built, rfl⟩⟩)
    · exact .inl missing
    · exact .inr (.inl ⟨bytes, fault, found, malformed, rfl, rfl⟩)
    · exact .inr (.inr ⟨bytes, record, session, found, decoded, built, rfl⟩)
  · rintro (missing | ⟨bytes, fault, found, malformed, rfl, rfl⟩ |
      ⟨bytes, record, session, found, decoded, built, rfl⟩)
    · exact .inl missing
    · exact .inr ⟨bytes, _, ⟨found, rfl⟩, .inl ⟨fault, malformed, rfl, rfl⟩⟩
    · exact .inr ⟨bytes, _, ⟨found, rfl⟩, .inr ⟨record, _, ⟨decoded, rfl⟩, session, built, rfl⟩⟩

theorem asked_of_declaration {file : String} {id : UniqueId} {tree : Tree .declaration}
    (run : declaration source file id environment state = .ok tree after) :
    after.asked = state.asked ++ [id.index] := by
  rcases declaration_ok_iff.mp run with ⟨_, _, _, _, _, _, rfl⟩
  rfl

theorem asked_of_declaration_error {file : String} {id : UniqueId} {error : DecodeError}
    (run : declaration source file id environment state = .error error after) :
    after.asked = state.asked ++ [id.index] := by
  rcases declaration_error_iff.mp run with
    ⟨_, _, rfl⟩ | ⟨_, _, _, _, _, rfl⟩ | ⟨_, _, _, _, _, _, rfl⟩
  all_goals rfl

/-! ## Files and modules -/

theorem declarations_eq (source : Source) (file : String) (ids : List UniqueId) :
    declarations source file ids = ids.mapM (declaration source file) := by
  induction ids with
  | nil => rfl
  | cons id ids inductionHypothesis =>
    rw [List.mapM_cons, ← inductionHypothesis]
    rfl

theorem files_eq (source : Source) (headers : List FileRecord) :
    files source headers = headers.mapM (file source) := by
  induction headers with
  | nil => rfl
  | cons header headers inductionHypothesis =>
    rw [List.mapM_cons, ← inductionHypothesis]
    rfl

theorem file_ok_iff {header : FileRecord} {loaded : File} :
    file source header environment state = .ok loaded after ↔
      loaded.name = header.name ∧ loaded.package = header.package ∧
        header.declarations.mapM (declaration source header.name) environment state =
          .ok loaded.declarations after := by
  unfold file
  rw [declarations_eq, bind_ok_iff]
  constructor
  · rintro ⟨trees, middle, run, ⟨⟩⟩
    exact ⟨rfl, rfl, run⟩
  · rcases loaded with ⟨name, package, trees⟩
    rintro ⟨rfl, rfl, run⟩
    exact ⟨trees, after, run, rfl⟩

theorem file_error_iff {header : FileRecord} {error : DecodeError} :
    file source header environment state = .error error after ↔
      header.declarations.mapM (declaration source header.name) environment state =
        .error error after := by
  unfold file
  rw [declarations_eq, bind_error_iff]
  simp only [not_pure_error, and_false, exists_false, or_false]

theorem module_ok_iff {header : ModuleRecord} {loaded : Module} :
    module source header environment state = .ok loaded after ↔
      loaded.name = environment.world.name ∧
        header.files.mapM (file source) environment state = .ok loaded.files after := by
  have named : module source header environment state =
      (do return ⟨environment.world.name, ← files source header.files⟩ : Load Module)
        environment state := rfl
  rw [named, files_eq, bind_ok_iff]
  constructor
  · rintro ⟨loadedFiles, middle, run, ⟨⟩⟩
    exact ⟨rfl, run⟩
  · rcases loaded with ⟨name, loadedFiles⟩
    rintro ⟨rfl, run⟩
    exact ⟨loadedFiles, after, run, rfl⟩

theorem module_error_iff {header : ModuleRecord} {error : DecodeError} :
    module source header environment state = .error error after ↔
      header.files.mapM (file source) environment state = .error error after := by
  have named : module source header environment state =
      (do return ⟨environment.world.name, ← files source header.files⟩ : Load Module)
        environment state := rfl
  rw [named, files_eq, bind_error_iff]
  simp only [not_pure_error, and_false, exists_false, or_false]

end Load

end IrLink
