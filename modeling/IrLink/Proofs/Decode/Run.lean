import IrLink.Decode.Symbol

/-!
# Runs of computations

How a computation of a session runs is read off its parts: what follows a part
that ends well begins in the state that the part leaves, and a part that fails
ends the whole.  Checks neither look at the state nor change it.  Linking a
symbol looks at nothing but the known symbols, and adds at most the symbol of
the record (`symbolFor_runs`).
-/

namespace IrLink

namespace State

/-- Every symbol is known under its own identifier. -/
def Keyed (state : State) : Prop :=
  ∀ (id : UInt64) (symbol : Symbol), state.symbols[id]? = some symbol → symbol.id = id

/-- A symbol is the one that is known under its identifier. -/
def Knows (state : State) (symbol : Symbol) : Prop :=
  state.symbols[symbol.id]? = some symbol

/-- The symbols of an earlier state are those of a later one. -/
def Extends (later earlier : State) : Prop :=
  ∀ (id : UInt64) (symbol : Symbol),
    earlier.symbols[id]? = some symbol → later.symbols[id]? = some symbol

/-- A state with other symbols. -/
def withSymbols (state : State) (symbols : Std.TreeMap UInt64 Symbol) : State :=
  { state with symbols }

theorem Extends.refl (state : State) : state.Extends state :=
  fun _ _ known => known

theorem Extends.trans {late middle early : State} (later : late.Extends middle)
    (earlier : middle.Extends early) : late.Extends early :=
  fun id symbol known => later id symbol (earlier id symbol known)

/-- A known symbol stays known. -/
theorem Extends.knows {late early : State} (later : late.Extends early) {symbol : Symbol}
    (known : early.Knows symbol) : late.Knows symbol :=
  later symbol.id symbol known

end State

/-- Whether an error says that a symbol can not be linked. -/
def DecodeError.isOfSymbol : DecodeError → Bool
  | unresolvedReference _ | symbolKindMismatch .. | unsupported .returnableBlock => true
  | _ => false

namespace Decode

variable {α β : Type} {environment : Environment} {state next : State}

/-! ## Sequences -/

theorem bind_of_ok {computation : Decode α} {rest : α → Decode β} {result : α}
    (first : computation environment state = .ok result next) :
    (computation >>= rest) environment state = rest result environment next := by
  simp only [bind, ReaderT.bind, EStateM.bind, first]

/-- A computation that asks for the state gets the present one. -/
theorem get_bind {rest : State → Decode β} :
    (get >>= rest) environment state = rest state environment state :=
  rfl

theorem bind_of_error {computation : Decode α} {rest : α → Decode β} {error : DecodeError}
    (first : computation environment state = .error error next) :
    (computation >>= rest) environment state = .error error next := by
  simp only [bind, ReaderT.bind, EStateM.bind, first]

/-! ## Checks -/

/-- The end of a computation that came to an outcome in a state. -/
def finish {σ : Type} (outcome : Except DecodeError α) (state : σ) :
    EStateM.Result DecodeError σ α :=
  match outcome with
  | .ok result => .ok result state
  | .error error => .error error state

/-- A computation that neither looks at the state nor changes it. -/
def Stateless (computation : Decode α) : Prop :=
  ∀ environment, ∃ outcome, ∀ state, computation environment state = finish outcome state

namespace Stateless

theorem pure (result : α) : Stateless (pure result : Decode α) :=
  fun _ => ⟨.ok result, fun _ => rfl⟩

theorem throw (error : DecodeError) : Stateless (throw error : Decode α) :=
  fun _ => ⟨.error error, fun _ => rfl⟩

theorem bind {computation : Decode α} {rest : α → Decode β}
    (first : Stateless computation) (second : ∀ result, Stateless (rest result)) :
    Stateless (computation >>= rest) := by
  intro environment
  rcases first environment with ⟨outcome, ends⟩
  cases outcome with
  | error error => exact ⟨.error error, fun state => bind_of_error (ends state)⟩
  | ok result =>
      rcases second result environment with ⟨last, endsLast⟩
      exact ⟨last, fun state => (bind_of_ok (ends state)).trans (endsLast state)⟩

/-- What depends on the environment alone. -/
theorem ofEnvironment {rest : Environment → Decode α}
    (second : ∀ environment, Stateless (rest environment)) :
    Stateless (read >>= rest) := by
  intro environment
  rcases second environment environment with ⟨outcome, ends⟩
  exact ⟨outcome, fun state => ends state⟩

/-- What succeeds in one state succeeds in every state. -/
theorem ok_of_ok {computation : Decode α} (stateless : Stateless computation) {result : α}
    (run : computation environment state = .ok result state) (other : State) :
    computation environment other = .ok result other := by
  rcases stateless environment with ⟨outcome, ends⟩
  rw [ends] at run ⊢
  cases outcome with
  | ok _ =>
      cases run
      rfl
  | error _ => cases run

/-- Where the computation fails, the state is the first one. -/
theorem state_of_error {computation : Decode α} (stateless : Stateless computation)
    {error : DecodeError} (fails : computation environment state = .error error next) :
    next = state := by
  rcases stateless environment with ⟨outcome, ends⟩
  rw [ends] at fails
  cases outcome with
  | ok _ => cases fails
  | error _ =>
      cases fails
      rfl

end Stateless

theorem stateless_checkKind (id : UInt64) (fits : Bool) (misfit : Misfit) :
    Stateless (checkKind id fits misfit) := by
  refine .ofEnvironment fun environment => ?_
  split
  · exact .throw _
  · exact .pure _

theorem stateless_resolveReference (reference : DescriptorReference) :
    Stateless (resolveReference reference) := by
  refine .ofEnvironment fun environment => ?_
  split
  · exact .pure _
  · exact .throw _

theorem stateless_recordedKind (kind : RecordedKind) : Stateless (recordedKind kind) := by
  cases kind with
  | symbol kind => exact .pure kind
  | returnableBlock => exact .throw _

theorem stateless_bindSymbol (record : SymbolRecord) (kind : SymbolKind) :
    Stateless (bindSymbol record kind) := by
  unfold bindSymbol
  split
  · exact .pure _
  · exact .bind (stateless_resolveReference _) fun descriptor =>
      .bind (stateless_checkKind _ _ _) fun _ => .pure _

/-! ## Symbols -/

/-- What linking a symbol does: it comes to an outcome that depends on the known
symbols alone, and adds no symbol or one with the recorded identifier.  The
symbol it gives is then the one that is known. -/
structure Links (environment : Environment) (computation : Decode Symbol) (id : UInt64)
    (symbols : Std.TreeMap UInt64 Symbol) (outcome : Except DecodeError Symbol)
    (after : Std.TreeMap UInt64 Symbol) : Prop where
  runs : ∀ state : State, state.symbols = symbols →
    computation environment state = finish outcome (state.withSymbols after)
  adds : after = symbols ∨
    ∃ symbol : Symbol, symbol.id = id ∧ symbols[id]? = none ∧
      after = symbols.insert id symbol
  known : ∀ symbol, outcome = .ok symbol → after[id]? = some symbol

/-- The symbols that were known before still are. -/
theorem Links.extends {computation : Decode Symbol} {id : UInt64}
    {outcome : Except DecodeError Symbol} {after : Std.TreeMap UInt64 Symbol}
    (links : Links environment computation id state.symbols outcome after) :
    (state.withSymbols after).Extends state := by
  rcases links.adds with rfl | ⟨symbol, rfl, fresh, rfl⟩
  · exact .refl state
  · intro id found known
    simp only [State.withSymbols, Std.TreeMap.getElem?_insert]
    split
    · rename_i same
      rw [Std.LawfulEqOrd.eq_of_compare same] at fresh
      rw [fresh] at known
      cases known
    · exact known

/-- A symbol with another identifier stays as it was. -/
theorem Links.others {computation : Decode Symbol} {id other : UInt64}
    {symbols after : Std.TreeMap UInt64 Symbol} {outcome : Except DecodeError Symbol}
    (links : Links environment computation id symbols outcome after) (different : other ≠ id) :
    after[other]? = symbols[other]? := by
  rcases links.adds with rfl | ⟨symbol, -, -, rfl⟩
  · rfl
  · rw [Std.TreeMap.getElem?_insert, if_neg]
    exact fun same => different (Std.LawfulEqOrd.eq_of_compare same).symm

theorem Links.ofCheck {computation : Decode Symbol} {id : UInt64}
    {symbols : Std.TreeMap UInt64 Symbol} {error : DecodeError}
    (fails : ∀ state : State, state.symbols = symbols →
      computation environment state = .error error state) :
    Links environment computation id symbols (.error error) symbols where
  runs := fun state same => by
    subst same
    exact fails state rfl
  adds := .inl rfl
  known := fun _ impossible => nomatch impossible

/-- A known symbol is given if it is of the recorded kind. -/
theorem resolveSymbol_of_known {record : SymbolRecord} {kind : SymbolKind} {symbol : Symbol}
    (recorded : recordedKind record.kind environment state = .ok kind state)
    (known : state.symbols[record.uniqueId.index]? = some symbol) :
    resolveSymbol record environment state =
      (do
        checkKind record.uniqueId.index (symbol.kind == kind) (.known kind symbol.kind)
        return symbol : Decode Symbol) environment state := by
  have cached : state.cachedSymbol? record.uniqueId.index = some symbol := known
  refine (bind_of_ok recorded).trans (get_bind.trans ?_)
  simp only [cached]

/-- A new symbol is made of the recorded kind, if its reference can be bound. -/
theorem resolveSymbol_of_unknown {record : SymbolRecord} {kind : SymbolKind}
    (recorded : recordedKind record.kind environment state = .ok kind state)
    (unknown : state.symbols[record.uniqueId.index]? = none) :
    resolveSymbol record environment state =
      (do
        let bound ← bindSymbol record kind
        let symbol : Symbol := ⟨(← get).symbolCount, record.uniqueId.index, kind, bound⟩
        modify fun state =>
          { state with symbols := state.symbols.insert record.uniqueId.index symbol }
        return symbol : Decode Symbol) environment state := by
  have cached : state.cachedSymbol? record.uniqueId.index = none := unknown
  refine (bind_of_ok recorded).trans (get_bind.trans ?_)
  simp only [cached]

/-- A symbol is found under its identifier, or made and added. -/
theorem resolveSymbol_links (record : SymbolRecord) (environment : Environment)
    (symbols : Std.TreeMap UInt64 Symbol) :
    ∃ outcome after, Links environment (resolveSymbol record) record.uniqueId.index
      symbols outcome after := by
  rcases stateless_recordedKind record.kind environment with ⟨kindOutcome, kindEnds⟩
  cases kindOutcome with
  | error error => exact ⟨_, _, .ofCheck fun state _ => bind_of_error (kindEnds state)⟩
  | ok kind =>
      cases found : symbols[record.uniqueId.index]? with
      | some symbol =>
          rcases stateless_checkKind record.uniqueId.index (symbol.kind == kind)
            (.known kind symbol.kind) environment with ⟨check, checkEnds⟩
          cases check with
          | error error =>
              refine ⟨.error error, symbols, .ofCheck fun state same => ?_⟩
              rw [resolveSymbol_of_known (kindEnds state) (same ▸ found)]
              exact bind_of_error (checkEnds state)
          | ok _ =>
              refine ⟨.ok symbol, symbols, fun state same => ?_, .inl rfl, ?_⟩
              · rw [resolveSymbol_of_known (kindEnds state) (same ▸ found)]
                subst same
                exact bind_of_ok (checkEnds state)
              · rintro _ ⟨⟩
                exact found
      | none =>
          rcases stateless_bindSymbol record kind environment with ⟨bound, boundEnds⟩
          cases bound with
          | error error =>
              refine ⟨.error error, symbols, .ofCheck fun state same => ?_⟩
              rw [resolveSymbol_of_unknown (kindEnds state) (same ▸ found)]
              exact bind_of_error (boundEnds state)
          | ok bound =>
              let symbol : Symbol := ⟨symbols.size, record.uniqueId.index, kind, bound⟩
              refine ⟨.ok symbol, symbols.insert symbol.id symbol, fun state same => ?_,
                .inr ⟨symbol, rfl, found, rfl⟩, ?_⟩
              · rw [resolveSymbol_of_unknown (kindEnds state) (same ▸ found)]
                subst same
                exact bind_of_ok (boundEnds state)
              · rintro _ ⟨⟩
                exact Std.TreeMap.getElem?_insert_self

/-- The symbol of a record in a place with a requirement is found or made in
the same way, even where the place refuses it. -/
theorem symbolFor_links (requirement : Requirement) (record : SymbolRecord)
    (environment : Environment) (symbols : Std.TreeMap UInt64 Symbol) :
    ∃ outcome after, Links environment (symbolFor requirement record)
      record.uniqueId.index symbols outcome after := by
  rcases resolveSymbol_links record environment symbols with ⟨found, after, links⟩
  cases found with
  | error error =>
      refine ⟨.error error, after, fun state same => ?_, links.adds, links.known⟩
      exact bind_of_error (links.runs state same)
  | ok symbol =>
      rcases stateless_checkKind symbol.id (requirement.accepts symbol.kind)
        (.required requirement symbol.kind) environment with ⟨check, checkEnds⟩
      cases check with
      | error error =>
          refine ⟨.error error, after, fun state same => ?_, links.adds,
            fun _ impossible => nomatch impossible⟩
          exact (bind_of_ok (links.runs state same)).trans (bind_of_error (checkEnds _))
      | ok _ =>
          refine ⟨.ok symbol, after, fun state same => ?_, links.adds, links.known⟩
          exact (bind_of_ok (links.runs state same)).trans (bind_of_ok (checkEnds _))

/-! ## Two environments -/

section Environments

variable {first second : Environment}

theorem bind_eq_bind {computation image : Decode α} {rest imageRest : α → Decode β}
    (same : image second state = computation first state)
    (sameRest : ∀ result middle, imageRest result second middle = rest result first middle) :
    (image >>= imageRest) second state = (computation >>= rest) first state := by
  cases run : computation first state with
  | ok result middle =>
      rw [bind_of_ok run, bind_of_ok (same.trans run)]
      exact sameRest result middle
  | error error middle => rw [bind_of_error run, bind_of_error (same.trans run)]

theorem checkKind_congr (checks : second.settings.checkSymbolKinds =
      first.settings.checkSymbolKinds) (id : UInt64) (fits : Bool) (misfit : Misfit) :
    checkKind id fits misfit second state = checkKind id fits misfit first state := by
  change (if second.settings.checkSymbolKinds && !fits then
      throw (.symbolKindMismatch id misfit) else pure () : Decode Unit) second state =
    (if first.settings.checkSymbolKinds && !fits then
      throw (.symbolKindMismatch id misfit) else pure () : Decode Unit) first state
  rw [checks]
  split <;> rfl

theorem resolveReference_congr {reference : DescriptorReference}
    (means : second.world.resolve? reference = first.world.resolve? reference) :
    resolveReference reference second state = resolveReference reference first state := by
  unfold resolveReference
  rw [bind_of_ok (show (read : Decode Environment) second state = .ok second state from rfl),
    bind_of_ok (show (read : Decode Environment) first state = .ok first state from rfl), means]
  cases first.world.resolve? reference <;> rfl

/-- What a symbol is bound to depends on what its reference means. -/
theorem bindSymbol_congr {record image : SymbolRecord} (kind : SymbolKind)
    (checks : second.settings.checkSymbolKinds = first.settings.checkSymbolKinds)
    (sameId : image.uniqueId = record.uniqueId)
    (named : image.reference = record.reference)
    (means : ∀ reference, record.reference = some reference →
      second.world.resolve? reference = first.world.resolve? reference) :
    bindSymbol image kind second state = bindSymbol record kind first state := by
  unfold bindSymbol
  rw [named, sameId]
  cases referred : record.reference with
  | none => rfl
  | some reference =>
      exact bind_eq_bind (resolveReference_congr (means reference referred)) fun _ _ =>
        bind_eq_bind (checkKind_congr checks _ _ _) fun _ _ => rfl

/-- How a symbol is linked depends on its reference only if the symbol is not known. -/
theorem resolveSymbol_congr {record image : SymbolRecord}
    (checks : second.settings.checkSymbolKinds = first.settings.checkSymbolKinds)
    (sameKind : image.kind = record.kind) (sameId : image.uniqueId = record.uniqueId)
    (unknown : state.symbols[record.uniqueId.index]? = none →
      image.reference = record.reference ∧ ∀ reference, record.reference = some reference →
        second.world.resolve? reference = first.world.resolve? reference) :
    resolveSymbol image second state = resolveSymbol record first state := by
  cases recorded : record.kind with
  | returnableBlock =>
      have refused (environment : Environment) {named : SymbolRecord}
          (kind : named.kind = .returnableBlock) :
          resolveSymbol named environment state =
            .error (.unsupported .returnableBlock) state :=
        bind_of_error (show recordedKind named.kind environment state = _ by rw [kind]; rfl)
      rw [refused second (sameKind.trans recorded), refused first recorded]
  | symbol kind =>
      have known (environment : Environment) {named : SymbolRecord}
          (kindOf : named.kind = .symbol kind) :
          recordedKind named.kind environment state = .ok kind state := by
        rw [kindOf]
        rfl
      cases found : state.symbols[record.uniqueId.index]? with
      | some symbol =>
          rw [resolveSymbol_of_known (known first recorded) found,
            resolveSymbol_of_known (known second (sameKind.trans recorded)) (sameId ▸ found),
            sameId]
          exact bind_eq_bind (checkKind_congr checks _ _ _) fun _ _ => rfl
      | none =>
          rcases unknown found with ⟨named, means⟩
          rw [resolveSymbol_of_unknown (known first recorded) found,
            resolveSymbol_of_unknown (known second (sameKind.trans recorded)) (sameId ▸ found),
            sameId]
          exact bind_eq_bind (bindSymbol_congr kind checks sameId named means) fun _ _ => rfl

theorem symbolFor_congr (requirement : Requirement) {record image : SymbolRecord}
    (checks : second.settings.checkSymbolKinds = first.settings.checkSymbolKinds)
    (sameKind : image.kind = record.kind) (sameId : image.uniqueId = record.uniqueId)
    (unknown : state.symbols[record.uniqueId.index]? = none →
      image.reference = record.reference ∧ ∀ reference, record.reference = some reference →
        second.world.resolve? reference = first.world.resolve? reference) :
    symbolFor requirement image second state = symbolFor requirement record first state :=
  bind_eq_bind (resolveSymbol_congr checks sameKind sameId unknown) fun _ _ =>
    bind_eq_bind (checkKind_congr checks _ _ _) fun _ _ => rfl

/-- Jumps do not depend on the environment. -/
theorem jumpTo_congr (id : Int32) (label : Option String) :
    jumpTo id label second state = jumpTo id label first state :=
  bind_eq_bind rfl fun found _ => by cases found.lookupLoop id <;> rfl

/-- Whether a declaration is made known does not depend on the environment. -/
theorem registerDeclaration_congr (declaration : Tree .declaration) :
    registerDeclaration declaration second state =
      registerDeclaration declaration first state := by
  unfold registerDeclaration
  cases declaration.backingDescriptor? with
  | none => rfl
  | some descriptor =>
      refine bind_eq_bind rfl fun found _ => ?_
      cases found.declarations.contains descriptor.id <;> rfl

end Environments

/-! ## Success -/

section Success

variable {after : State}

theorem bind_ok_iff {computation : Decode α} {rest : α → Decode β} {result : β} :
    (computation >>= rest) environment state = .ok result after ↔
      ∃ between middle, computation environment state = .ok between middle ∧
        rest between environment middle = .ok result after := by
  constructor
  · intro run
    cases first : computation environment state with
    | ok between middle => exact ⟨between, middle, rfl, (bind_of_ok first).symm.trans run⟩
    | error error middle => cases (bind_of_error first).symm.trans run
  · rintro ⟨between, middle, first, second⟩
    exact (bind_of_ok first).trans second

theorem pure_ok_iff {given result : α} :
    (pure given : Decode α) environment state = .ok result after ↔
      given = result ∧ state = after := by
  constructor
  · rintro ⟨⟩
    exact ⟨rfl, rfl⟩
  · rintro ⟨rfl, rfl⟩
    rfl

theorem checkKind_ok_iff {id : UInt64} {fits : Bool} {misfit : Misfit} {result : Unit} :
    checkKind id fits misfit environment state = .ok result after ↔
      (environment.settings.checkSymbolKinds = true → fits = true) ∧ state = after := by
  unfold checkKind
  rw [bind_ok_iff]
  constructor
  · rintro ⟨_, _, ⟨⟩, run⟩
    cases strict : environment.settings.checkSymbolKinds <;> cases fits <;>
      rw [strict] at run <;> cases run <;> simp
  · rintro ⟨fit, rfl⟩
    refine ⟨environment, state, rfl, ?_⟩
    cases strict : environment.settings.checkSymbolKinds <;> cases fits <;> simp_all <;> rfl

theorem recordedKind_ok_iff {recorded : RecordedKind} {kind : SymbolKind} :
    recordedKind recorded environment state = .ok kind after ↔
      recorded = .symbol kind ∧ state = after := by
  cases recorded with
  | symbol kind => simp [recordedKind, pure_ok_iff]
  | returnableBlock => exact iff_of_false nofun nofun

/-- The symbol of a record also fits its place, where kinds are checked. -/
theorem symbolFor_ok_iff {requirement : Requirement} {record : SymbolRecord}
    {symbol : Symbol} :
    symbolFor requirement record environment state = .ok symbol after ↔
      resolveSymbol record environment state = .ok symbol after ∧
        (environment.settings.checkSymbolKinds = true →
          requirement.accepts symbol.kind = true) := by
  unfold symbolFor
  rw [bind_ok_iff]
  constructor
  · rintro ⟨found, middle, resolved, checked⟩
    rcases bind_ok_iff.mp checked with ⟨_, _, checked, ⟨⟩⟩
    rcases checkKind_ok_iff.mp checked with ⟨fits, rfl⟩
    exact ⟨resolved, fits⟩
  · rintro ⟨resolved, fits⟩
    refine ⟨symbol, after, resolved, ?_⟩
    exact bind_ok_iff.mpr ⟨(), after, checkKind_ok_iff.mpr ⟨fits, rfl⟩, rfl⟩

/-- The symbol of a record is the known one, or a new one that can be bound. -/
theorem resolveSymbol_eq_ok_iff {record : SymbolRecord} {symbol : Symbol} :
    resolveSymbol record environment state = .ok symbol after ↔
      ∃ kind, record.kind = .symbol kind ∧
        (state.symbols[record.uniqueId.index]? = some symbol ∧
            (environment.settings.checkSymbolKinds = true → symbol.kind = kind) ∧
            after = state ∨
          state.symbols[record.uniqueId.index]? = none ∧
            (∃ bound, bindSymbol record kind environment state = .ok bound state ∧
              symbol = ⟨state.symbols.size, record.uniqueId.index, kind, bound⟩) ∧
            after = state.withSymbols (state.symbols.insert record.uniqueId.index symbol)) := by
  have recordedAs {kind : SymbolKind} (recorded : record.kind = .symbol kind) :
      recordedKind record.kind environment state = .ok kind state :=
    recordedKind_ok_iff.mpr ⟨recorded, rfl⟩
  constructor
  · intro run
    rcases bind_ok_iff.mp run with ⟨kind, _, kindRun, -⟩
    rcases recordedKind_ok_iff.mp kindRun with ⟨recorded, rfl⟩
    refine ⟨kind, recorded, ?_⟩
    cases found : state.symbols[record.uniqueId.index]? with
    | some known =>
        rw [resolveSymbol_of_known (recordedAs recorded) found] at run
        rcases bind_ok_iff.mp run with ⟨_, _, checked, ⟨⟩⟩
        rcases checkKind_ok_iff.mp checked with ⟨same, rfl⟩
        exact .inl ⟨rfl, fun strict => eq_of_beq (same strict), rfl⟩
    | none =>
        rw [resolveSymbol_of_unknown (recordedAs recorded) found] at run
        rcases bind_ok_iff.mp run with ⟨bound, _, binds, ⟨⟩⟩
        rcases stateless_bindSymbol record kind environment with ⟨_ | _, ends⟩ <;>
          cases (ends state).symm.trans binds
        exact .inr ⟨rfl, ⟨bound, binds, rfl⟩, rfl⟩
  · rintro ⟨kind, recorded, ⟨found, same, rfl⟩ | ⟨unknown, ⟨bound, binds, rfl⟩, rfl⟩⟩
    · rw [resolveSymbol_of_known (recordedAs recorded) found]
      refine bind_ok_iff.mpr ⟨(), after, checkKind_ok_iff.mpr ⟨fun strict => ?_, rfl⟩, rfl⟩
      exact beq_iff_eq.mpr (same strict)
    · rw [resolveSymbol_of_unknown (recordedAs recorded) unknown]
      exact bind_of_ok binds

end Success

/-! ## Failure -/

section Failure

variable {error : DecodeError} {after : State}

/-- A sequence fails where its first part fails, or where the rest does. -/
theorem error_of_bind {computation : Decode α} {rest : α → Decode β}
    (fails : (computation >>= rest) environment state = .error error after) :
    computation environment state = .error error after ∨
      ∃ between middle, computation environment state = .ok between middle ∧
        rest between environment middle = .error error after := by
  cases first : computation environment state with
  | ok between middle => exact .inr ⟨between, middle, rfl, (bind_of_ok first).symm.trans fails⟩
  | error early middle =>
      cases (bind_of_error first).symm.trans fails
      exact .inl rfl

theorem isOfSymbol_of_checkKind {id : UInt64} {fits : Bool} {misfit : Misfit}
    (fails : checkKind id fits misfit environment state = .error error after) :
    error.isOfSymbol = true := by
  rcases error_of_bind fails with ⟨⟨⟩⟩ | ⟨_, _, ⟨⟩, fails⟩
  split at fails
  · cases fails
    rfl
  · cases fails

theorem isOfSymbol_of_resolveReference {reference : DescriptorReference}
    (fails : resolveReference reference environment state = .error error after) :
    error.isOfSymbol = true := by
  rcases error_of_bind fails with ⟨⟨⟩⟩ | ⟨_, _, ⟨⟩, fails⟩
  cases found : environment.world.resolve? reference with
  | some descriptor =>
      rw [found] at fails
      cases fails
  | none =>
      rw [found] at fails
      cases fails
      rfl

theorem isOfSymbol_of_bindSymbol {record : SymbolRecord} {kind : SymbolKind}
    (fails : bindSymbol record kind environment state = .error error after) :
    error.isOfSymbol = true := by
  unfold bindSymbol at fails
  cases named : record.reference with
  | none =>
      rw [named] at fails
      cases fails
  | some reference =>
      rw [named] at fails
      rcases error_of_bind fails with fails | ⟨_, _, _, fails⟩
      · exact isOfSymbol_of_resolveReference fails
      · rcases error_of_bind fails with fails | ⟨_, _, _, ⟨⟩⟩
        exact isOfSymbol_of_checkKind fails

theorem isOfSymbol_of_resolveSymbol {record : SymbolRecord}
    (fails : resolveSymbol record environment state = .error error after) :
    error.isOfSymbol = true := by
  rcases error_of_bind fails with fails | ⟨kind, middle, _, fails⟩
  · cases recorded : record.kind with
    | symbol kind =>
        rw [recorded] at fails
        cases fails
    | returnableBlock =>
        rw [recorded] at fails
        cases fails
        rfl
  · rcases error_of_bind fails with ⟨⟨⟩⟩ | ⟨_, _, ⟨⟩, fails⟩
    cases found : middle.cachedSymbol? record.uniqueId.index with
    | some symbol =>
        rw [found] at fails
        rcases error_of_bind fails with fails | ⟨_, _, _, ⟨⟩⟩
        exact isOfSymbol_of_checkKind fails
    | none =>
        rw [found] at fails
        rcases error_of_bind fails with fails | ⟨_, _, _, ⟨⟩⟩
        exact isOfSymbol_of_bindSymbol fails

/-- Linking a symbol fails because of the symbol only. -/
theorem isOfSymbol_of_symbolFor {requirement : Requirement} {record : SymbolRecord}
    (fails : symbolFor requirement record environment state = .error error after) :
    error.isOfSymbol = true := by
  rcases error_of_bind fails with fails | ⟨_, _, _, fails⟩
  · exact isOfSymbol_of_resolveSymbol fails
  · rcases error_of_bind fails with fails | ⟨_, _, _, ⟨⟩⟩
    exact isOfSymbol_of_checkKind fails

end Failure

end Decode

end IrLink
