import IrLink.Proofs.Decode.Added
import IrLink.Proofs.Decode.Chronicle
import IrLink.Proofs.Universe.Reference

/-!
# The records that make symbols

A record makes a symbol if nothing is known under its identifier.  The symbol has the kind
that is recorded, and is bound to what the reference of the record means, or to nothing if
there is no reference (`SymbolRecord.Describes`).  No step but the use of a record makes a
symbol, and it does so even where the place of the record refuses it.  So every symbol of a
session is that of a built-in or was made by one operation, from the first record with its
identifier that the operation links (`Operation.Makes`, `Chronicle.builtin_or_made`).
-/

namespace IrLink

/-! ## One record -/

/-- A symbol is what a record says of it.  A symbol that is not bound has a record without
a reference. -/
structure SymbolRecord.Describes (environment : Environment) (record : SymbolRecord)
    (symbol : Symbol) : Prop where
  id : record.uniqueId.index = symbol.id
  kind : record.kind = .symbol symbol.kind
  unbound : symbol.bound = none → record.reference = none
  bound : ∀ descriptor, symbol.bound = some descriptor →
    ∃ reference, record.reference = some reference ∧
      environment.world.resolve? reference = some descriptor ∧
      (environment.settings.checkSymbolKinds = true →
        symbol.kind.accepts descriptor.kind = true)

/-- A record gives a symbol, and leaves a state: it has the identifier of a known symbol, and
its kind if kinds are checked, or it makes the symbol that it describes. -/
inductive SymbolRecord.Gives (environment : Environment) (state : State) (record : SymbolRecord)
    (symbol : Symbol) : State → Prop
  | known {kind : SymbolKind} (recorded : record.kind = .symbol kind)
    (known : state.cachedSymbol? record.uniqueId.index = some symbol)
    (same : environment.settings.checkSymbolKinds = true → symbol.kind = kind) :
    Gives environment state record symbol state
  | new (unknown : state.cachedSymbol? record.uniqueId.index = none)
    (describes : record.Describes environment symbol)
    (serial : symbol.serial = state.symbolCount) :
    Gives environment state record symbol
      (state.withSymbols (state.symbols.insert symbol.id symbol))

namespace Decode

variable {environment : Environment} {state after : State} {record : SymbolRecord}
  {symbol : Symbol} {kind : SymbolKind} {bound : Option Descriptor}

/-- A new symbol is bound to what its reference means, if it has one. -/
theorem bindSymbol_ok_iff :
    bindSymbol record kind environment state = .ok bound state ↔
      (bound = none → record.reference = none) ∧
        ∀ descriptor, bound = some descriptor →
          ∃ reference, record.reference = some reference ∧
            environment.world.resolve? reference = some descriptor ∧
            (environment.settings.checkSymbolKinds = true →
              kind.accepts descriptor.kind = true) := by
  unfold bindSymbol
  cases named : record.reference with
  | none =>
    rw [pure_ok_iff]
    constructor
    · rintro ⟨rfl, -⟩
      exact ⟨fun _ => rfl, by rintro _ ⟨⟩⟩
    · rintro ⟨-, means⟩
      cases bound with
      | none => exact ⟨rfl, rfl⟩
      | some descriptor =>
        obtain ⟨_, ⟨⟩, -⟩ := means descriptor rfl
  | some reference =>
    dsimp only
    rw [bind_ok_iff, resolveReference_eq]
    constructor
    · rintro ⟨descriptor, middle, resolves, checked⟩
      obtain ⟨⟨⟩, _, fits, ⟨⟩⟩ := bind_ok_iff.mp checked
      refine ⟨by rintro ⟨⟩, ?_⟩
      rintro _ ⟨⟩
      refine ⟨reference, rfl, ?_, (checkKind_ok_iff.mp fits).1⟩
      cases meant : environment.world.resolve? reference with
      | none =>
        rw [meant] at resolves
        cases resolves
      | some other =>
        rw [meant] at resolves
        cases resolves
        rfl
    · rintro ⟨unbound, means⟩
      cases bound with
      | none => cases unbound rfl
      | some descriptor =>
        obtain ⟨_, ⟨⟩, meant, fits⟩ := means descriptor rfl
        refine ⟨descriptor, state, by rw [meant]; rfl, bind_ok_iff.mpr ⟨(), state, ?_, rfl⟩⟩
        exact checkKind_ok_iff.mpr ⟨fits, rfl⟩

/-- Linking the symbol of a record succeeds exactly where the record gives a symbol. -/
theorem resolveSymbol_ok_iff_gives :
    resolveSymbol record environment state = .ok symbol after ↔
      record.Gives environment state symbol after := by
  rw [resolveSymbol_eq_ok_iff]
  constructor
  · rintro ⟨kind, recorded, ⟨known, same, rfl⟩ | ⟨unknown, ⟨bound, binds, rfl⟩, rfl⟩⟩
    · exact .known recorded known same
    · obtain ⟨unbound, means⟩ := bindSymbol_ok_iff.mp binds
      exact .new unknown ⟨rfl, recorded, unbound, means⟩ rfl
  · intro gives
    cases gives with
    | known recorded known same => exact ⟨_, recorded, .inl ⟨known, same, rfl⟩⟩
    | new unknown describes serial =>
      rcases symbol with ⟨number, id, kind, bound⟩
      obtain ⟨rfl, recorded, unbound, means⟩ := describes
      have binds : bindSymbol record kind environment state = .ok bound state :=
        bindSymbol_ok_iff.mpr ⟨unbound, means⟩
      change number = state.symbols.size at serial
      subst serial
      exact ⟨kind, recorded, .inr ⟨unknown, ⟨bound, binds, rfl⟩, rfl⟩⟩

/-- Linking a symbol changes nothing if it fails. -/
theorem state_of_resolveSymbol_error {error : DecodeError}
    (fails : resolveSymbol record environment state = .error error after) : after = state := by
  rcases error_of_bind fails with early | ⟨kind, _, recorded, -⟩
  · exact (stateless_recordedKind record.kind).state_of_error early
  · obtain ⟨-, rfl⟩ := recordedKind_ok_iff.mp recorded
    cases found : state.symbols[record.uniqueId.index]? with
    | some known =>
      rw [resolveSymbol_of_known recorded found] at fails
      exact ((stateless_checkKind _ _ _).bind fun _ => .pure known).state_of_error fails
    | none =>
      rw [resolveSymbol_of_unknown recorded found] at fails
      rcases error_of_bind fails with fails | ⟨_, _, _, ⟨⟩⟩
      exact (stateless_bindSymbol record kind).state_of_error fails

/-- Linking a record leaves symbols with other identifiers as they are. -/
theorem symbols_of_resolveSymbol {id : UInt64} (other : id ≠ record.uniqueId.index) :
    (finalState (resolveSymbol record environment state)).symbols[id]? = state.symbols[id]? := by
  obtain ⟨outcome, symbols, links⟩ := resolveSymbol_links record environment state.symbols
  have kept : symbols[id]? = state.symbols[id]? := links.others other
  rw [links.runs state rfl]
  cases outcome <;> exact kept

/-- A symbol that only linking a record makes known is described by the record. -/
theorem describes_of_resolveSymbol {id : UInt64} (unknown : state.symbols[id]? = none)
    (known : (finalState (resolveSymbol record environment state)).symbols[id]? = some symbol) :
    record.uniqueId.index = id ∧ record.Describes environment symbol := by
  by_cases same : id = record.uniqueId.index
  · subst same
    refine ⟨rfl, ?_⟩
    cases run : resolveSymbol record environment state with
    | error error after =>
      rw [run, state_of_resolveSymbol_error run] at known
      cases unknown.symm.trans known
    | ok made after =>
      rw [run] at known
      cases resolveSymbol_ok_iff_gives.mp run with
      | known _ found => cases unknown.symm.trans found
      | new _ describes =>
        rw [describes.id] at known
        cases Std.TreeMap.getElem?_insert_self.symm.trans known
        exact describes
  · rw [symbols_of_resolveSymbol same, unknown] at known
    cases known

/-- The place of a record is looked at when its symbol is known already. -/
theorem finalState_symbolFor (requirement : Requirement) (record : SymbolRecord)
    (environment : Environment) (state : State) :
    finalState (symbolFor requirement record environment state) =
      finalState (resolveSymbol record environment state) := by
  unfold symbolFor
  cases run : resolveSymbol record environment state with
  | error error after => rw [bind_of_error run]
  | ok symbol after =>
    rw [bind_of_ok run]
    obtain ⟨outcome, ends⟩ := stateless_checkKind symbol.id (requirement.accepts symbol.kind)
      (.required requirement symbol.kind) environment
    cases outcome with
    | error error => rw [bind_of_error (ends after)]; rfl
    | ok _ => rw [bind_of_ok (ends after)]; rfl

end Decode

/-! ## Steps -/

section Steps

variable {environment : Environment} {view middle : View} {step : LinkStep}
  {steps before : List LinkStep} {id : UInt64} {symbol : Symbol}
  {requirement : Requirement} {record : SymbolRecord}

namespace LinkStep

/-- The use of a record leaves the symbols that linking it leaves, even where the place
refuses the symbol. -/
theorem symbols_perform_use :
    ((use requirement record).perform environment view).view.symbols =
      (finalState (Decode.resolveSymbol record environment view.state)).symbols := by
  rw [← Decode.finalState_symbolFor requirement, perform]
  cases Decode.symbolFor requirement record environment view.state <;> rfl

/-- What is known before a step is known after it, however it ends. -/
theorem symbols_perform_of_known (known : view.symbols[id]? = some symbol) :
    (step.perform environment view).view.symbols[id]? = some symbol := by
  by_cases uses : Uses [step] id
  · obtain ⟨requirement, record, among, -⟩ := uses
    cases List.mem_singleton.mp among
    obtain ⟨outcome, after, links⟩ :=
      Decode.resolveSymbol_links record environment view.state.symbols
    have later := links.extends id symbol known
    rw [symbols_perform_use, links.runs view.state rfl]
    cases outcome <;> exact later
  · rw [symbols_perform uses, known]

/-- A step that makes a symbol known uses a record that makes it. -/
theorem uses_of_symbols_perform (unknown : view.symbols[id]? = none)
    (known : (step.perform environment view).view.symbols[id]? = some symbol) :
    ∃ requirement record, step = .use requirement record ∧ record.uniqueId.index = id ∧
      record.Describes environment symbol := by
  by_cases uses : Uses [step] id
  · obtain ⟨requirement, record, among, -⟩ := uses
    cases List.mem_singleton.mp among
    rw [symbols_perform_use] at known
    exact ⟨requirement, record, rfl, Decode.describes_of_resolveSymbol unknown known⟩
  · rw [symbols_perform uses, unknown] at known
    cases known

end LinkStep

/-- What is known before some steps is known after them, however they end. -/
theorem symbols_perform_of_known (known : view.symbols[id]? = some symbol) :
    (perform environment steps view).view.symbols[id]? = some symbol := by
  induction steps generalizing view with
  | nil => exact known
  | cons step steps inductionHypothesis =>
    have own : (step.perform environment view).view.symbols[id]? = some symbol :=
      LinkStep.symbols_perform_of_known known
    rw [perform]
    cases performed : step.perform environment view with
    | ok _ middle =>
      rw [performed] at own
      exact inductionHypothesis own
    | error error middle =>
      rw [performed] at own
      exact own

/-- Steps that make a symbol known, however they end, reach the use of a record that makes
it. -/
theorem reaches_of_symbols_perform (unknown : view.symbols[id]? = none)
    (known : (perform environment steps view).view.symbols[id]? = some symbol) :
    ∃ before requirement record middle,
      Reaches environment view steps before (.use requirement record) middle ∧
        middle.symbols[id]? = none ∧ record.uniqueId.index = id ∧
        record.Describes environment symbol := by
  induction steps generalizing view with
  | nil => cases unknown.symm.trans known
  | cons step steps inductionHypothesis =>
    cases found : (step.perform environment view).view.symbols[id]? with
    | some other =>
      -- The first step makes the symbol, and the others leave it.
      have same : other = symbol := by
        rw [perform] at known
        cases performed : step.perform environment view with
        | ok _ middle =>
          rw [performed] at found known
          exact Option.some.inj ((symbols_perform_of_known found).symm.trans known)
        | error error middle =>
          rw [performed] at found known
          exact Option.some.inj (found.symm.trans known)
      obtain ⟨requirement, record, rfl, named, describes⟩ :=
        LinkStep.uses_of_symbols_perform unknown (same ▸ found)
      exact ⟨[], requirement, record, view, reaches_cons_iff.mpr (.inl ⟨rfl, rfl, rfl⟩),
        unknown, named, describes⟩
    | none =>
      rw [perform] at known
      cases performed : step.perform environment view with
      | ok _ middle =>
        rw [performed] at found known
        obtain ⟨before, requirement, record, last, reaches, free, named, describes⟩ :=
          inductionHypothesis found known
        exact ⟨_, requirement, record, last,
          reaches_cons_iff.mpr (.inr ⟨middle, before, rfl, performed, reaches⟩), free, named,
          describes⟩
      | error error middle =>
        rw [performed] at found known
        cases found.symm.trans known

/-- A record that is reached while its identifier is unknown is the first one with it. -/
theorem Reaches.firstUse
    (reaches : Reaches environment view steps before (.use requirement record) middle)
    (unknown : middle.symbols[record.uniqueId.index]? = none) :
    FirstWith (·.uniqueId.index = record.uniqueId.index)
      (steps.filterMap LinkStep.used?) record := by
  obtain ⟨after, rfl⟩ := reaches.among
  refine ⟨before.filterMap LinkStep.used?, after.filterMap LinkStep.used?, ?_, rfl, ?_⟩
  · simp [LinkStep.used?]
  · intro other among same
    obtain ⟨step, inside, used⟩ := List.mem_filterMap.mp among
    cases step with
    | use requirement found =>
      cases used
      exact known_of_perform reaches.runs ⟨requirement, other, inside, same⟩ unknown
    | _ => cases used

/-- The record that makes a symbol is the first one of its identifier among the steps. -/
theorem firstUse_of_symbols_perform (unknown : view.symbols[id]? = none)
    (known : (perform environment steps view).view.symbols[id]? = some symbol) :
    ∃ record, FirstWith (·.uniqueId.index = id) (steps.filterMap LinkStep.used?) record ∧
      record.Describes environment symbol := by
  obtain ⟨before, requirement, record, middle, reaches, free, rfl, describes⟩ :=
    reaches_of_symbols_perform unknown known
  exact ⟨record, reaches.firstUse free, describes⟩

end Steps

/-! ## Requests -/

namespace Request

variable {environment : Environment} {state : State} {request : Request} {id : UInt64}
  {symbol : Symbol}

/-- The record of the symbol that is asked for by itself. -/
def asked? : Request → Option SymbolRecord
  | .symbol record => some record
  | _ => none

/-- The records of symbols that a request links, in order. -/
def symbolRecords (request : Request) : List SymbolRecord :=
  request.asked?.toList ++ (request.items.flatMap Item.actions).filterMap LinkStep.used?

/-- The records of symbols of a request for trees are those that its steps use. -/
theorem symbolRecords_eq_trace (trees : ∀ record, request ≠ .symbol record) (depth : Nat) :
    request.symbolRecords = (request.trace depth).filterMap LinkStep.used? := by
  have unasked : request.asked? = none := by
    cases request with
    | symbol record => cases trees record rfl
    | _ => rfl
  rw [symbolRecords, unasked, trace, List.filterMap_flatMap, List.filterMap_flatMap]
  refine List.flatMap_congr fun item _ => ?_
  cases item with
  | step own => rfl
  | part record => exact record.symbolRecords_eq_trace depth

/-- A request that makes a symbol, however it ends, does so by the first record of its
identifier. -/
theorem firstUse_of_after (keyed : state.Keyed) (unknown : state.symbols[id]? = none)
    (known : (request.after environment state).symbols[id]? = some symbol) :
    ∃ record, FirstWith (·.uniqueId.index = id) request.symbolRecords record ∧
      record.Describes environment symbol := by
  by_cases trees : ∀ record, request ≠ .symbol record
  · rw [request.symbolRecords_eq_trace trees state.depth]
    refine firstUse_of_symbols_perform (show state.view.symbols[id]? = none from unknown) ?_
    rw [trace, ← (follows environment.world.name trees).view_finalState keyed, ← answer_eq,
      finalState_answer]
    exact known
  · push Not at trees
    obtain ⟨record, rfl⟩ := trees
    obtain ⟨named, describes⟩ := Decode.describes_of_resolveSymbol unknown known
    exact ⟨record, .here named, describes⟩

end Request

/-! ## Sessions -/

variable {environment : Environment} {operation : Operation} {operations : List Operation}
  {record other : SymbolRecord} {state : State} {symbol : Symbol}

/-- An operation makes a symbol from a record: the identifier was unknown, and the record is
the first with it. -/
structure Operation.Makes (environment : Environment) (operation : Operation)
    (record : SymbolRecord) (symbol : Symbol) : Prop where
  unknown : operation.before.symbols[symbol.id]? = none
  known : (operation.after environment).Knows symbol
  first : FirstWith (·.uniqueId.index = symbol.id) operation.request.symbolRecords record

/-- A symbol is what the record says from which it was made. -/
theorem Operation.Makes.describes (makes : operation.Makes environment record symbol)
    (reachable : Reachable environment operation.before) :
    record.Describes environment symbol := by
  obtain ⟨maker, first, describes⟩ :=
    Request.firstUse_of_after reachable.keyed makes.unknown makes.known
  exact makes.first.unique first ▸ describes

/-- One of some operations makes a symbol from a record. -/
def SymbolRecord.Makes (environment : Environment) (operations : List Operation)
    (record : SymbolRecord) (symbol : Symbol) : Prop :=
  ∃ operation ∈ operations, operation.Makes environment record symbol

namespace Chronicle

variable (chronicle : Chronicle environment state operations)

include chronicle

/-- A symbol that an operation has made is known ever since. -/
theorem knows_of_makes (makes : record.Makes environment operations symbol) :
    state.Knows symbol := by
  obtain ⟨operation, among, makes⟩ := makes
  exact (chronicle.footprint operation among).2.grown.symbols.knows makes.known

/-- A symbol is what the record says from which it was made. -/
theorem describes_of_makes (makes : record.Makes environment operations symbol) :
    record.Describes environment symbol := by
  obtain ⟨operation, among, makes⟩ := makes
  exact makes.describes (chronicle.footprint operation among).1

/-- A symbol is made from one record at most. -/
theorem makes_unique (makes : record.Makes environment operations symbol)
    (alsoMakes : other.Makes environment operations symbol) : record = other := by
  induction chronicle with
  | start =>
    obtain ⟨_, ⟨⟩, -⟩ := makes
  | @step state operations chronicle request inductionHypothesis =>
    -- What earlier operations have made is known to the last one.
    have early {record : SymbolRecord} {operation : Operation} (among : operation ∈ operations)
        (makes : operation.Makes environment record symbol) : state.symbols[symbol.id]? ≠ none :=
      fun unknown => by cases unknown.symm.trans (chronicle.knows_of_makes ⟨_, among, makes⟩)
    obtain ⟨operation, among, makes⟩ := makes
    obtain ⟨second, alsoAmong, alsoMakes⟩ := alsoMakes
    rcases List.mem_cons.mp among with rfl | among
    · rcases List.mem_cons.mp alsoAmong with rfl | alsoAmong
      · exact makes.first.unique alsoMakes.first
      · exact absurd makes.unknown (early alsoAmong alsoMakes)
    · rcases List.mem_cons.mp alsoAmong with rfl | alsoAmong
      · exact absurd alsoMakes.unknown (early among makes)
      · exact inductionHypothesis ⟨_, among, makes⟩ ⟨_, alsoAmong, alsoMakes⟩

/-- A known symbol is that of a built-in, or was made from a record. -/
theorem builtin_or_made (known : state.Knows symbol) :
    (∃ builtin ∈ Builtin.all, builtin.symbol = symbol) ∨
      ∃ record : SymbolRecord, record.Makes environment operations symbol := by
  induction chronicle with
  | start =>
    obtain ⟨builtin, among, same, -⟩ := State.builtin_of_initial known
    exact .inl ⟨builtin, among, same⟩
  | @step state operations chronicle request inductionHypothesis =>
    cases before : state.symbols[symbol.id]? with
    | none =>
      obtain ⟨record, first, -⟩ :=
        Request.firstUse_of_after chronicle.reachable.keyed before known
      exact .inr ⟨record, _, .head _, before, known, first⟩
    | some earlier =>
      have grown := (request.footprint environment chronicle.reachable.settled.sound).grown
      cases (grown.symbols symbol.id earlier before).symm.trans known
      refine (inductionHypothesis before).imp_right ?_
      rintro ⟨record, operation, among, makes⟩
      exact ⟨record, operation, .tail _ among, makes⟩

end Chronicle

end IrLink
