import IrLink.Proofs.Decode.Reachable
import IrLink.Proofs.Record.Grammar

/-!
# Which steps can be carried out

Whether steps can be carried out depends on little of the session if no record
of a symbol has a reference: a symbol is then described by a placeholder,
unless it is a built-in.  `Linkable` says when a list of steps can be carried
out from a view, and `perform_ok_iff` that this is exactly so.  One step is
looked at in `LinkStep.Passed`, which says all that is so when it was carried
out.
-/

namespace IrLink

/-! ## Symbols without references -/

/-- A record without a reference gives the known symbol, or a new one that is not
bound. -/
theorem Decode.resolveSymbol_ok_iff {environment : Environment} {state after : State}
    {record : SymbolRecord} {symbol : Symbol} (unreferenced : record.reference = none) :
    resolveSymbol record environment state = .ok symbol after ↔
      ∃ kind, record.kind = .symbol kind ∧
        (state.symbols[record.uniqueId.index]? = some symbol ∧
            (environment.settings.checkSymbolKinds = true → symbol.kind = kind) ∧
            after = state ∨
          state.symbols[record.uniqueId.index]? = none ∧
            symbol = ⟨state.symbols.size, record.uniqueId.index, kind, none⟩ ∧
            after = state.withSymbols (state.symbols.insert record.uniqueId.index symbol)) := by
  have unbound (kind : SymbolKind) : bindSymbol record kind environment state =
      .ok none state := by
    unfold bindSymbol
    rw [unreferenced]
    rfl
  simp only [resolveSymbol_eq_ok_iff, unbound]
  constructor
  · rintro ⟨kind, recorded, known | ⟨unknown, ⟨_, ⟨⟩, rfl⟩, rfl⟩⟩
    · exact ⟨kind, recorded, .inl known⟩
    · exact ⟨kind, recorded, .inr ⟨unknown, rfl, rfl⟩⟩
  · rintro ⟨kind, recorded, known | ⟨unknown, rfl, rfl⟩⟩
    · exact ⟨kind, recorded, .inl known⟩
    · exact ⟨kind, recorded, .inr ⟨unknown, ⟨none, rfl, rfl⟩, rfl⟩⟩

/-- The symbol of a record without a reference can be linked where the recorded
kind is that of the known symbol and fits the place. -/
theorem Decode.exists_symbolFor {environment : Environment} {state : State}
    {requirement : Requirement} {record : SymbolRecord} {kind : SymbolKind}
    (unreferenced : record.reference = none) (recorded : record.kind = .symbol kind)
    (fits : environment.settings.checkSymbolKinds = true →
      requirement.accepts kind = true ∧
        ∀ symbol, state.symbols[record.uniqueId.index]? = some symbol → symbol.kind = kind) :
    ∃ symbol after, symbolFor requirement record environment state = .ok symbol after := by
  cases known : state.symbols[record.uniqueId.index]? with
  | some symbol =>
      have same := fun strict => (fits strict).2 symbol known
      have resolved := (resolveSymbol_ok_iff unreferenced).mpr
        ⟨kind, recorded, .inl ⟨known, same, rfl⟩⟩
      refine ⟨symbol, state, symbolFor_ok_iff.mpr ⟨resolved, fun strict => ?_⟩⟩
      rw [same strict]
      exact (fits strict).1
  | none =>
      exact ⟨_, _, symbolFor_ok_iff.mpr
        ⟨(resolveSymbol_ok_iff unreferenced).mpr ⟨kind, recorded, .inr ⟨known, rfl, rfl⟩⟩,
          fun strict => (fits strict).1⟩⟩

/-! ## Conditions on steps -/

/-- Every jump comes after the beginning of a loop with its identifier, or is to
a loop that has begun before all steps. -/
def Scoped (begun : Int32 → Bool) (steps : List LinkStep) : Prop :=
  ∀ (before : List LinkStep) (id : Int32) (after : List LinkStep),
    steps = before ++ .jump id :: after → begun id = true ∨ .beginLoop id ∈ before

/-- Every symbol has the kind that its identifier is assigned, and that kind
fits its place. -/
def KindsFit (kindOf : UInt64 → SymbolKind) (steps : List LinkStep) : Prop :=
  ∀ (requirement : Requirement) (record : SymbolRecord),
    .use requirement record ∈ steps →
      record.kind = .symbol (kindOf record.uniqueId.index) ∧
        requirement.accepts (kindOf record.uniqueId.index) = true

/-- No symbol is recorded with a reference. -/
def Unreferenced (steps : List LinkStep) : Prop :=
  ∀ (requirement : Requirement) (record : SymbolRecord),
    .use requirement record ∈ steps → record.reference = none

/-- The identifier of a built-in symbol. -/
def IsBuiltin (id : UInt64) : Prop :=
  ∃ builtin ∈ Builtin.all, builtin.symbol.id = id

section Scoped

variable {begun later : Int32 → Bool} {step : LinkStep} {steps : List LinkStep}

theorem scoped_nil (begun : Int32 → Bool) : Scoped begun [] := by
  intro before id after parted
  cases before <;> cases parted

/-- Jumps stand in scope if the first step does, and those after it do where the
first step may have begun a loop. -/
theorem scoped_cons
    (grows : ∀ id, later id = true ↔ step = .beginLoop id ∨ begun id = true) :
    Scoped begun (step :: steps) ↔
      (∀ id, step = .jump id → begun id = true) ∧ Scoped later steps := by
  constructor
  · intro inScope
    constructor
    · rintro id rfl
      rcases inScope [] id steps rfl with known | impossible
      · exact known
      · cases impossible
    · rintro before id after rfl
      rcases inScope (step :: before) id after rfl with known | begins
      · exact .inl ((grows id).mpr (.inr known))
      · rcases List.mem_cons.mp begins with first | begins
        · exact .inl ((grows id).mpr (.inl first.symm))
        · exact .inr begins
  · rintro ⟨first, inScope⟩ before id after parted
    cases before with
    | nil =>
        cases parted
        exact .inl (first id rfl)
    | cons other before =>
        cases parted
        rcases inScope before id after rfl with known | begins
        · rcases (grows id).mp known with first | known
          · exact .inr (first ▸ .head before)
          · exact .inl known
        · exact .inr (.tail step begins)

end Scoped

/-! ## Views without references -/

namespace View

/-- A view in which no symbol but those of built-ins has a real descriptor. -/
structure Plain (view : View) : Prop where
  builtin : ∀ builtin ∈ Builtin.all,
    view.symbols[builtin.symbol.id]? = some builtin.symbol ∧
      builtin.symbol.descriptor.isPlaceholder = false ∧
      view.declared builtin.symbol.descriptor.id = true
  other : ∀ (id : UInt64) (symbol : Symbol), view.symbols[id]? = some symbol →
    IsBuiltin id ∨ symbol.descriptor.isPlaceholder = true

/-- The kinds of the known symbols are those assigned to their identifiers. -/
def Agrees (view : View) (kindOf : UInt64 → SymbolKind) : Prop :=
  ∀ (id : UInt64) (symbol : Symbol), view.symbols[id]? = some symbol →
    symbol.kind = kindOf id

end View

/-- A fresh session has no real descriptors but those of built-ins. -/
theorem State.initial_plain : State.initial.view.Plain where
  builtin := by decide +kernel
  other := fun id symbol found => by
    rcases State.builtin_of_initial found with ⟨builtin, among, rfl, same⟩
    exact .inl ⟨builtin, among, same⟩

/-! ## One step -/

/-- After a new symbol was added, it and those before are known. -/
theorem known_insert_iff {symbols : Std.TreeMap UInt64 Symbol} {id : UInt64}
    (fresh : symbols[id]? = none) (added : Symbol) (other : UInt64) (symbol : Symbol) :
    (symbols.insert id added)[other]? = some symbol ↔
      id = other ∧ added = symbol ∨ symbols[other]? = some symbol := by
  rw [Std.TreeMap.getElem?_insert]
  by_cases same : id = other
  · subst same
    simp [fresh]
  · simp [same]

/-- A new symbol that is described by a placeholder names no real descriptor. -/
theorem View.Plain.add {view : View} {id : UInt64} {symbol : Symbol} (plain : view.Plain)
    (fresh : view.symbols[id]? = none) (placeholder : symbol.descriptor.isPlaceholder = true) :
    { view with symbols := view.symbols.insert id symbol }.Plain where
  builtin := fun builtin among => by
    rcases plain.builtin builtin among with ⟨named, real, declared⟩
    exact ⟨(known_insert_iff fresh symbol _ _).mpr (.inr named), real, declared⟩
  other := fun other found named => by
    rcases (known_insert_iff fresh symbol other found).mp named with ⟨rfl, rfl⟩ | named
    · exact .inr placeholder
    · exact plain.other other found named

variable {environment : Environment} {view next : View} {step : LinkStep}

/-- What is so when a step was carried out. -/
structure LinkStep.Passed (environment : Environment) (view : View) (step : LinkStep)
    (next : View) : Prop where
  plain : next.Plain
  acceptable : step.Acceptable
  shallow : step.Shallow environment.settings.maxDepth
  jump : ∀ id, step = .jump id → view.loops id = true
  loops : ∀ id, next.loops id = true ↔ step = .beginLoop id ∨ view.loops id = true
  declare : ∀ id, step = .declare id → ¬ IsBuiltin id
  /-- The symbols that were known before still are. -/
  grown : ∀ (id : UInt64) (symbol : Symbol), view.symbols[id]? = some symbol →
    next.symbols[id]? = some symbol
  /-- The symbol of a record is known, of the recorded kind if that is checked. -/
  used : ∀ requirement record, step = .use requirement record →
    ∃ symbol, next.symbols[record.uniqueId.index]? = some symbol ∧
      (environment.settings.checkSymbolKinds = true →
        record.kind = .symbol symbol.kind ∧ requirement.accepts symbol.kind = true)
  /-- Only the symbol of a record can be new, and it is of the recorded kind. -/
  made : ∀ (id : UInt64) (symbol : Symbol), next.symbols[id]? = some symbol →
    view.symbols[id]? = some symbol ∨
      ∃ requirement record, step = .use requirement record ∧ record.uniqueId.index = id ∧
        record.kind = .symbol symbol.kind

namespace LinkStep

/-- A step that leaves the view as it was. -/
theorem passed_of_same (plain : view.Plain) (acceptable : step.Acceptable)
    (shallow : step.Shallow environment.settings.maxDepth)
    (jump : ∀ id, step = .jump id → view.loops id = true)
    (declare : ∀ id, step = .declare id → ¬ IsBuiltin id)
    (begins : ∀ id, step ≠ .beginLoop id)
    (uses : ∀ requirement record, step ≠ .use requirement record) :
    step.Passed environment view view where
  plain := plain
  acceptable := acceptable
  shallow := shallow
  jump := jump
  loops := fun id => ⟨.inr, fun begun => begun.resolve_left (begins id)⟩
  declare := declare
  grown := fun _ _ known => known
  used := fun requirement record used => absurd used (uses requirement record)
  made := fun _ _ known => .inl known

/-- A declaration of a built-in is a second one, and no other symbol makes a
declaration known. -/
theorem perform_declare (plain : view.Plain) (id : UInt64) :
    (LinkStep.declare id).perform environment view = .ok () next ↔
      ¬ IsBuiltin id ∧ view = next := by
  simp only [perform]
  cases found : view.symbols[id]? with
  | none =>
      have unnamed : ¬ IsBuiltin id := by
        rintro ⟨builtin, among, rfl⟩
        cases found.symm.trans (plain.builtin builtin among).1
      constructor
      · rintro ⟨⟩
        exact ⟨unnamed, rfl⟩
      · rintro ⟨_, rfl⟩
        rfl
  | some symbol =>
      dsimp only
      split
      · rename_i placeholder
        have unnamed : ¬ IsBuiltin id := by
          rintro ⟨builtin, among, rfl⟩
          rcases plain.builtin builtin among with ⟨known, real, _⟩
          cases found.symm.trans known
          cases placeholder.symm.trans real
        constructor
        · rintro ⟨⟩
          exact ⟨unnamed, rfl⟩
        · rintro ⟨_, rfl⟩
          rfl
      · rename_i real
        rcases plain.other id symbol found with named | placeholder
        · have declared : view.declared symbol.descriptor.id = true := by
            rcases named with ⟨builtin, among, rfl⟩
            rcases plain.builtin builtin among with ⟨known, _, declared⟩
            cases found.symm.trans known
            exact declared
          rw [if_pos declared]
          exact iff_of_false (by rintro ⟨⟩) fun unnamed => unnamed.1 named
        · exact absurd placeholder real

/-- The step of a symbol is carried out if the symbol can be linked. -/
theorem perform_use {requirement : Requirement} {record : SymbolRecord} :
    (LinkStep.use requirement record).perform environment view = .ok () next ↔
      ∃ symbol after,
        Decode.symbolFor requirement record environment view.state = .ok symbol after ∧
          view.withSymbols after = next := by
  simp only [perform]
  cases linked : Decode.symbolFor requirement record environment view.state with
  | ok symbol after =>
      constructor
      · rintro ⟨⟩
        exact ⟨symbol, after, rfl, rfl⟩
      · rintro ⟨_, _, ⟨⟩, rfl⟩
        rfl
  | error error after => exact iff_of_false (by rintro ⟨⟩) (by rintro ⟨_, _, ⟨⟩, _⟩)

/-- What is so when the symbol of a record without a reference was linked. -/
theorem passed_of_use (plain : view.Plain) {requirement : Requirement}
    {record : SymbolRecord} (unreferenced : record.reference = none)
    (performed : (LinkStep.use requirement record).perform environment view = .ok () next) :
    (LinkStep.use requirement record).Passed environment view next := by
  rcases perform_use.mp performed with ⟨symbol, after, linked, rfl⟩
  rcases Decode.symbolFor_ok_iff.mp linked with ⟨resolved, fits⟩
  rcases (Decode.resolveSymbol_ok_iff unreferenced).mp resolved with
    ⟨kind, recorded, linked⟩
  have nameable : record.Nameable := by
    unfold SymbolRecord.Nameable
    rw [recorded]
    nofun
  rcases linked with ⟨known, same, rfl⟩ | ⟨fresh, rfl, rfl⟩
  · exact {
      plain
      acceptable := nameable
      shallow := trivial
      jump := by simp
      loops := by simp [View.withSymbols]
      declare := by simp
      grown := fun _ _ known => known
      used := by
        rintro _ _ ⟨⟩
        exact ⟨symbol, known, fun strict => ⟨same strict ▸ recorded, fits strict⟩⟩
      made := fun _ _ known => .inl known }
  · have found := known_insert_iff fresh
      ⟨view.symbols.size, record.uniqueId.index, kind, none⟩
    exact {
      plain := plain.add fresh rfl
      acceptable := nameable
      shallow := trivial
      jump := by simp
      loops := by simp [View.withSymbols]
      declare := by simp
      grown := fun id symbol named => (found id symbol).mpr (.inr named)
      used := by
        rintro _ _ ⟨⟩
        exact ⟨_, (found _ _).mpr (.inl ⟨rfl, rfl⟩), fun strict => ⟨recorded, fits strict⟩⟩
      made := fun id symbol named => by
        rcases (found id symbol).mp named with ⟨rfl, rfl⟩ | named
        · exact .inr ⟨requirement, record, rfl, rfl, recorded⟩
        · exact .inl named }

/-- What is so when a step was carried out. -/
theorem passed_of_perform (plain : view.Plain)
    (unreferenced : ∀ requirement record, step = .use requirement record →
      record.reference = none)
    (performed : step.perform environment view = .ok () next) :
    step.Passed environment view next := by
  cases step with
  | enter depth =>
      simp only [perform] at performed
      split at performed
      · cases performed
      · rename_i shallow
        cases performed
        exact passed_of_same plain trivial (Nat.lt_of_not_le shallow) (by simp) (by simp)
          (by simp) (by simp)
  | fail error => cases performed
  | use requirement record =>
      exact passed_of_use plain (unreferenced requirement record rfl) performed
  | beginLoop id =>
      cases performed
      constructor
      case plain => exact ⟨plain.builtin, plain.other⟩
      case loops =>
        intro other
        simp
      all_goals simp_all [Acceptable, Shallow]
  | jump id =>
      simp only [perform] at performed
      split at performed
      · rename_i begun
        cases performed
        refine passed_of_same plain trivial trivial ?_ (by simp) (by simp) (by simp)
        rintro _ ⟨⟩
        exact begun
      · cases performed
  | declare id =>
      rcases (perform_declare plain id).mp performed with ⟨unnamed, rfl⟩
      refine passed_of_same plain trivial trivial (by simp) ?_ (by simp) (by simp)
      rintro _ ⟨⟩
      exact unnamed

end LinkStep

/-! ## All steps -/

/-- What allows to carry out steps from a view. -/
structure Linkable (environment : Environment) (view : View) (steps : List LinkStep) :
    Prop where
  acceptable : ∀ step ∈ steps, step.Acceptable
  inScope : Scoped view.loops steps
  shallow : ∀ step ∈ steps, step.Shallow environment.settings.maxDepth
  kinds : environment.settings.checkSymbolKinds = true →
    ∃ kindOf, view.Agrees kindOf ∧ KindsFit kindOf steps
  declared : ∀ id, .declare id ∈ steps → ¬ IsBuiltin id

variable {steps : List LinkStep}

/-- What allows steps allows the first of them. -/
theorem Linkable.perform_first (plain : view.Plain)
    (unreferenced : Unreferenced (step :: steps))
    (linkable : Linkable environment view (step :: steps)) :
    ∃ next, step.perform environment view = .ok () next := by
  cases step with
  | enter depth =>
      have shallow : depth < environment.settings.maxDepth := linkable.shallow _ (.head steps)
      exact ⟨view, by simp [LinkStep.perform, shallow]⟩
  | fail error => exact absurd (linkable.acceptable _ (.head steps)) id
  | use requirement record =>
      have unnamed := unreferenced requirement record (.head steps)
      have nameable : record.Nameable := linkable.acceptable _ (.head steps)
      cases recorded : record.kind with
      | returnableBlock => exact absurd recorded nameable
      | symbol kind =>
          have linked : ∃ symbol after, Decode.symbolFor requirement record environment
              view.state = .ok symbol after := by
            refine Decode.exists_symbolFor unnamed recorded fun strict => ?_
            rcases linkable.kinds strict with ⟨kindOf, agrees, fits⟩
            rcases fits requirement record (.head steps) with ⟨same, accepted⟩
            cases recorded.symm.trans same
            exact ⟨accepted, agrees _⟩
          rcases linked with ⟨symbol, after, linked⟩
          exact ⟨_, LinkStep.perform_use.mpr ⟨symbol, after, linked, rfl⟩⟩
  | beginLoop id => exact ⟨_, rfl⟩
  | jump id =>
      have begun : view.loops id = true :=
        (linkable.inScope [] id steps rfl).resolve_right List.not_mem_nil
      exact ⟨view, by simp [LinkStep.perform, begun]⟩
  | declare id =>
      have unnamed := linkable.declared id (.head steps)
      exact ⟨view, (LinkStep.perform_declare plain id).mpr ⟨unnamed, rfl⟩⟩

/-- What allows steps allows those after the first from the view that it leaves,
and what allows these allows them all. -/
theorem linkable_cons_iff (passed : step.Passed environment view next) :
    Linkable environment view (step :: steps) ↔ Linkable environment next steps := by
  constructor
  · intro linkable
    refine ⟨fun other among => linkable.acceptable other (.tail step among),
      ((scoped_cons passed.loops).mp linkable.inScope).2,
      fun other among => linkable.shallow other (.tail step among), fun strict => ?_,
      fun id among => linkable.declared id (.tail step among)⟩
    rcases linkable.kinds strict with ⟨kindOf, agrees, fits⟩
    refine ⟨kindOf, fun id symbol known => ?_,
      fun requirement record used => fits requirement record (.tail step used)⟩
    rcases passed.made id symbol known with known | ⟨requirement, record, rfl, rfl, recorded⟩
    · exact agrees id symbol known
    · have assigned := (fits requirement record (.head steps)).1
      rw [recorded] at assigned
      exact RecordedKind.symbol.inj assigned
  · intro linkable
    refine ⟨List.forall_mem_cons.mpr ⟨passed.acceptable, linkable.acceptable⟩,
      (scoped_cons passed.loops).mpr ⟨passed.jump, linkable.inScope⟩,
      List.forall_mem_cons.mpr ⟨passed.shallow, linkable.shallow⟩, fun strict => ?_,
      fun id among => ?_⟩
    · rcases linkable.kinds strict with ⟨kindOf, agrees, fits⟩
      refine ⟨kindOf, fun id symbol known => agrees id symbol (passed.grown id symbol known),
        fun requirement record used => ?_⟩
      rcases List.mem_cons.mp used with first | used
      · rcases passed.used requirement record first.symm with ⟨symbol, known, checked⟩
        rw [← agrees _ symbol known]
        exact checked strict
      · exact fits requirement record used
    · rcases List.mem_cons.mp among with first | among
      · exact passed.declare id first.symm
      · exact linkable.declared id among

/-- Steps without references can be carried out from a view if and only if they
are linkable. -/
theorem perform_ok_iff (plain : view.Plain) (unreferenced : Unreferenced steps) :
    (∃ next, perform environment steps view = .ok () next) ↔
      Linkable environment view steps := by
  induction steps generalizing view with
  | nil =>
      refine iff_of_true ⟨view, rfl⟩ ⟨by simp, scoped_nil _, by simp, fun _ => ?_, by simp⟩
      refine ⟨fun id => (view.symbols[id]?.map (·.kind)).getD default, ?_, ?_⟩
      · intro id symbol known
        simp [known]
      · intro requirement record used
        cases used
  | cons step steps inductionHypothesis =>
      have rest : Unreferenced steps := fun requirement record used =>
        unreferenced requirement record (.tail step used)
      have passes : ∀ middle, step.perform environment view = .ok () middle →
          step.Passed environment view middle := fun middle performed =>
        LinkStep.passed_of_perform plain
          (fun requirement record used => unreferenced requirement record (used ▸ .head steps))
          performed
      constructor
      · rintro ⟨next, performed⟩
        rw [perform] at performed
        cases first : step.perform environment view with
        | ok _ middle =>
            rw [first] at performed
            have passed := passes middle first
            exact (linkable_cons_iff passed).mpr
              ((inductionHypothesis passed.plain rest).mp ⟨next, performed⟩)
        | error error middle =>
            rw [first] at performed
            cases performed
      · intro linkable
        rcases linkable.perform_first plain unreferenced with ⟨middle, first⟩
        have passed := passes middle first
        rw [perform, first]
        exact (inductionHypothesis passed.plain rest).mpr ((linkable_cons_iff passed).mp linkable)

end IrLink
