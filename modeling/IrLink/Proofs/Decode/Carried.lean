import IrLink.Proofs.Decode.Linkable
import IrLink.Proofs.Decode.Reached
import IrLink.Proofs.Record.Announced

/-!
# Steps that were carried out

Steps that were carried out can be carried out again: the symbols that they link are known,
and so are the loops that they jump to.  Only a declaration that they make known is known by
then.  So the same steps change nothing the second time, and fail at the first declaration
with a real descriptor, if there is one (`perform_again`).

What steps change is only what they name (`LinkStep.Carried`).
-/

namespace IrLink

/-- What a view knows is known in another one. -/
structure View.Precedes (early late : View) : Prop where
  symbols : ∀ (id : UInt64) (symbol : Symbol), early.symbols[id]? = some symbol →
    late.symbols[id]? = some symbol
  declared : ∀ id, early.declared id = true → late.declared id = true
  loops : ∀ id, early.loops id = true → late.loops id = true

namespace View.Precedes

theorem refl (view : View) : view.Precedes view :=
  ⟨fun _ _ known => known, fun _ known => known, fun _ known => known⟩

theorem trans {early middle late : View} (first : early.Precedes middle)
    (second : middle.Precedes late) : early.Precedes late where
  symbols := fun id symbol known => second.symbols id symbol (first.symbols id symbol known)
  declared := fun id known => second.declared id (first.declared id known)
  loops := fun id known => second.loops id (first.loops id known)

end View.Precedes

namespace LinkStep

/-- The real descriptor under which a step makes a declaration known. -/
def registered? (symbols : Std.TreeMap UInt64 Symbol) : LinkStep → Option Descriptor
  | declare id => symbols[id]?.bind fun symbol =>
      if symbol.descriptor.isPlaceholder then none else some symbol.descriptor
  | _ => none

/-- How steps end that were carried out before: with a declaration that is known already, if
one of them makes a declaration known. -/
def again (view : View) : List Descriptor → Outcome
  | [] => .ok () view
  | descriptor :: _ => .error (.duplicateDeclaration descriptor) view

variable {environment : Environment} {view next : View} {step : LinkStep}

/-- What is so when a step was carried out. -/
structure Carried (environment : Environment) (view : View) (step : LinkStep)
    (next : View) : Prop where
  precedes : view.Precedes next
  /-- A symbol that was not linked is not changed. -/
  symbols : ∀ id, ¬ Uses [step] id → next.symbols[id]? = view.symbols[id]?
  used : ∀ id, Uses [step] id → next.symbols[id]? ≠ none
  declared : ∀ id, next.declared id = true ↔ view.declared id = true ∨
    ∃ descriptor, step.registered? view.symbols = some descriptor ∧ descriptor.id = id
  again : ∀ final : View, next.Precedes final →
    (∀ id, step = .declare id → view.symbols[id]? ≠ none) →
      step.perform environment final =
        LinkStep.again final (step.registered? final.symbols).toList

/-- A step that leaves the view as it was. -/
theorem carried_of_same (uses : ∀ requirement record, step ≠ .use requirement record)
    (registers : ∀ symbols, step.registered? symbols = none)
    (again : ∀ final : View, view.Precedes final →
      step.perform environment final = .ok () final) :
    step.Carried environment view view where
  precedes := .refl view
  symbols := fun _ _ => rfl
  used := by
    rintro _ ⟨requirement, record, among, -⟩
    exact absurd (List.mem_singleton.mp among).symm (uses requirement record)
  declared := by simp [registers]
  again := fun final later _ => by
    rw [registers]
    exact again final later

/-- What is so when a symbol was linked. -/
theorem carried_of_use {requirement : Requirement} {record : SymbolRecord}
    (performed : (LinkStep.use requirement record).perform environment view = .ok () next) :
    (LinkStep.use requirement record).Carried environment view next := by
  rcases perform_use.mp performed with ⟨symbol, after, linked, rfl⟩
  rcases Decode.symbolFor_ok_iff.mp linked with ⟨resolved, fits⟩
  rcases Decode.resolveSymbol_eq_ok_iff.mp resolved with ⟨kind, recorded, linked⟩
  -- A known symbol of the recorded kind is found again.
  have again {final : View} (known : final.symbols[record.uniqueId.index]? = some symbol)
      (same : environment.settings.checkSymbolKinds = true → symbol.kind = kind) :
      (LinkStep.use requirement record).perform environment final = .ok () final := by
    refine perform_use.mpr ⟨symbol, final.state, Decode.symbolFor_ok_iff.mpr ⟨?_, fits⟩, rfl⟩
    exact Decode.resolveSymbol_eq_ok_iff.mpr ⟨kind, recorded, .inl ⟨known, same, rfl⟩⟩
  have own {id : UInt64} (uses : Uses [.use requirement record] id) :
      record.uniqueId.index = id := by
    rcases uses with ⟨_, _, among, rfl⟩
    cases List.mem_singleton.mp among
    rfl
  rcases linked with ⟨known, same, rfl⟩ | ⟨fresh, ⟨bound, _, rfl⟩, rfl⟩
  · exact {
      precedes := .refl view
      symbols := fun _ _ => rfl
      used := fun id uses => by
        rw [← own uses]
        exact Option.ne_none_iff_exists'.mpr ⟨symbol, known⟩
      declared := by simp [registered?, View.withSymbols]
      again := fun final later _ => again (later.symbols _ _ known) same }
  · have found := known_insert_iff fresh
      ⟨view.symbols.size, record.uniqueId.index, kind, bound⟩
    have added := (found record.uniqueId.index _).mpr (.inl ⟨rfl, rfl⟩)
    exact {
      precedes := { View.Precedes.refl view with
        symbols := fun id symbol known => (found id symbol).mpr (.inr known) }
      symbols := fun id unused => by
        refine Std.TreeMap.getElem?_insert.trans (if_neg fun same => unused ?_)
        exact ⟨requirement, record, .head _, Std.LawfulEqOrd.eq_of_compare same⟩
      used := fun id uses => by
        rw [← own uses]
        exact Option.ne_none_iff_exists'.mpr ⟨_, added⟩
      declared := by simp [registered?, View.withSymbols]
      again := fun final later _ => again (later.symbols _ _ added) fun _ => rfl }

/-- What is so when a declaration was made known. -/
theorem carried_of_declare {id : UInt64}
    (performed : (LinkStep.declare id).perform environment view = .ok () next) :
    (LinkStep.declare id).Carried environment view next := by
  have unused (other : UInt64) : ¬ Uses [.declare id] other := by
    rintro ⟨_, _, among, -⟩
    cases List.mem_singleton.mp among
  cases found : view.symbols[id]? with
  | none =>
      simp only [perform, found] at performed
      cases performed
      exact {
        precedes := .refl view
        symbols := fun _ _ => rfl
        used := fun other uses => absurd uses (unused other)
        declared := by simp [registered?, found]
        again := fun _ _ known => absurd found (known id rfl) }
  | some symbol =>
      simp only [perform, found] at performed
      split at performed
      · rename_i placeholder
        cases performed
        exact {
          precedes := .refl view
          symbols := fun _ _ => rfl
          used := fun other uses => absurd uses (unused other)
          declared := by simp [registered?, found, placeholder]
          again := fun final later _ => by
            simp [perform, registered?, later.symbols id symbol found, placeholder,
              LinkStep.again] }
      · rename_i real
        split at performed
        · cases performed
        · cases performed
          exact {
            precedes := { View.Precedes.refl view with
              declared := fun other known => by simp [known] }
            symbols := fun _ _ => rfl
            used := fun other uses => absurd uses (unused other)
            declared := fun other => by simp [registered?, found, real, or_comm]
            again := fun final later _ => by
              have declared : final.declared symbol.descriptor.id = true :=
                later.declared _ (by simp)
              simp [perform, registered?, later.symbols id symbol found, real, declared,
                LinkStep.again] }

/-- What is so when a step was carried out. -/
theorem carried_of_perform (performed : step.perform environment view = .ok () next) :
    step.Carried environment view next := by
  cases step with
  | enter depth =>
      have shallow : ¬ environment.settings.maxDepth ≤ depth := by
        intro deep
        simp [perform, deep] at performed
      simp only [perform, if_neg shallow] at performed
      cases performed
      refine carried_of_same (by simp) (fun _ => rfl) fun final _ => ?_
      simp only [perform, if_neg shallow]
  | fail error => cases performed
  | use requirement record => exact carried_of_use performed
  | beginLoop id =>
      cases performed
      exact {
        precedes := { View.Precedes.refl view with
          loops := fun other begun => by simp [begun] }
        symbols := fun _ _ => rfl
        used := by
          rintro _ ⟨_, _, among, -⟩
          cases List.mem_singleton.mp among
        declared := by simp [registered?]
        again := fun final later _ => by
          have begun : final.loops id = true := later.loops id (by simp)
          have same : (fun other => id == other || final.loops other) = final.loops := by
            funext other
            by_cases own : id = other
            · simp [← own, begun]
            · simp [own]
          simp only [perform, same]
          rfl }
  | jump id =>
      simp only [perform] at performed
      split at performed
      · rename_i begun
        cases performed
        refine carried_of_same (by simp) (fun _ => rfl) fun final later => ?_
        simp only [perform, if_pos (later.loops id begun)]
      · cases performed
  | declare id => exact carried_of_declare performed

/-- The descriptor of a declaration is settled when its symbol is known. -/
theorem registered?_of_precedes {final : View}
    (known : ∀ id, step = .declare id → view.symbols[id]? ≠ none)
    (later : view.Precedes final) :
    step.registered? final.symbols = step.registered? view.symbols := by
  cases step with
  | declare id =>
      cases found : view.symbols[id]? with
      | none => exact absurd found (known id rfl)
      | some symbol => rw [registered?, registered?, found, later.symbols id symbol found]
  | _ => rfl

end LinkStep

/-! ## Runs -/

section Runs

variable {environment : Environment} {view next final : View} {steps : List LinkStep}

/-- What was known before some steps is known after them. -/
theorem precedes_of_perform (performed : perform environment steps view = .ok () next) :
    view.Precedes next := by
  induction steps generalizing view with
  | nil =>
      cases performed
      exact .refl _
  | cons step steps inductionHypothesis =>
      rcases perform_cons_ok_iff.mp performed with ⟨middle, first, rest⟩
      exact (LinkStep.carried_of_perform first).precedes.trans (inductionHypothesis rest)

/-- Steps leave symbols that they do not link as they are. -/
theorem symbols_of_perform (performed : perform environment steps view = .ok () next)
    {id : UInt64} (unused : ¬ Uses steps id) : next.symbols[id]? = view.symbols[id]? := by
  induction steps generalizing view with
  | nil =>
      cases performed
      rfl
  | cons step steps inductionHypothesis =>
      rcases perform_cons_ok_iff.mp performed with ⟨middle, first, rest⟩
      have after := inductionHypothesis rest fun uses =>
        unused (uses.mono (List.subset_cons_self ..))
      rw [after]
      exact (LinkStep.carried_of_perform first).symbols id fun uses =>
        unused (uses.mono (List.cons_subset_cons step (List.nil_subset steps)))

/-- Steps make the symbols known that they link. -/
theorem known_of_perform (performed : perform environment steps view = .ok () next)
    {id : UInt64} (uses : Uses steps id) : next.symbols[id]? ≠ none := by
  induction steps generalizing view with
  | nil =>
      rcases uses with ⟨_, _, among, _⟩
      cases among
  | cons step steps inductionHypothesis =>
      rcases perform_cons_ok_iff.mp performed with ⟨middle, first, rest⟩
      rcases uses with ⟨requirement, record, among, rfl⟩
      rcases List.mem_cons.mp among with rfl | among
      · have known := (LinkStep.carried_of_perform first).used _
          ⟨requirement, record, .head _, rfl⟩
        rcases Option.ne_none_iff_exists'.mp known with ⟨symbol, known⟩
        rw [(precedes_of_perform rest).symbols _ symbol known]
        exact Option.some_ne_none symbol
      · exact inductionHypothesis rest ⟨requirement, record, among, rfl⟩

/-- The symbol of every declaration that is made known is known by then. -/
def Settling (environment : Environment) (view : View) (steps : List LinkStep) : Prop :=
  ∀ before id middle, Reaches environment view steps before (.declare id) middle →
    middle.symbols[id]? ≠ none

theorem Announced.settling (announced : Announced steps) (view : View) :
    Settling environment view steps := by
  rintro before id middle ⟨runs, after, rfl⟩
  refine known_of_perform runs (announced before id after ?_)
  rw [List.append_assoc, List.singleton_append]

/-- The first step and those after it settle by themselves. -/
theorem Settling.of_cons {step : LinkStep} (settling : Settling environment view (step :: steps)) :
    (∀ id, step = .declare id → view.symbols[id]? ≠ none) ∧
      ∀ middle, step.perform environment view = .ok () middle →
        Settling environment middle steps :=
  ⟨fun id same => settling [] id view (reaches_cons_iff.mpr (.inl ⟨rfl, same.symm, rfl⟩)),
    fun middle performed before id last reaches =>
      settling _ id last (reaches_cons_iff.mpr (.inr ⟨middle, before, rfl, performed, reaches⟩))⟩

/-- The declarations that become known are those of the steps. -/
theorem declared_of_perform (performed : perform environment steps view = .ok () next)
    (settling : Settling environment view steps) (later : next.Precedes final)
    {id : DescriptorId} :
    next.declared id = true ↔ view.declared id = true ∨
      ∃ descriptor ∈ steps.filterMap (LinkStep.registered? final.symbols),
        descriptor.id = id := by
  induction steps generalizing view with
  | nil =>
      cases performed
      simp
  | cons step steps inductionHypothesis =>
      rcases perform_cons_ok_iff.mp performed with ⟨middle, first, rest⟩
      rcases settling.of_cons with ⟨known, settlingRest⟩
      have carried := LinkStep.carried_of_perform first
      have last := (carried.precedes.trans (precedes_of_perform rest)).trans later
      rw [inductionHypothesis rest (settlingRest middle first), carried.declared,
        ← LinkStep.registered?_of_precedes known last]
      cases registered : step.registered? final.symbols with
      | none => simp [registered]
      | some descriptor => simp [registered, or_assoc]

/-- Steps that were carried out change nothing when they are carried out again, and fail at
the first declaration that they make known. -/
theorem perform_again (performed : perform environment steps view = .ok () next)
    (settling : Settling environment view steps) (later : next.Precedes final) :
    perform environment steps final =
      LinkStep.again final (steps.filterMap (LinkStep.registered? final.symbols)) := by
  induction steps generalizing view with
  | nil => rfl
  | cons step steps inductionHypothesis =>
      rcases perform_cons_ok_iff.mp performed with ⟨middle, first, rest⟩
      rcases settling.of_cons with ⟨known, settlingRest⟩
      have again := (LinkStep.carried_of_perform first).again final
        ((precedes_of_perform rest).trans later) known
      rw [perform, again]
      cases registered : step.registered? final.symbols with
      | none =>
          rw [List.filterMap_cons_none registered]
          exact inductionHypothesis rest (settlingRest middle first)
      | some descriptor =>
          rw [List.filterMap_cons_some registered]
          rfl

end Runs

namespace Decode

variable {environment : Environment} {c : Category} {record : Record c} {context : Context c}
  {tree : Tree c.built} {state after : State}

/-! ## What linking a record does -/

/-- A record that was linked has had its steps carried out. -/
theorem performed_of_build (keyed : state.Keyed)
    (run : build record context environment state = .ok tree after) :
    perform environment (record.trace state.depth) state.view = .ok () after.view ∧
      Kept state after := by
  rcases (build_follows record context).ok keyed run with ⟨performed, kept, -⟩
  rw [List.flatMap_singleton] at performed
  exact ⟨performed, kept⟩

/-- The symbols that a record names are known when it was linked. -/
theorem known_of_build (keyed : state.Keyed)
    (run : build record context environment state = .ok tree after) {id : UInt64}
    (named : id ∈ record.symbolIds) : after.symbols[id]? ≠ none :=
  known_of_perform (performed_of_build keyed run).1 ((Record.mem_symbolIds_iff _).mp named)

/-- The symbols that a record does not name are left as they are. -/
theorem symbols_of_build (keyed : state.Keyed)
    (run : build record context environment state = .ok tree after) {id : UInt64}
    (unnamed : id ∉ record.symbolIds) : after.symbols[id]? = state.symbols[id]? :=
  symbols_of_perform (performed_of_build keyed run).1 fun uses =>
    unnamed ((Record.mem_symbolIds_iff _).mpr uses)

/-- The loops that a record does not name are left as they are. -/
theorem loops_of_build (keyed : state.Keyed)
    (run : build record context environment state = .ok tree after) {id : Int32}
    (unnamed : id ∉ record.loopIds) (free : state.loops.lookup? id = none) :
    after.loops.lookup? id = none := by
  have performed := (performed_of_build keyed run).1
  have begun :
      (perform environment (record.trace state.depth) state.view).view.loops id = true ↔ _ :=
    loops_perform_iff
  rw [performed, Outcome.view, State.view_loops, State.view_loops, free,
    exists_reaches_iff_mem performed] at begun
  cases found : after.loops.lookup? id with
  | none => rfl
  | some node =>
      rw [found] at begun
      have named := (begun.mp rfl).resolve_left Bool.false_ne_true
      exact absurd (Record.mem_loopIds_of_mem_trace named) unnamed

end Decode

end IrLink
