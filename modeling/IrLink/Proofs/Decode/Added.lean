import IrLink.Proofs.Decode.Begins
import IrLink.Proofs.Decode.Carried
import IrLink.Proofs.Decode.Completed

/-!
# What is added

Which keys of the maps of a session some records may add is said by what is inside them: the
symbols that they name, the loops that they begin, and the declarations that they give real
descriptors.  However linking ends, nothing else is added, and the declarations that are added
are complete (`Adds`); if it succeeds, all of this is added (`AddsAll`).  Both compose along
records that are linked one after the other, and hold of every record (`adds_of_build`,
`addsAll_of_build`).
-/

namespace IrLink

variable {environment : Environment} {state before middle after : State}
  {records others : List RecordNode}

/-! ## What records add -/

/-- One of some records names a symbol. -/
def NamedIn (records : List RecordNode) (id : UInt64) : Prop :=
  ∃ node ∈ records, node.record.Names id

/-- One of some records begins a loop. -/
def BegunIn (records : List RecordNode) (id : Int32) : Prop :=
  ∃ node ∈ records, node.record.Begins id

/-- One of some records declares something with a real descriptor of a given identity. -/
def DeclaredIn (records : List RecordNode) (state : State) (id : DescriptorId) : Prop :=
  ∃ node ∈ records, ∃ declared symbol, node.record.Declares declared ∧
    state.symbols[declared.uniqueId.index]? = some symbol ∧
    symbol.descriptor.isPlaceholder = false ∧ symbol.descriptor.id = id

/-- Between two states nothing was taken away and nothing was added that is not in the given
records, and the declarations that were added are complete. -/
structure Adds (environment : Environment) (records : List RecordNode) (before after : State) :
    Prop where
  precedes : before.Precedes after
  keyed : after.Keyed
  symbols : ∀ id, before.symbols[id]? = none → after.symbols[id]? ≠ none → NamedIn records id
  loops : ∀ id, before.loops.lookup? id = none → after.loops.lookup? id ≠ none →
    BegunIn records id
  declarations : ∀ id declaration, after.Registers id declaration →
    before.Registers id declaration ∨
      ∃ node ∈ records, Decode.Completed environment node.record before after id declaration

/-- Between two states everything in the given records was added. -/
structure AddsAll (records : List RecordNode) (before after : State) : Prop where
  symbols : ∀ id, NamedIn records id → after.symbols[id]? ≠ none
  loops : ∀ id, BegunIn records id → after.loops.lookup? id ≠ none
  declarations : ∀ id, DeclaredIn records after id ↔
    before.declarations[id]? = none ∧ after.declarations[id]? ≠ none

namespace State.Precedes

/-- A symbol that is known stays known. -/
theorem symbol_ne_none (precedes : before.Precedes after) {id : UInt64}
    (known : before.symbols[id]? ≠ none) : after.symbols[id]? ≠ none :=
  fun unknown => known (precedes.unknown unknown)

/-- A loop that is registered stays registered. -/
theorem loop_ne_none (precedes : before.Precedes after) {id : Int32}
    (registered : before.loops.lookup? id ≠ none) : after.loops.lookup? id ≠ none :=
  fun free => registered (precedes.unregistered free)

/-- A declaration that is known stays known. -/
theorem declaration_ne_none (precedes : before.Precedes after) {id : DescriptorId}
    (known : before.declarations[id]? ≠ none) : after.declarations[id]? ≠ none :=
  fun unknown => known (precedes.undeclared unknown)

end State.Precedes

section Append

theorem namedIn_append {id : UInt64} :
    NamedIn (records ++ others) id ↔ NamedIn records id ∨ NamedIn others id := by
  simp only [NamedIn, List.mem_append, or_and_right, exists_or]

theorem begunIn_append {id : Int32} :
    BegunIn (records ++ others) id ↔ BegunIn records id ∨ BegunIn others id := by
  simp only [BegunIn, List.mem_append, or_and_right, exists_or]

theorem declaredIn_append {id : DescriptorId} :
    DeclaredIn (records ++ others) state id ↔
      DeclaredIn records state id ∨ DeclaredIn others state id := by
  simp only [DeclaredIn, List.mem_append, or_and_right, exists_or]

/-- The descriptors of declarations are settled when the symbols in the records are known. -/
theorem declaredIn_of_precedes (precedes : before.Precedes after)
    (known : ∀ id, NamedIn records id → before.symbols[id]? ≠ none) {id : DescriptorId} :
    DeclaredIn records after id ↔ DeclaredIn records before id := by
  constructor
  · rintro ⟨node, among, declared, symbol, declares, found, real, same⟩
    have early := known _ ⟨node, among, Record.names_of_declares declares⟩
    rcases Option.ne_none_iff_exists'.mp early with ⟨other, early⟩
    cases (precedes.symbols _ other early).symm.trans found
    exact ⟨node, among, declared, _, declares, early, real, same⟩
  · rintro ⟨node, among, declared, symbol, declares, found, real, same⟩
    exact ⟨node, among, declared, symbol, declares, precedes.symbols _ symbol found, real, same⟩

theorem Adds.nil (keyed : state.Keyed) : Adds environment [] state state where
  precedes := .refl state
  keyed := keyed
  symbols := fun _ unknown known => absurd unknown known
  loops := fun _ free registered => absurd free registered
  declarations := fun _ _ => .inl

theorem AddsAll.nil : AddsAll [] state state where
  symbols := fun _ ⟨_, among, _⟩ => nomatch among
  loops := fun _ ⟨_, among, _⟩ => nomatch among
  declarations := fun _ => by
    constructor
    · rintro ⟨_, ⟨⟩, _⟩
    · rintro ⟨unknown, known⟩
      exact absurd unknown known

theorem Adds.append (first : Adds environment records before middle)
    (second : Adds environment others middle after) :
    Adds environment (records ++ others) before after where
  precedes := first.precedes.trans second.precedes
  keyed := second.keyed
  symbols := fun id unknown known => by
    rw [namedIn_append]
    by_cases new : middle.symbols[id]? = none
    · exact .inr (second.symbols id new known)
    · exact .inl (first.symbols id unknown new)
  loops := fun id free registered => by
    rw [begunIn_append]
    by_cases new : middle.loops.lookup? id = none
    · exact .inr (second.loops id new registered)
    · exact .inl (first.loops id free new)
  declarations := fun id declaration registered => by
    rcases second.declarations id declaration registered with
      registered | ⟨node, among, completed⟩
    · refine (first.declarations id declaration registered).imp_right ?_
      rintro ⟨node, among, completed⟩
      exact ⟨node, List.mem_append_left _ among,
        completed.mono (.refl before) second.precedes⟩
    · exact .inr ⟨node, List.mem_append_right _ among,
        completed.mono first.precedes (.refl after)⟩

theorem AddsAll.append (first : AddsAll records before middle)
    (second : AddsAll others middle after) (early : before.Precedes middle)
    (late : middle.Precedes after) : AddsAll (records ++ others) before after where
  symbols := fun id named => by
    rcases namedIn_append.mp named with named | named
    · exact late.symbol_ne_none (first.symbols id named)
    · exact second.symbols id named
  loops := fun id begun => by
    rcases begunIn_append.mp begun with begun | begun
    · exact late.loop_ne_none (first.loops id begun)
    · exact second.loops id begun
  declarations := fun id => by
    rw [declaredIn_append, declaredIn_of_precedes late first.symbols, first.declarations,
      second.declarations]
    constructor
    · rintro (⟨unknown, known⟩ | ⟨unknown, known⟩)
      · exact ⟨unknown, late.declaration_ne_none known⟩
      · exact ⟨early.undeclared unknown, known⟩
    · rintro ⟨unknown, known⟩
      by_cases new : middle.declarations[id]? = none
      · exact .inr ⟨new, known⟩
      · exact .inl ⟨unknown, new⟩

end Append

/-! ## Steps -/

section Steps

variable {view : View} {steps : List LinkStep} {id : UInt64}

/-- A step leaves symbols that it does not link as they are, however it ends. -/
theorem LinkStep.symbols_perform {step : LinkStep} (unused : ¬ Uses [step] id) :
    (step.perform environment view).view.symbols[id]? = view.symbols[id]? := by
  cases step with
  | use requirement record =>
      have different : id ≠ record.uniqueId.index := fun same =>
        unused ⟨requirement, record, .head _, same.symm⟩
      rcases Decode.symbolFor_links requirement record environment view.symbols with
        ⟨outcome, after, links⟩
      have kept : after[id]? = view.symbols[id]? := links.others different
      rw [perform, links.runs view.state rfl]
      cases outcome <;> exact kept
  | _ =>
      rw [perform]
      repeat' split
      all_goals rfl

/-- Steps leave symbols that they do not link as they are, however they end. -/
theorem symbols_view_perform (unused : ¬ Uses steps id) :
    (perform environment steps view).view.symbols[id]? = view.symbols[id]? := by
  induction steps generalizing view with
  | nil => rfl
  | cons step steps inductionHypothesis =>
      have own : (step.perform environment view).view.symbols[id]? = view.symbols[id]? :=
        LinkStep.symbols_perform fun uses =>
          unused (uses.mono (List.cons_subset_cons step (List.nil_subset steps)))
      rw [perform]
      cases performed : step.perform environment view with
      | ok _ middle =>
          rw [performed] at own
          exact (inductionHypothesis fun uses =>
            unused (uses.mono (List.subset_cons_self step steps))).trans own
      | error error middle =>
          rw [performed] at own
          exact own

/-- A declaration that steps have made known was unknown before them. -/
theorem undeclared_of_perform {next final : View}
    (performed : perform environment steps view = .ok () next)
    (settling : Settling environment view steps) (later : next.Precedes final)
    {descriptor : Descriptor}
    (among : descriptor ∈ steps.filterMap (LinkStep.registered? final.symbols)) :
    view.declared descriptor.id = false := by
  induction steps generalizing view with
  | nil => cases among
  | cons step steps inductionHypothesis =>
      rcases perform_cons_ok_iff.mp performed with ⟨middle, first, rest⟩
      rcases settling.of_cons with ⟨known, settlingRest⟩
      have precedes := (LinkStep.carried_of_perform first).precedes
      have last := (precedes.trans (precedes_of_perform rest)).trans later
      rcases List.mem_filterMap.mp among with ⟨other, isStep, registered⟩
      rcases List.mem_cons.mp isStep with rfl | isStep
      · -- A second declaration would have failed.
        rw [LinkStep.registered?_of_precedes known last] at registered
        cases other with
        | declare id =>
            rcases Option.bind_eq_some_iff.mp registered with ⟨symbol, found, described⟩
            split at described
            · cases described
            · rename_i real
              cases described
              simp only [LinkStep.perform, found, if_neg real] at first
              split at first
              · cases first
              · rename_i free
                exact Bool.eq_false_iff.mpr free
        | _ => cases registered
      · have free := inductionHypothesis rest (settlingRest middle first)
          (List.mem_filterMap.mpr ⟨other, isStep, registered⟩)
        rw [← Bool.not_eq_true] at free ⊢
        exact fun known => free (precedes.declared _ known)

end Steps

/-! ## Records -/

/-- The view of a state knows the declarations that are known in it. -/
theorem State.view_declared {id : DescriptorId} :
    state.view.declared id = true ↔ state.declarations[id]? ≠ none := by
  rw [← Option.isSome_iff_ne_none]
  exact iff_of_eq (congrArg (· = true) Std.TreeMap.contains_eq_isSome_getElem?)

theorem namedIn_singleton {c : Category} {record : Record c} {id : UInt64} :
    NamedIn [⟨record⟩] id ↔ record.Names id := by
  simp only [NamedIn, List.mem_singleton, exists_eq_left]

theorem begunIn_singleton {c : Category} {record : Record c} {id : Int32} :
    BegunIn [⟨record⟩] id ↔ record.Begins id := by
  simp only [BegunIn, List.mem_singleton, exists_eq_left]

/-- What a record declares is what linking it makes known. -/
theorem declaredIn_singleton {c : Category} {record : Record c} (depth : Nat)
    {id : DescriptorId} :
    DeclaredIn [⟨record⟩] state id ↔
      ∃ descriptor ∈ (record.trace depth).filterMap (LinkStep.registered? state.symbols),
        descriptor.id = id := by
  constructor
  · rintro ⟨_, among, declared, symbol, declares, found, real, rfl⟩
    cases List.mem_singleton.mp among
    have step := (Record.declares_iff depth).mp ⟨declared, declares, rfl⟩
    refine ⟨symbol.descriptor, List.mem_filterMap.mpr ⟨_, step, ?_⟩, rfl⟩
    simp [LinkStep.registered?, found, real]
  · rintro ⟨descriptor, among, rfl⟩
    rcases List.mem_filterMap.mp among with ⟨step, isStep, registered⟩
    cases step with
    | declare index =>
        rcases (Record.declares_iff depth).mpr isStep with ⟨declared, declares, rfl⟩
        rcases Option.bind_eq_some_iff.mp registered with ⟨symbol, found, described⟩
        split at described
        · cases described
        · rename_i real
          cases described
          exact ⟨_, .head _, declared, symbol, declares, found, Bool.eq_false_iff.mpr real, rfl⟩
    | _ => cases registered

namespace Decode

variable {c : Category} {record : Record c} {context : Context c}

/-- What linking a record adds, however it ends. -/
theorem adds_of_build (record : Record c) (context : Context c) (keyed : state.Keyed) :
    Adds environment [⟨record⟩] state (finalState (build record context environment state)) := by
  have follows : Follows environment state (build record context) [.part record] _ :=
    build_follows record context
  have view := follows.view_finalState keyed
  rw [List.flatMap_singleton] at view
  have completes : Completes environment record state _ := build_completing record context state
  exact {
    precedes := completes.precedes
    keyed := (follows.kept keyed).keyed
    symbols := fun id unknown known => by
      refine ⟨⟨record⟩, .head _, (Record.names_iff state.depth).mpr ?_⟩
      by_contra unused
      have same : (finalState (build record context environment state)).view.symbols[id]? =
          state.view.symbols[id]? := by
        rw [view]
        exact symbols_view_perform unused
      exact known (same.trans unknown)
    loops := fun id free registered => by
      refine ⟨⟨record⟩, .head _, (Record.begins_iff state.depth).mpr ?_⟩
      have begun : (finalState (build record context environment state)).view.loops id = true := by
        rw [State.view_loops]
        exact Option.isSome_iff_ne_none.mpr registered
      rw [view] at begun
      rcases loops_perform_iff.mp begun with old | ⟨before, next, reaches⟩
      · rw [State.view_loops, free] at old
        cases old
      · exact reaches.among.subset (List.mem_append_right before (List.mem_singleton_self _))
    declarations := fun id declaration registered =>
      (completes.completed id declaration registered).imp_right fun completed =>
        ⟨⟨record⟩, .head _, completed⟩ }

/-- What linking a record adds when it succeeds. -/
theorem addsAll_of_build {tree : Tree c.built} (keyed : state.Keyed)
    (run : build record context environment state = .ok tree after) :
    AddsAll [⟨record⟩] state after := by
  have performed := (performed_of_build keyed run).1
  have settling : Settling environment state.view (record.trace state.depth) :=
    (record.announced_trace state.depth).settling state.view
  have last : after.view.Precedes after.view := .refl _
  exact {
    symbols := fun id named =>
      known_of_perform performed ((Record.names_iff _).mp (namedIn_singleton.mp named))
    loops := fun id begun => by
      have among := (Record.begins_iff state.depth).mp (begunIn_singleton.mp begun)
      have reached := (exists_reaches_iff_mem performed).mpr among
      have begun : (perform environment _ state.view).view.loops id = true :=
        loops_perform_iff.mpr (.inr reached)
      rw [performed] at begun
      have registered : (after.loops.lookup? id).isSome = true := by
        rw [← State.view_loops]
        exact begun
      exact Option.isSome_iff_ne_none.mp registered
    declarations := fun id => by
      rw [declaredIn_singleton state.depth, ← State.view_declared]
      have declared : after.view.declared id = true ↔ _ :=
        declared_of_perform performed settling last
      constructor
      · rintro ⟨descriptor, among, rfl⟩
        refine ⟨?_, declared.mpr (.inr ⟨descriptor, among, rfl⟩)⟩
        have free := undeclared_of_perform performed settling last among
        rw [← Bool.not_eq_true, State.view_declared, not_not] at free
        exact free
      · rintro ⟨unknown, known⟩
        refine (declared.mp known).resolve_left fun old => ?_
        exact State.view_declared.mp old unknown }

end Decode

end IrLink
