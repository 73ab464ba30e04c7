import IrLink.Proofs.Decode.History
import IrLink.Proofs.Decode.Linkable
import IrLink.Proofs.Decode.Mirrored

/-!
# Only the first reference counts

A reference is looked up when a symbol is made, by the first record that names the symbol.
So a session behaves the same over two universes, and for two records that differ only in
references of symbols that it knows already, if the universes agree on all other references
of the records (`Decode.build_of_references`).
-/

namespace IrLink

/-- The record of a symbol, without the reference if the symbol is known. -/
def SymbolRecord.withoutReference (known : UInt64 → Bool) (record : SymbolRecord) :
    SymbolRecord :=
  if known record.uniqueId.index then { record with reference := none } else record

/-- A record without the references of known symbols. -/
def Record.withoutReferences {c : Category} (known : UInt64 → Bool) (record : Record c) :
    Record c :=
  record.mapSymbols (SymbolRecord.withoutReference known)

/-- Whether a session knows the symbol with an identifier. -/
def State.knowsId (state : State) (id : UInt64) : Bool :=
  (state.cachedSymbol? id).isSome

/-- Two universes give the same result for the reference of a record. -/
def SymbolRecord.MeansSame (world other : Universe) (record : SymbolRecord) : Prop :=
  ∀ reference, record.reference = some reference →
    world.resolve? reference = other.resolve? reference

namespace SymbolRecord

variable {known : UInt64 → Bool} {record : SymbolRecord}

theorem withoutReference_kind : (record.withoutReference known).kind = record.kind := by
  unfold withoutReference
  split <;> rfl

theorem withoutReference_uniqueId :
    (record.withoutReference known).uniqueId = record.uniqueId := by
  unfold withoutReference
  split <;> rfl

/-- The record of an unknown symbol keeps its reference. -/
theorem withoutReference_of_unknown (unknown : known record.uniqueId.index = false) :
    record.withoutReference known = record :=
  if_neg (Bool.eq_false_iff.mp unknown)

end SymbolRecord

/-- The symbols that a step links are known before, or both universes give the same result
for their references. -/
def LinkStep.MeansSame (world other : Universe) (known : UInt64 → Bool) : LinkStep → Prop
  | .use _ record => known record.uniqueId.index = false → record.MeansSame world other
  | _ => True

namespace Decode

variable {α β : Type} {world other : Universe} {settings : Settings} {start state : State}

/-! ## Two universes -/

/-- A result with another value. -/
def changed (change : α → β) :
    EStateM.Result DecodeError State α → EStateM.Result DecodeError State β
  | .ok result state => .ok (change result) state
  | .error error state => .error error state

theorem changed_id (result : EStateM.Result DecodeError State α) : changed id result = result := by
  cases result <;> rfl

/-- From the states after a start, a computation over one universe does what its image does
over another one, up to the change of its result, if the universes agree on what is linked
first. -/
def SameOver (world other : Universe) (settings : Settings) (start : State)
    {α : Type} (items : List Item) (computation image : Decode α) (change : α → α) : Prop :=
  (∀ step ∈ items.flatMap Item.actions, step.MeansSame world other start.knowsId) →
    ∀ state : State, state.Extends start →
      image ⟨other, settings⟩ state = changed change (computation ⟨world, settings⟩ state) ∧
        (finalState (computation ⟨world, settings⟩ state)).Extends start

namespace SameOver

variable {items others : List Item} {computation image : Decode α}
  {rest imageRest : α → Decode β} {change : α → α} {last : β → β}

/-- A computation that does not look at the universe and changes no symbols. -/
theorem indifferent
    (same : ∀ state, image ⟨other, settings⟩ state =
      changed change (computation ⟨world, settings⟩ state))
    (extends_start : ∀ state : State, state.Extends start →
      (finalState (computation ⟨world, settings⟩ state)).Extends start) :
    SameOver world other settings start items computation image change :=
  fun _ state later => ⟨same state, extends_start state later⟩

theorem append (first : SameOver world other settings start items computation image change)
    (second : ∀ result, SameOver world other settings start others (rest result)
      (imageRest (change result)) last) :
    SameOver world other settings start (items ++ others) (computation >>= rest)
      (image >>= imageRest) last := by
  intro agree state later
  rw [List.flatMap_append, List.forall_mem_append] at agree
  have head := first agree.1 state later
  cases run : computation ⟨world, settings⟩ state with
  | ok result middle =>
      rw [run] at head
      rw [bind_of_ok head.1, bind_of_ok run]
      exact second result agree.2 middle head.2
  | error error middle =>
      rw [run] at head
      rw [bind_of_error head.1, bind_of_error run]
      exact ⟨rfl, head.2⟩

theorem descend (inside : SameOver world other settings start items computation image change) :
    SameOver world other settings start items (descend computation) (descend image)
      change := by
  intro agree state later
  have head := inside agree { state with depth := state.depth + 1 } later
  unfold Decode.descend
  by_cases deep : settings.maxDepth ≤ state.depth
  · rw [if_pos deep, if_pos deep]
    exact ⟨rfl, later⟩
  · rw [if_neg deep, if_neg deep, head.1]
    cases run : computation ⟨world, settings⟩ { state with depth := state.depth + 1 } with
    | ok result middle =>
        rw [run] at head
        exact ⟨rfl, head.2⟩
    | error error middle =>
        rw [run] at head
        exact ⟨rfl, head.2⟩

/-- A symbol that is known from the start is found whatever its record refers to, and the
reference of any other is left as it is. -/
theorem symbol (requirement : Requirement) (record : SymbolRecord) :
    SameOver world other settings start [.use requirement record]
      (symbolFor requirement record)
      (symbolFor requirement (record.withoutReference start.knowsId)) id := by
  intro agree state later
  constructor
  · rw [changed_id]
    refine symbolFor_congr requirement rfl SymbolRecord.withoutReference_kind
      SymbolRecord.withoutReference_uniqueId fun unknown => ?_
    have unknownBefore : start.knowsId record.uniqueId.index = false := by
      cases known : start.cachedSymbol? record.uniqueId.index with
      | some symbol => cases unknown.symm.trans (later _ _ known)
      | none => simp [State.knowsId, known]
    refine ⟨congrArg SymbolRecord.reference
      (SymbolRecord.withoutReference_of_unknown unknownBefore), fun reference named => ?_⟩
    exact (agree (.use requirement record) (.head _) unknownBefore reference named).symm
  · rcases symbolFor_links requirement record ⟨world, settings⟩ state.symbols with
      ⟨outcome, after, links⟩
    rw [links.runs state rfl]
    cases outcome <;> exact links.extends.trans later

/-! ### Loops and declarations -/

theorem jump (id : Int32) (label : Option String) :
    SameOver world other settings start items (jumpTo id label) (jumpTo id label)
      (Jump.rename .same) := by
  refine indifferent (fun state => ?_) fun state later => ?_
  · exact (@jumpTo_congr state ⟨world, settings⟩ ⟨other, settings⟩ id label).trans
      (changed_id _).symm
  · rw [finalState_jumpTo]
    exact later

theorem register (declaration : Tree .declaration) :
    SameOver world other settings start items (registerDeclaration declaration)
      (registerDeclaration (declaration.rename .same)) id := by
  refine indifferent (fun state => ?_) fun state later => ?_
  · rw [changed_id, Tree.rename_same]
    exact registerDeclaration_congr declaration
  · rcases registerDeclaration_cases ⟨world, settings⟩ state declaration with
      ⟨_, run⟩ | ⟨_, run⟩ | ⟨_, _, _, run⟩ <;> rw [run] <;> exact later

theorem looping (shell : LoopNode) {inside image : Decode LoopContents}
    (contents : SameOver world other settings start items inside image
      (LoopContents.rename .same)) :
    SameOver world other settings start (.step (.beginLoop shell.id) :: items)
      (looping shell inside) (looping (shell.rename .same) image)
      fun filled => (filled.1, filled.2.rename .same) := by
  intro agree state later
  rw [List.flatMap_cons, List.forall_mem_append] at agree
  have head := contents agree.2 (state.begun shell) later
  rw [LoopNode.rename_same]
  cases run : inside ⟨world, settings⟩ (state.begun shell) with
  | ok contents middle =>
      rw [run] at head
      rw [looping_of_ok run, looping_of_ok head.1, LoopContents.rename_same]
      refine ⟨?_, head.2⟩
      rw [changed, LoopContents.rename_same]
  | error error middle =>
      rw [run] at head
      rw [looping_of_error run, looping_of_error head.1]
      exact ⟨rfl, head.2⟩

end SameOver

/-- Linking goes by these rules. -/
theorem sameOver_mirrors :
    Mirrors .same (SymbolRecord.withoutReference start.knowsId)
      fun items computation image change =>
        SameOver world other settings start items computation image change where
  pure := fun _ _ _ => .indifferent (fun _ => rfl) fun _ later => later
  fail := fun _ _ _ => .indifferent (fun _ => rfl) fun _ later => later
  append := .append
  layout := fun {_ _ record _ _ _} inside agree =>
    inside (record.flatMap_actions_part ▸ agree)
  descend := .descend
  builtin := fun _ _ => rfl
  symbol := .symbol
  jump := fun id label => .jump id label
  loop := fun shell _ => .looping shell
  node := .indifferent (fun _ => rfl) fun _ later => later
  register := fun _ => .register

/-! ## Records -/

variable {c : Category} {record altered : Record c}

/-- A record over one universe does what it does without the references of known symbols
over another one, if the universes agree on the other references. -/
theorem build_withoutReferences (context : Context c)
    (agree : ∀ symbol ∈ record.symbolRecords,
      state.knowsId symbol.uniqueId.index = false → symbol.MeansSame world other) :
    build (record.withoutReferences state.knowsId) context ⟨other, settings⟩ state =
      build record context ⟨world, settings⟩ state := by
  have mirrored : SameOver world other settings state [.part record] (build record context)
      (build (record.withoutReferences state.knowsId) (context.rename .same))
      (Tree.rename .same) :=
    build_mirrored sameOver_mirrors record context
  rw [context.rename_same, funext Tree.rename_same] at mirrored
  refine (mirrored (fun step among => ?_) state (.refl state)).1.trans (changed_id _)
  cases step with
  | use requirement symbol =>
      refine agree symbol (List.mem_filterMap.mpr ⟨.use requirement symbol, ?_, rfl⟩)
      rwa [List.flatMap_singleton] at among
  | _ => trivial

/-- A record over one universe does what another record does over another universe, if
they differ only in references of known symbols, and the universes agree on the other
references. -/
theorem build_of_references (context : Context c)
    (same : record.withoutReferences state.knowsId = altered.withoutReferences state.knowsId)
    (agree : ∀ symbol ∈ record.symbolRecords,
      state.knowsId symbol.uniqueId.index = false → symbol.MeansSame world other) :
    build altered context ⟨other, settings⟩ state =
      build record context ⟨world, settings⟩ state := by
  have cut : build (altered.withoutReferences state.knowsId) context ⟨other, settings⟩ state =
      build altered context ⟨other, settings⟩ state :=
    build_withoutReferences context fun _ _ _ _ _ => rfl
  rw [← cut, ← same]
  exact build_withoutReferences context agree

/-- Built-ins are known in every reachable state. -/
theorem knowsId_of_isBuiltin {environment : Environment} (reachable : Reachable environment state)
    {id : UInt64} (builtin : IsBuiltin id) : state.knowsId id = true := by
  rcases builtin with ⟨builtin, among, rfl⟩
  have known : state.cachedSymbol? builtin.symbol.id = some builtin.symbol :=
    reachable.settled.sound.builtins builtin among
  rw [State.knowsId, known]
  rfl

/-- Only the first reference of an identifier counts.  Take two sessions in one state that
differ in their universe, and two records that differ only in references of symbols that
are known in this state.  If the universes give the same results for the references of all
other symbols, then linking the records ends in the same way and in the same state.  The
symbols of built-ins are known in every reachable state, so a record in which only
built-ins have references does the same over all universes. -/
theorem only_first_reference :
    (∀ (world other : Universe) (settings : Settings) (state : State) {c : Category}
      (record altered : Record c) (context : Context c),
      record.withoutReferences state.knowsId = altered.withoutReferences state.knowsId →
      (∀ symbol ∈ record.symbolRecords, state.knowsId symbol.uniqueId.index = false →
        symbol.MeansSame world other) →
      build altered context ⟨other, settings⟩ state =
        build record context ⟨world, settings⟩ state) ∧
    (∀ (environment : Environment) (state : State), Reachable environment state →
      (∀ id, IsBuiltin id → state.knowsId id = true) ∧
      ∀ {c : Category} (record : Record c) (context : Context c),
        (∀ symbol ∈ record.symbolRecords, symbol.reference ≠ none →
          IsBuiltin symbol.uniqueId.index) →
        ∀ (world other : Universe) (settings : Settings),
          build record context ⟨other, settings⟩ state =
            build record context ⟨world, settings⟩ state) := by
  refine ⟨fun _ _ _ _ _ _ _ context same agree => build_of_references context same agree,
    fun environment state reachable => ⟨fun _ => knowsId_of_isBuiltin reachable, ?_⟩⟩
  intro c record context builtins world other settings
  refine build_of_references context rfl fun symbol among unknown reference named => ?_
  have referred : symbol.reference ≠ none := by
    rw [named]
    exact Option.some_ne_none reference
  cases unknown.symm.trans (knowsId_of_isBuiltin reachable (builtins symbol among referred))

end Decode

/-- A built-in type, recorded with a reference or none. -/
def Record.unitType (reference : Option DescriptorReference) : Record .type :=
  .simpleType .nil .invariant ⟨.symbol .klass, ⟨2, false⟩, reference⟩ false .nil

/-- A reference to a class that no universe has to know. -/
def DescriptorReference.elsewhere : DescriptorReference :=
  ⟨"elsewhere", "Missing", "Missing", ⟨1000, false⟩, false, false, false, false, false, false⟩

/-- A reference that means nothing does no harm on a built-in. -/
theorem Decode.only_first_reference_unitType :
    (∃ tree after, build (Record.unitType (some .elsewhere)) ()
      ⟨⟨"", .empty, [], []⟩, {}⟩ .initial = .ok tree after) ∧
    build (Record.unitType none) () ⟨⟨"other", .empty, [], []⟩, {}⟩ .initial =
      build (Record.unitType (some .elsewhere)) () ⟨⟨"", .empty, [], []⟩, {}⟩ .initial ∧
    build (Record.unitType (some .elsewhere)) () ⟨⟨"other", .empty, [], []⟩, {}⟩ .initial =
      build (Record.unitType (some .elsewhere)) () ⟨⟨"", .empty, [], []⟩, {}⟩ .initial := by
  have named (reference : Option DescriptorReference) :
      (Record.unitType reference).symbolRecords =
        [⟨.symbol .klass, ⟨2, false⟩, reference⟩] := by
    simp [Record.unitType, Record.symbolRecords, Record.actions_eq, Record.layout, Item.actions,
      Item.use, LinkStep.used?]
  have known : State.initial.knowsId 2 = true := by decide
  refine ⟨⟨_, _, rfl⟩, ?_, ?_⟩
  · refine only_first_reference.1 ⟨"", .empty, [], []⟩ ⟨"other", .empty, [], []⟩ {} .initial
      (Record.unitType (some .elsewhere)) (Record.unitType none) () rfl
      fun symbol among unknown => ?_
    rw [named, List.mem_singleton] at among
    subst among
    cases unknown.symm.trans known
  · refine (only_first_reference.2 ⟨⟨"", .empty, [], []⟩, {}⟩ .initial .start).2
      (Record.unitType (some .elsewhere)) () (fun symbol among _ => ?_) _ _ {}
    rw [named, List.mem_singleton] at among
    subst among
    exact ⟨Builtin.all[2], List.getElem_mem _, rfl⟩

end IrLink
