import IrLink.Proofs.Decode.Linkable

/-!
# Which records are accepted

Only grammatical records are linked, whatever state the session is in.  A
record without references is linked in a fresh session under conditions on the
record alone: besides being grammatical, its jumps are in scope
(`Record.JumpsInScope`), its nesting is within the limit, the kinds of its
symbols agree (`Record.KindsAgree`), and it declares no built-in.
-/

namespace IrLink

variable {environment : Environment} {view next : View} {step : LinkStep}
  {steps : List LinkStep}

/-! ## Own failures -/

/-- A step that was carried out does not fail by itself. -/
theorem LinkStep.acceptable_of_perform
    (performed : step.perform environment view = .ok () next) : step.Acceptable := by
  cases step with
  | fail error => cases performed
  | use requirement record =>
      rcases perform_use.mp performed with ⟨symbol, after, linked, _⟩
      rcases Decode.bind_ok_iff.mp (Decode.symbolFor_ok_iff.mp linked).1 with
        ⟨kind, _, recorded, _⟩
      have named := (Decode.recordedKind_ok_iff.mp recorded).1
      intro returnable
      cases named.symm.trans returnable
  | enter depth => trivial
  | beginLoop id => trivial
  | jump id => trivial
  | declare id => trivial

/-- Steps that were carried out do not fail by themselves. -/
theorem acceptable_of_perform (performed : perform environment steps view = .ok () next) :
    ∀ step ∈ steps, step.Acceptable := by
  induction steps generalizing view with
  | nil => simp
  | cons step steps inductionHypothesis =>
      rw [perform] at performed
      cases first : step.perform environment view with
      | ok _ middle =>
          rw [first] at performed
          exact List.forall_mem_cons.mpr
            ⟨LinkStep.acceptable_of_perform first, inductionHypothesis performed⟩
      | error error middle =>
          rw [first] at performed
          cases performed

/-- A record can be linked if and only if its steps can be carried out. -/
theorem Decode.build_ok_iff {c : Category} {record : Record c} {context : Context c}
    {state : State} (keyed : state.Keyed) :
    (∃ tree after, build record context environment state = .ok tree after) ↔
      ∃ next, perform environment (record.trace state.depth) state.view = .ok () next := by
  have follows : Follows environment state (build record context) [.part record]
      (Built record context) :=
    build_follows record context
  have traced : [Item.part record].flatMap (Item.trace state.depth) =
      record.trace state.depth :=
    List.append_nil _
  constructor
  · rintro ⟨tree, after, ends⟩
    exact ⟨after.view, traced ▸ (follows.ok keyed ends).1⟩
  · rintro ⟨next, performed⟩
    cases ends : build record context environment state with
    | ok tree after => exact ⟨tree, after, rfl⟩
    | error error after =>
        have failed := (follows.error keyed ends).1
        rw [traced, performed] at failed
        cases failed

/-! ## Conditions on records -/

namespace Record

variable {c : Category}

/-- Every jump comes, in the order of linking, after the beginning of a loop with
its identifier. -/
def JumpsInScope (record : Record c) : Prop :=
  ∀ (before : List LinkStep) (id : Int32) (after : List LinkStep),
    record.trace 0 = before ++ .jump id :: after → .beginLoop id ∈ before

/-- There is one kind to each identifier of a symbol, that of the built-in if it
has one.  It is what all records of the symbol have, and what all its places
take. -/
def KindsAgree (record : Record c) : Prop :=
  ∃ kindOf, (∀ builtin ∈ Builtin.all, builtin.symbol.kind = kindOf builtin.symbol.id) ∧
    KindsFit kindOf (record.trace 0)

/-- No declaration that is made known is that of a built-in. -/
def DeclaresNoBuiltin (record : Record c) : Prop :=
  ∀ id, .declare id ∈ record.trace 0 → ¬ IsBuiltin id

/-- In a fresh session no loop has begun. -/
theorem jumpsInScope_iff (record : Record c) :
    record.JumpsInScope ↔ Scoped State.initial.view.loops (record.trace 0) := by
  have unbegun : ∀ id, State.initial.view.loops id = false := fun id => by
    simp [State.view, State.initial, LoopTable.empty]
  simp [JumpsInScope, Scoped, unbegun]

/-- In a fresh session the symbols of built-ins are known. -/
theorem kindsAgree_iff (record : Record c) :
    record.KindsAgree ↔
      ∃ kindOf, State.initial.view.Agrees kindOf ∧ KindsFit kindOf (record.trace 0) := by
  refine exists_congr fun kindOf => and_congr_left fun _ => ?_
  refine ⟨fun builtins => ?_, fun agrees => ?_⟩
  · intro id symbol known
    rcases State.builtin_of_initial known with ⟨builtin, among, rfl, rfl⟩
    exact builtins builtin among
  · intro builtin among
    exact agrees _ _ (State.initial_plain.builtin builtin among).1

/-- The steps of a record can be carried out in a fresh session if the record
meets all conditions. -/
theorem linkable_initial_iff (record : Record c) :
    Linkable environment State.initial.view (record.trace 0) ↔
      record.Grammatical ∧ record.JumpsInScope ∧
        record.nesting ≤ environment.settings.maxDepth ∧
        (environment.settings.checkSymbolKinds = true → record.KindsAgree) ∧
        record.DeclaresNoBuiltin := by
  have nests : (∀ step ∈ record.trace 0, step.Shallow environment.settings.maxDepth) ↔
      record.nesting ≤ environment.settings.maxDepth := by
    rw [shallow_iff]
    omega
  rw [grammatical_iff record 0, jumpsInScope_iff, kindsAgree_iff, ← nests]
  constructor
  · intro linkable
    exact ⟨linkable.acceptable, linkable.inScope, linkable.shallow, linkable.kinds,
      linkable.declared⟩
  · rintro ⟨acceptable, inScope, shallow, kinds, declared⟩
    exact ⟨acceptable, inScope, shallow, kinds, declared⟩

end Record

/-- The decoder accepts exactly its grammar.  In a reachable state only
grammatical records are linked.  In a fresh session, and where no symbol is
recorded with a reference, a declaration is linked if and only if it is
grammatical, its jumps are in scope, it is not nested too deep, the kinds of its
symbols agree if they are checked, and it declares no built-in. -/
theorem Decode.accepts_grammar :
    (∀ (environment : Environment) (state : State), Reachable environment state →
      ∀ {c : Category} (record : Record c) (context : Context c) (tree : Tree c.built)
        (after : State), build record context environment state = .ok tree after →
          record.Grammatical) ∧
    (∀ (world : Universe) (settings : Settings) (record : Record .declaration)
      (parent : Parent), Unreferenced (record.trace 0) →
        ((∃ tree after,
            buildDeclaration record parent ⟨world, settings⟩ .initial = .ok tree after) ↔
          record.Grammatical ∧ record.JumpsInScope ∧ record.nesting ≤ settings.maxDepth ∧
            (settings.checkSymbolKinds = true → record.KindsAgree) ∧
            record.DeclaresNoBuiltin)) := by
  constructor
  · intro environment state reachable c record context tree after ends
    rcases (build_ok_iff reachable.keyed).mp ⟨tree, after, ends⟩ with ⟨next, performed⟩
    exact (record.grammatical_iff state.depth).mpr (acceptable_of_perform performed)
  · intro world settings record parent unreferenced
    exact (build_ok_iff State.initial_keyed).trans
      ((perform_ok_iff State.initial_plain unreferenced).trans record.linkable_initial_iff)

namespace Record

/-- A type that asks for no symbol. -/
def anyType : Record .type :=
  .dynamicType .nil .invariant

/-- A variable that begins with the value of a loop which is left at once. -/
def leftLoop : Record .declaration :=
  .declarationNode .zero "DEFINED" .nil "" <|
    .variableDeclarator ⟨.symbol .localVariable, ⟨1000, false⟩, .none⟩ "x" anyType
      ⟨false, false, false⟩ <| .some <|
        .expressionNode .zero anyType <|
          .loop .whileTrue 7 .none
            (.expressionNode .zero anyType (.breakLoop 7 .none)) .none

end Record

theorem Decode.accepts_grammar_leftLoop :
    (∃ tree after,
      buildDeclaration Record.leftLoop .none ⟨⟨"", .empty, [], []⟩, {}⟩ .initial =
        .ok tree after) ∧
      Unreferenced (Record.leftLoop.trace 0) ∧ Record.leftLoop.Grammatical ∧
      Record.leftLoop.JumpsInScope ∧ Record.leftLoop.KindsAgree := by
  have linked : ∃ tree after, buildDeclaration Record.leftLoop .none
      ⟨⟨"", .empty, [], []⟩, {}⟩ .initial = .ok tree after := ⟨_, _, rfl⟩
  have unreferenced : Unreferenced (Record.leftLoop.trace 0) := by
    have traced : Record.leftLoop.trace 0 =
        [.enter 0, .enter 1, .beginLoop 7, .enter 2, .jump 7,
          .use .declaredVariable ⟨.symbol .localVariable, ⟨1000, false⟩, none⟩,
          .declare 1000] := by
      have named : Record.originCheck "DEFINED" = [] := rfl
      simp [Record.leftLoop, Record.anyType,
        Record.trace_of_takesLevel (c := .declaration) rfl,
        Record.trace_of_takesLevel (c := .expression) rfl,
        Record.trace_of_takesNoLevel (c := .declarator) rfl,
        Record.trace_of_takesNoLevel (c := .operation) rfl,
        Record.trace_of_takesNoLevel (c := .type) rfl,
        Record.trace_of_takesNoLevel (c := .list _) rfl,
        Record.trace_of_takesNoLevel (c := .option _) rfl, Record.layout, named,
        Record.declareStep, Record.declaredSymbol?, Item.trace, Item.use, Item.steps]
    rw [traced]
    intro requirement record used
    simp at used
    rw [used.2]
  have grammatical : Record.leftLoop.Grammatical := by
    rcases linked with ⟨tree, after, ends⟩
    exact accepts_grammar.1 _ _ .start Record.leftLoop Parent.none tree after ends
  rcases (accepts_grammar.2 _ _ Record.leftLoop .none unreferenced).mp linked with
    ⟨_, inScope, _, kinds, _⟩
  exact ⟨linked, unreferenced, grammatical, inScope, kinds rfl⟩

end IrLink
