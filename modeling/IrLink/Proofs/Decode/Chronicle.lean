import IrLink.Decode.Ownership
import IrLink.Proofs.Decode.Filling
import IrLink.Proofs.Decode.Jumps

/-!
# Chronicles of sessions

A chronicle lists everything that a session was asked for, with the states in which it was
asked, even what failed (`Chronicle`).  Loops that a request finds stay as they are, with or
without contents, and those that it begins are filled or abandoned by it.  So the loops of
all trees have the contents that are in the trees, and a registered loop is empty if and
only if the request that registered it failed inside it (`Chronicle.loops_filled`).
Nothing that the session owns is ever lost (`Chronicle.keeps`).
-/

namespace IrLink

variable {environment : Environment} {state : State} {node : Nat} {id : Int32}

/-! ## Requests -/

/-- A record is inside one of those that a request links. -/
def Request.Covers (request : Request) {c : Category} (inner : Record c) : Prop :=
  ∃ (d : Category) (record : Record d), .part record ∈ request.items ∧ inner.Inside record

/-- A request accounts for the loops that it begins. -/
theorem Request.accounts (request : Request) (environment : Environment) (state : State) :
    Decode.Accounts environment request.Covers state (request.answer environment state) := by
  rw [request.answer_eq]
  have linking : Decode.Linking request.Covers (Decode.Accounting environment request.Covers) :=
    Decode.Accounting.linking
  exact linking.request environment.world.name request
    (fun record among _ _ inside => ⟨_, record, among, inside⟩) state

/-- The declarations and loops of an answer are new. -/
theorem Request.new_of_answer {request : Request} {response : Response} {after : State}
    (answers : request.answer environment state = .ok response after) :
    ∀ mark ∈ response.marks, mark.IsNew state := by
  rw [request.answer_eq] at answers
  have resolves (record : SymbolRecord) : Decode.Numbers environment state True
      (Decode.resolveSymbol record) fun _ => True := by
    refine ⟨fun _ start after symbol since run => ?_⟩
    rcases Decode.resolveSymbol_eq_ok_iff.mp run with ⟨_, -, ⟨-, -, rfl⟩ | ⟨-, -, rfl⟩⟩
    · exact ⟨since, trivial⟩
    · exact ⟨⟨since.node, since.loop⟩, trivial⟩
  have numbers := Decode.Numbers.rules.request resolves environment.world.name request
  exact (numbers.ok trivial ⟨Nat.le_refl _, Nat.le_refl _⟩ answers).2.tally.holds

/-! ## Operations -/

/-- A request in the state in which it was made. -/
structure Operation where
  before : State
  request : Request

namespace Operation

variable {operation : Operation}

/-- The state that an operation leaves. -/
def after (environment : Environment) (operation : Operation) : State :=
  operation.request.after environment operation.before

/-- An operation that gives an answer. -/
def Succeeds (environment : Environment) (operation : Operation) : Prop :=
  ∃ response after, operation.request.answer environment operation.before = .ok response after

/-- An operation registers a loop for an identifier that was free. -/
structure Registers (environment : Environment) (operation : Operation) (id : Int32)
    (node : Nat) : Prop where
  free : operation.before.loops.lookup? id = none
  taken : (operation.after environment).loops.lookup? id = some node

/-- An operation begins a loop and gives it its contents. -/
def Fills (environment : Environment) (operation : Operation) (node : Nat) (loop : LoopNode) :
    Prop :=
  Decode.Filled environment operation.request.Covers operation.before
    (operation.after environment) node loop

/-- An operation begins a loop and fails while it links the body or the condition of this
loop. -/
def Abandons (environment : Environment) (operation : Operation) (node : Nat) : Prop :=
  ∃ error, operation.request.answer environment operation.before =
      .error error (operation.after environment) ∧
    Decode.Abandoned environment operation.request.Covers operation.before
      (operation.after environment) error node

/-- A loop that an operation begins is filled or abandoned by it. -/
theorem fills_or_abandons (old : operation.before.loops.nextNode ≤ node)
    (new : node < (operation.after environment).loops.nextNode) :
    (∃ loop, operation.Fills environment node loop) ∨ operation.Abandons environment node := by
  have begun := (operation.request.accounts environment operation.before).begun node old
  have ends : _ = operation.after environment :=
    operation.request.finalState_answer environment operation.before
  rw [ends] at begun
  rcases begun new with filled | ⟨error, last, fails, abandoned⟩
  · exact .inl filled
  · rw [fails] at ends
    cases ends
    exact .inr ⟨error, fails, abandoned⟩

/-- An operation that gives an answer abandons nothing. -/
theorem Abandons.not_succeeds (abandons : operation.Abandons environment node) :
    ¬ operation.Succeeds environment := by
  rintro ⟨response, after, answers⟩
  obtain ⟨error, fails, -⟩ := abandons
  cases answers.symm.trans fails

/-- A loop that an operation registers is begun by it. -/
theorem Registers.isNew (registers : operation.Registers environment id node)
    (reachable : Reachable environment operation.before) :
    operation.before.loops.nextNode ≤ node ∧
      node < (operation.after environment).loops.nextNode := by
  have begun : (operation.after environment).loops.ids[node]? = some id :=
    ((reachable.step operation.request).ordered.lookup?_eq_some_iff.mp registers.taken).1
  constructor
  · -- An earlier loop would have taken the identifier before.
    by_contra older
    obtain ⟨added, -, ids⟩ : ∃ added, _ ∧ (operation.after environment).loops.ids =
        operation.before.loops.ids ++ added := History.ids_after operation.request
    have within : node < operation.before.loops.ids.length := by
      rw [LoopTable.length_ids]
      exact Nat.lt_of_not_le older
    rw [ids, List.getElem?_append_left within] at begun
    have free := registers.free
    rw [reachable.ordered, List.idxOf?_eq_none_iff] at free
    exact free (List.mem_of_getElem? begun)
  · rw [← LoopTable.length_ids]
    exact (List.getElem?_eq_some_iff.mp begun).1

/-- A loop that an operation registers is left empty if and only if it is abandoned. -/
theorem Registers.unpopulated_iff (registers : operation.Registers environment id node)
    (reachable : Reachable environment operation.before) :
    (operation.after environment).loops.isPopulated node = false ↔
      operation.Abandons environment node := by
  constructor
  · intro unpopulated
    obtain ⟨old, new⟩ := registers.isNew reachable
    refine (fills_or_abandons old new).resolve_left ?_
    rintro ⟨loop, fills⟩
    rw [LoopTable.isPopulated, fills.node?.1, Option.any_some, fills.node?.2] at unpopulated
    cases unpopulated
  · rintro ⟨error, -, abandoned⟩
    obtain ⟨shell, found, empty⟩ := abandoned.node?
    rw [LoopTable.isPopulated, found, Option.any_some, empty]

end Operation

/-! ## Chronicles -/

/-- The states that a session comes to, with the operations that lead there, the last one
first. -/
inductive Chronicle (environment : Environment) : State → List Operation → Prop
  | start : Chronicle environment .initial []
  | step {state : State} {operations : List Operation}
      (chronicle : Chronicle environment state operations) (request : Request) :
      Chronicle environment (request.after environment state) (⟨state, request⟩ :: operations)

namespace Chronicle

variable {operations : List Operation}

/-- The states of a chronicle are those that requests lead to. -/
theorem reachable (chronicle : Chronicle environment state operations) :
    Reachable environment state := by
  induction chronicle with
  | start => exact .start
  | step chronicle request inductionHypothesis => exact .step request inductionHypothesis

/-- Operations are carried out in reachable states, and leave a footprint in what follows. -/
theorem footprint (chronicle : Chronicle environment state operations) :
    ∀ operation ∈ operations, Reachable environment operation.before ∧
      (operation.after environment).Footprint state := by
  induction chronicle with
  | start => exact List.forall_mem_nil _
  | @step state operations chronicle request inductionHypothesis =>
      have sound := chronicle.reachable.settled.sound
      have last := request.footprint environment sound
      refine List.forall_mem_cons.mpr ⟨⟨chronicle.reachable, .refl last.sound⟩, ?_⟩
      exact fun operation among => (inductionHypothesis operation among).imp_right (·.trans last)

/-- Loops that an operation found, empty or not, stay as they were. -/
theorem kept (chronicle : Chronicle environment state operations) {operation : Operation}
    (among : operation ∈ operations) {loop : LoopNode}
    (found : operation.before.loops.node? node = some loop) :
    state.loops.node? node = some loop := by
  obtain ⟨reachable, later⟩ := chronicle.footprint operation among
  have own := operation.request.footprint environment reachable.settled.sound
  rw [(own.trans later).loops node (LoopTable.node?_lt found), found]

/-- A declaration that lasts when an operation begins, because the session owns it or it is
inside a tree that was handed out, goes on to last. -/
theorem keeps (chronicle : Chronicle environment state operations) {operation : Operation}
    (among : operation ∈ operations) {handedOut : List Node} {number : Nat}
    (lasts : operation.before.keeps handedOut number = true) :
    state.keeps handedOut number = true := by
  obtain ⟨reachable, later⟩ := chronicle.footprint operation among
  have own := operation.request.footprint environment reachable.settled.sound
  have grown := (own.trans later).grown
  rw [State.keeps_iff, State.mem_ownedDeclarations_iff] at lasts ⊢
  refine lasts.imp_left (.imp ?known ?registered)
  case known =>
    rintro ⟨id, declaration, known, inside⟩
    exact ⟨id, declaration, grown.declarations id declaration known, inside⟩
  case registered =>
    rintro ⟨id, place, loop, taken, found, inside⟩
    exact ⟨id, place, loop, grown.registered id place taken, chronicle.kept among found, inside⟩

/-- Loops that an operation left, empty or not, stay as they are. -/
theorem node?_of_after (chronicle : Chronicle environment state operations)
    {operation : Operation} (among : operation ∈ operations)
    (begun : node < (operation.after environment).loops.nextNode) :
    state.loops.node? node = (operation.after environment).loops.node? node :=
  (chronicle.footprint operation among).2.loops node begun

/-- What is registered was registered by an operation. -/
theorem registered (chronicle : Chronicle environment state operations)
    (taken : state.loops.lookup? id = some node) :
    ∃ operation ∈ operations, operation.Registers environment id node := by
  induction chronicle with
  | start => cases taken
  | @step state operations chronicle request inductionHypothesis =>
      cases before : state.loops.lookup? id with
      | none => exact ⟨_, .head _, before, taken⟩
      | some other =>
          have grown := (request.footprint environment chronicle.reachable.settled.sound).grown
          cases (grown.registered id other before).symm.trans taken
          obtain ⟨operation, among, registers⟩ := inductionHypothesis before
          exact ⟨operation, .tail _ among, registers⟩

/-- A registered loop is empty if and only if the operation that registered it has abandoned
it. -/
theorem unpopulated_iff (chronicle : Chronicle environment state operations)
    {operation : Operation} (among : operation ∈ operations)
    (registers : operation.Registers environment id node) :
    state.loops.isPopulated node = false ↔ operation.Abandons environment node := by
  have reachable := (chronicle.footprint operation among).1
  rw [← registers.unpopulated_iff reachable, LoopTable.isPopulated, LoopTable.isPopulated,
    chronicle.node?_of_after among (registers.isNew reachable).2]

/-- If all operations succeed, all registered loops have their contents. -/
theorem populated_of_succeeds (chronicle : Chronicle environment state operations)
    (succeeds : ∀ operation ∈ operations, operation.Succeeds environment)
    (taken : state.loops.lookup? id = some node) : state.loops.isPopulated node = true := by
  obtain ⟨operation, among, registers⟩ := chronicle.registered taken
  refine (Bool.not_eq_false _).mp fun unpopulated => ?_
  exact ((chronicle.unpopulated_iff among registers).mp unpopulated).not_succeeds
    (succeeds operation among)

/-- What an operation has answered is linked in all later states. -/
theorem linked (chronicle : Chronicle environment state operations) {operation : Operation}
    (among : operation ∈ operations) {response : Response} {after : State}
    (answers : operation.request.answer environment operation.before = .ok response after) :
    operation.after environment = after ∧
      ∀ mark ∈ response.marks, mark.Holds environment after ∧ mark.Holds environment state := by
  obtain ⟨reachable, later⟩ := chronicle.footprint operation among
  have ends : _ = operation.after environment :=
    operation.request.finalState_answer environment operation.before
  rw [answers] at ends
  cases ends
  have answered := (Request.answered reachable.settled.sound answers).1.tally.holds
  exact ⟨rfl, fun mark marked => ⟨answered mark marked, (answered mark marked).mono later.grown⟩⟩

/-- The loops of a tree that an operation has answered are filled by it, and have the
contents that are in the tree ever since. -/
theorem filled (chronicle : Chronicle environment state operations) {operation : Operation}
    (among : operation ∈ operations) {response : Response} {after : State}
    (answers : operation.request.answer environment operation.before = .ok response after)
    {loop : LoopNode} (marked : .loop node loop ∈ response.marks) :
    state.loops.node? node = some loop ∧ operation.Fills environment node loop := by
  obtain ⟨rfl, holds⟩ := chronicle.linked among answers
  obtain ⟨⟨found, -⟩, ⟨stays, -⟩⟩ := holds _ marked
  have old : operation.before.loops.nextNode ≤ node := Request.new_of_answer answers _ marked
  refine ⟨stays, ?_⟩
  rcases Operation.fills_or_abandons old (LoopTable.node?_lt found) with ⟨other, fills⟩ | abandons
  · cases fills.node?.1.symm.trans found
    exact fills
  · exact (abandons.not_succeeds ⟨response, _, answers⟩).elim

/-- At every point of a session the loops of all trees that were handed out have the
contents that are in the trees, registered or not, and these are what linking their own
records gave; loops, empty or not, stay as they are whatever is requested later; and a
registered loop is empty if and only if the one operation that registered it failed while it
linked the body or the condition of this loop.  If all operations succeed, all registered
loops have their contents, and so have those to which the jumps of all trees go. -/
theorem loops_filled (chronicle : Chronicle environment state operations) :
    (∀ operation ∈ operations, ∀ response after,
      operation.request.answer environment operation.before = .ok response after →
        ∀ root ∈ response.roots, ∀ range type node kind id label body condition,
          ⟨.expressionNode range type (.loop node kind id label body condition)⟩ ∈
              root.tree.nodes →
            let loop : LoopNode := ⟨id, kind, range, type, some ⟨label, body, condition⟩⟩
            state.loops.node? node = some loop ∧ operation.Fills environment node loop) ∧
    (∀ operation ∈ operations, ∀ node loop, operation.before.loops.node? node = some loop →
      state.loops.node? node = some loop) ∧
    (∀ id node, state.loops.lookup? id = some node →
      (∃ operation ∈ operations, operation.Registers environment id node) ∧
        ∀ operation ∈ operations, operation.Registers environment id node →
          (state.loops.isPopulated node = false ↔ operation.Abandons environment node)) ∧
    ((∀ operation ∈ operations, operation.Succeeds environment) →
      (∀ id node, state.loops.lookup? id = some node → state.loops.isPopulated node = true) ∧
        ∀ operation ∈ operations, ∀ response after,
          operation.request.answer environment operation.before = .ok response after →
            ∀ root ∈ response.roots, ∀ jump ∈ root.tree.jumps,
              state.loops.isPopulated jump.target = true) := by
  refine ⟨?_, fun operation among node loop => chronicle.kept among,
    fun id node taken => ⟨chronicle.registered taken, fun operation among =>
      chronicle.unpopulated_iff among⟩, fun succeeds => ⟨fun id node =>
        chronicle.populated_of_succeeds succeeds, ?_⟩⟩
  · intro operation among response after answers root isRoot range type node kind id label body
      condition inside
    refine chronicle.filled among answers (List.mem_flatMap.mpr ⟨root, isRoot, ?_⟩)
    exact List.mem_append_right _ (List.mem_flatMap.mpr ⟨_, inside, List.mem_singleton_self _⟩)
  · intro operation among response after answers root isRoot jump has
    have marked : .jump jump ∈ response.marks := List.mem_flatMap.mpr
      ⟨root, isRoot, List.mem_append_right _ (Tree.marked_of_mem_jumps has)⟩
    exact chronicle.populated_of_succeeds succeeds
      ((chronicle.linked among answers).2 _ marked).2

end Chronicle

/-- The record of a loop without a body. -/
def Record.bareLoop (id : Int32) (condition : Record .operation) : Record .expression :=
  let type : Record .type := .dynamicType .nil .invariant
  .expressionNode .zero type
    (.loop .whileTrue id .none (.expressionNode .zero type condition) .none)

/-- Two loops with one identifier are filled, one after the other, and a third one is
abandoned because its condition has no operation. -/
theorem Chronicle.loops_filled_bareLoop :
    ∃ state operations, Chronicle ⟨⟨"", .empty, [], []⟩, {}⟩ state operations ∧
      state.loops.lookup? 3 = some 0 ∧ state.loops.isPopulated 0 = true ∧
      state.loops.isPopulated 1 = true ∧ state.loops.lookup? 4 = some 2 ∧
      ∃ operation ∈ operations,
        operation.Registers ⟨⟨"", .empty, [], []⟩, {}⟩ 4 2 ∧
          operation.Abandons ⟨⟨"", .empty, [], []⟩, {}⟩ 2 := by
  have chronicle : Chronicle ⟨⟨"", .empty, [], []⟩, {}⟩ _ _ :=
    ((Chronicle.start.step (.expression (.bareLoop 3 (.constant .null)))).step
      (.expression (.bareLoop 3 (.constant .null)))).step
        (.expression (.bareLoop 4 .unsetOperation))
  refine ⟨_, _, chronicle, rfl, rfl, rfl, rfl, ?_⟩
  obtain ⟨⟨operation, among, registers⟩, unpopulated⟩ := chronicle.loops_filled.2.2.1 4 2 rfl
  exact ⟨operation, among, registers, (unpopulated operation among registers).mp rfl⟩

end IrLink
