import IrLink.Proofs.Decode.Begins
import IrLink.Proofs.Decode.Dangling

/-!
# Jumps and their loops

A jump of a tree goes to the loop that is registered for its identifier, and that is
the first loop that was begun with it in the whole session
(`LoopTable.Resolves`).  Inside a loop that was the first of its identifier all jumps
with this identifier go to it, however deep they stand.  What a session has
registered stays, and a jump to an identifier without a loop fails
(`History.jumps_resolved`).
-/

namespace IrLink

/-! ## Jumps of trees -/

/-- The jump that a node is. -/
def Node.jump? : Node → Option Jump
  | @Node.mk _ (.breakLoop jump) => some jump
  | @Node.mk _ (.continueLoop jump) => some jump
  | _ => none

namespace Tree

variable {c : Category} {tree : Tree c} {jump : Jump}

/-- The jumps inside a tree, at any depth. -/
def jumps (tree : Tree c) : List Jump :=
  tree.nodes.filterMap Node.jump?

/-- A jump is a mark of the node that it is. -/
theorem mem_marks_of_jump? {node : Node} (isJump : node.jump? = .some jump) :
    .jump jump ∈ node.tree.marks := by
  rcases node with @⟨category, tree⟩
  cases tree with
  | breakLoop => exact Option.some.inj isJump ▸ .head _
  | continueLoop => exact Option.some.inj isJump ▸ .head _
  | _ => cases isJump

theorem marked_of_mem_jumps (has : jump ∈ tree.jumps) : .jump jump ∈ tree.allMarks := by
  rcases List.mem_filterMap.mp has with ⟨node, inside, isJump⟩
  exact List.mem_flatMap.mpr ⟨node, inside, mem_marks_of_jump? isJump⟩

/-- A jump inside something inside a tree is inside the tree. -/
theorem mem_jumps_of_mem_nodes {d : Category} {inner : Tree d} (has : jump ∈ inner.jumps)
    (inside : ⟨inner⟩ ∈ tree.nodes) : jump ∈ tree.jumps := by
  rcases List.mem_filterMap.mp has with ⟨node, within, isJump⟩
  exact List.mem_filterMap.mpr ⟨node, mem_nodes_trans inside within, isJump⟩

theorem mem_jumps_of_part {d : Category} {part : Tree d} (has : jump ∈ part.jumps)
    (among : ⟨part⟩ ∈ tree.parts) : jump ∈ tree.jumps :=
  mem_jumps_of_mem_nodes has
    (mem_nodes_iff.mpr (.inr ⟨⟨part⟩, among, mem_nodes_iff.mpr (.inl rfl)⟩))

/-- The jumps of the body and of the condition of a loop are inside the loop. -/
theorem mem_jumps_of_loop {range : Range} {type : Tree .type} {node : Nat} {kind : LoopKind}
    {id : Int32} {label : Option String} {body : Tree (.option .expression)}
    {condition : Tree .expression} (has : jump ∈ body.jumps ∨ jump ∈ condition.jumps) :
    jump ∈ (expressionNode range type (.loop node kind id label body condition)).jumps := by
  have operation : jump ∈ (loop node kind id label body condition).jumps := by
    rcases has with has | has
    · exact mem_jumps_of_part has (.head _)
    · exact mem_jumps_of_part has (.tail _ (.head _))
  exact mem_jumps_of_part operation (.tail _ (.head _))

end Tree

/-! ## Loops that stand for identifiers -/

/-- A jump goes to the loop that is registered for its identifier, which is the first
one that was begun with it. -/
structure LoopTable.Resolves (table : LoopTable) (jump : Jump) : Prop where
  registered : table.lookup? jump.loopId = some jump.target
  target : ∃ loop, table.node? jump.target = some loop ∧ loop.id = jump.loopId
  first : jump.loopId ∉ table.ids.take jump.target

theorem LoopTable.Ordered.resolves {table : LoopTable} {jump : Jump}
    (ordered : table.Ordered) (registered : table.lookup? jump.loopId = some jump.target) :
    table.Resolves jump := by
  rcases ordered.lookup?_eq_some_iff.mp registered with ⟨begun, first⟩
  rw [LoopTable.getElem?_ids, Option.map_eq_some_iff] at begun
  exact ⟨registered, begun, first⟩

/-- The loops of a request are begun in the order of its steps. -/
theorem Request.begun_eq_trace (request : Request) (depth : Nat) :
    request.begun = (request.trace depth).filterMap LinkStep.begun? := by
  have own (step : LinkStep) :
      step.effects.filterMap LinkStep.begun? = step.begun?.toList := by
    cases step <;> rfl
  have item (item : Item) : item.effects = (item.trace depth).flatMap LinkStep.effects := by
    cases item with
    | step step => exact (List.append_nil step.effects).symm
    | part record => exact record.effects_eq_trace depth
  calc
    request.begun =
        (request.items.flatMap fun item => (item.trace depth).flatMap
          LinkStep.effects).filterMap LinkStep.begun? := by
      rw [begun, List.flatMap_congr fun _ _ => item _]
    _ = (request.trace depth).flatMap fun step => step.begun?.toList := by
      rw [← List.flatMap_assoc, List.filterMap_flatMap, List.flatMap_congr fun _ _ => own _]
      rfl
    _ = (request.trace depth).filterMap LinkStep.begun? :=
      (List.filterMap_eq_flatMap_toList _ _).symm

/-- A loop is begun after the type of its expression is built and before its body,
and the body is built before the condition. -/
theorem Record.trace_loop (range : Range) (type : Record .type) (kind : LoopKind)
    (id : Int32) (label : Option String) (condition : Record .expression)
    (body : Record (.option .expression)) (depth : Nat) :
    (Record.expressionNode range type (.loop kind id label condition body)).trace depth =
      .enter depth :: (type.trace (depth + 1) ++
        .beginLoop id :: (body.trace (depth + 1) ++ condition.trace (depth + 1))) := by
  have inside : (Record.loop kind id label condition body).trace (depth + 1) =
      .beginLoop id :: (body.trace (depth + 1) ++ condition.trace (depth + 1)) := by
    rw [trace_of_takesNoLevel rfl]
    simp [layout, Item.trace]
  rw [trace_of_takesLevel rfl, ← inside]
  simp [layout, Item.trace]

/-! ## Histories -/

namespace History

variable {environment : Environment} {state : State} {responses : List Response}

/-- The jumps of an answer go to the loops that are registered for them. -/
theorem resolves_of_mem_jumps (history : History environment state responses)
    {response : Response} (among : response ∈ responses) {root : Node}
    (isRoot : root ∈ response.roots) {jump : Jump} (has : jump ∈ root.tree.jumps) :
    state.loops.Resolves jump := by
  have marked := (history.linked response among).marks (.jump jump)
    (List.mem_flatMap.mpr
      ⟨root, isRoot, List.mem_append_right _ (Tree.marked_of_mem_jumps has)⟩)
  exact history.reachable.ordered.resolves marked

/-- A loop that was the first of its identifier is registered for it. -/
theorem registered_of_first (history : History environment state responses)
    {response : Response} (among : response ∈ responses) {root : Node}
    (isRoot : root ∈ response.roots) {range : Range} {type : Tree .type} {node : Nat}
    {kind : LoopKind} {id : Int32} {label : Option String}
    {body : Tree (.option .expression)} {condition : Tree .expression}
    (inside : ⟨.expressionNode range type (.loop node kind id label body condition)⟩ ∈
      root.tree.nodes)
    (first : id ∉ state.loops.ids.take node) :
    state.loops.lookup? id = some node := by
  have marked : Mark.loop node ⟨id, kind, range, type, some ⟨label, body, condition⟩⟩ ∈
      root.tree.allMarks :=
    List.mem_flatMap.mpr ⟨_, inside, List.mem_singleton_self _⟩
  have holds := (history.linked response among).marks _
    (List.mem_flatMap.mpr ⟨root, isRoot, List.mem_append_right _ marked⟩)
  refine history.reachable.ordered.lookup?_eq_some_iff.mpr ⟨?_, first⟩
  rw [LoopTable.getElem?_ids, holds.1]
  rfl

/-- A request begins loops in the order of its steps: all of them if it succeeds. -/
theorem ids_after (request : Request) :
    ∃ begun, begun <+: (request.trace state.depth).filterMap LinkStep.begun? ∧
      (request.after environment state).loops.ids = state.loops.ids ++ begun := by
  rw [← request.begun_eq_trace, ← request.finalState_answer]
  cases run : request.answer environment state with
  | ok response after =>
      exact ⟨_, List.prefix_rfl, (Request.begun_of_ok run).ids⟩
  | error error after =>
      rcases Request.begun_of_error run with ⟨begun, among, loops⟩
      exact ⟨begun, among, loops.ids⟩

/-- At every point of a session the jumps of all trees that were handed out go to the
loops that are registered for their identifiers, which are the first ones begun with
them; inside a loop that is the first of its identifier all jumps with this
identifier go to it.  A loop is begun between its type and its body.  Whatever is
requested next, trees have the recorded shapes, registered loops stay, loops are
begun and registered in the order of the steps, even of requests that fail, and a
request fails because of a jump where it reaches one to an identifier for which no
loop was begun. -/
theorem jumps_resolved (history : History environment state responses) :
    (∀ response ∈ responses, ∀ root ∈ response.roots,
      (∀ jump ∈ root.tree.jumps, state.loops.Resolves jump) ∧
      ∀ range type node kind id label body condition,
        ⟨.expressionNode range type (.loop node kind id label body condition)⟩ ∈
            root.tree.nodes →
          id ∉ state.loops.ids.take node →
            ∀ jump, jump ∈ body.jumps ∨ jump ∈ condition.jumps →
              jump.loopId = id → jump.target = node) ∧
    (∀ range type kind id label condition body depth,
      (Record.expressionNode range type (.loop kind id label condition body)).trace depth =
        .enter depth :: (type.trace (depth + 1) ++
          .beginLoop id :: (body.trace (depth + 1) ++ condition.trace (depth + 1)))) ∧
    ∀ request : Request,
      (∀ response after, request.answer environment state = .ok response after →
        request.Shapes response ∧
          after.loops.ids =
            state.loops.ids ++ (request.trace state.depth).filterMap LinkStep.begun?) ∧
      (∃ begun, begun <+: (request.trace state.depth).filterMap LinkStep.begun? ∧
        (request.after environment state).loops.ids = state.loops.ids ++ begun) ∧
      (∀ id node, state.loops.lookup? id = some node →
        (request.after environment state).loops.lookup? id = some node) ∧
      (∀ id, ((request.after environment state).loops.lookup? id).isSome = true ↔
        (state.loops.lookup? id).isSome = true ∨
          ∃ before next, Reaches environment state.view (request.trace state.depth) before
            (.beginLoop id) next) ∧
      ∀ id view,
        (∃ after, request.answer environment state =
            .error (.danglingLoopReference id) after ∧ after.view = view) ↔
          ∃ before, Reaches environment state.view (request.trace state.depth) before
              (.jump id) view ∧
            state.loops.lookup? id = none ∧ .beginLoop id ∉ before := by
  have keyed := history.reachable.keyed
  have sound := history.reachable.settled.sound
  refine ⟨fun response among root isRoot => ⟨fun jump => ?_, ?_⟩, Record.trace_loop,
    fun request => ?_⟩
  · exact history.resolves_of_mem_jumps among isRoot
  · intro range type node kind id label body condition inside first jump has same
    have registered := history.registered_of_first among isRoot inside first
    have resolves := history.resolves_of_mem_jumps among isRoot
      (Tree.mem_jumps_of_mem_nodes (Tree.mem_jumps_of_loop has) inside)
    rw [← same, resolves.registered] at registered
    exact Option.some.inj registered
  · refine ⟨fun response after answers => ?_, ids_after request, ?_,
      fun id => request.registered_iff keyed, fun id => request.dangling_iff keyed⟩
    · rw [← request.begun_eq_trace]
      exact ⟨request.shapes_of_answer keyed answers, (Request.begun_of_ok answers).ids⟩
    · exact (request.footprint environment sound).grown.registered

end History

/-- The record of a loop inside another one, both recorded with one identifier. -/
def Record.reusedLoop : Record .expression :=
  let type : Record .type := .dynamicType .nil .invariant
  .expressionNode .zero type <|
    .loop .whileTrue 3 .none (.expressionNode .zero type (.constant .null)) <|
      .some <| .expressionNode .zero type <|
        .loop .doWhile 3 .none (.expressionNode .zero type (.continueLoop 3 .none)) <|
          .some (.expressionNode .zero type (.breakLoop 3 .none))

/-- Jumps out of the inner one of two loops with one identifier go to the outer one. -/
theorem History.jumps_resolved_reusedLoop :
    ∃ state response root jump,
      History ⟨⟨"", .empty, [], []⟩, {}⟩ state [response] ∧ root ∈ response.roots ∧
        jump ∈ root.tree.jumps ∧ state.loops.ids = [3, 3] ∧ jump.target = 0 := by
  have evaluated :
      (match (Request.expression .reusedLoop).answer ⟨⟨"", .empty, [], []⟩, {}⟩ .initial with
        | .ok response after =>
            response.roots.any (fun root => !root.tree.jumps.isEmpty) &&
              after.loops.ids == [3, 3]
        | .error _ _ => false) = true := by
    decide +kernel
  split at evaluated
  · rename_i response after answers
    rw [Bool.and_eq_true, List.any_eq_true, beq_iff_eq] at evaluated
    rcases evaluated with ⟨⟨root, isRoot, jumps⟩, begun⟩
    rcases List.exists_mem_of_ne_nil root.tree.jumps (by simpa using jumps) with ⟨jump, has⟩
    have history := History.start.answered _ answers
    have resolves := (history.jumps_resolved.1 _ (.head _) root isRoot).1 jump has
    refine ⟨after, response, root, jump, history, isRoot, has, begun, ?_⟩
    have begunWith : [3, 3][jump.target]? = some jump.loopId := by
      rcases resolves.target with ⟨loop, target, same⟩
      rw [← begun, LoopTable.getElem?_ids, target, ← same]
      rfl
    have first := resolves.first
    rw [begun] at first
    -- both loops have the identifier, so that of the inner one is not its first
    cases position : jump.target with
    | zero => rfl
    | succ before =>
        rw [position] at begunWith first
        have same : jump.loopId = 3 := by
          have among := List.mem_of_getElem? begunWith
          simpa using among
        exact absurd (same ▸ .head _) first
  · cases evaluated

end IrLink
