import IrLink.Proofs.Decode.Jumps

/-!
# New declarations and loops

The declarations and loops of a tree that is linked are new: they are numbered after
everything that was numbered before (`Decode.build_new`).
-/

namespace IrLink

/-! ## Loops of trees -/

/-- The number of the loop that a node is. -/
def Node.loop? : Node → Option Nat
  | @Node.mk _ (.expressionNode _ _ (.loop node ..)) => some node
  | _ => none

/-- The numbers of the loops inside a tree, at any depth. -/
def Tree.loopNodes {c : Category} (tree : Tree c) : List Nat :=
  tree.nodes.filterMap Node.loop?

/-- A loop is a mark of the node that it is. -/
theorem Node.mem_marks_of_loop? {root : Node} {node : Nat} (isLoop : root.loop? = some node) :
    ∃ loop, .loop node loop ∈ root.tree.marks := by
  rcases root with @⟨category, tree⟩
  cases tree with
  | expressionNode range type operation =>
      cases operation with
      | loop number kind id label body condition =>
          cases isLoop
          exact ⟨_, .head _⟩
      | _ => cases isLoop
  | _ => cases isLoop

/-! ## Records that a session can be asked for -/

/-- A request asks for one record to be linked. -/
inductive Request.Asks : Request → {c : Category} → Record c → Context c → Prop
  | type (record : Record .type) : (Request.type record).Asks record ()
  | expression (record : Record .expression) : (Request.expression record).Asks record ()
  | statement (record : Record .statement) : (Request.statement record).Asks record ()
  | declaration (record : Record .declaration) (parent : Parent) :
      (Request.declaration record parent).Asks record parent

/-- A request for a record leaves what linking the record leaves. -/
theorem Request.Asks.after_eq {request : Request} {c : Category} {record : Record c}
    {context : Context c} (asks : request.Asks record context) (environment : Environment)
    (state : State) :
    request.after environment state =
      finalState (Decode.build record context environment state) := by
  cases asks <;> rfl

/-! ## Numbers -/

/-- What is numbered from now on is new since an earlier state. -/
structure State.Since (start state : State) : Prop where
  node : start.nextNode ≤ state.nextNode
  loop : start.loops.nextNode ≤ state.loops.nextNode

/-- A mark of a declaration or loop that was numbered after a state. -/
def Mark.IsNew (start : State) : Mark → Prop
  | .declaration found | .backingField found => start.nextNode ≤ found.node
  | .loop node _ => start.loops.nextNode ≤ node
  | .symbol .. | .jump _ => True

namespace Decode

variable {α β : Type} {environment : Environment} {start : State}

/-- A computation that gives numbers from some state on. -/
structure Numbers (environment : Environment) (start : State) (given : Prop)
    (computation : Decode α) (post : α → Prop) : Prop where
  ok : given → ∀ {state after : State} {result : α}, start.Since state →
    computation environment state = .ok result after → start.Since after ∧ post result

namespace Numbers

variable {given : Prop} {computation : Decode α} {rest : α → Decode β} {post : α → Prop}
  {last : β → Prop}

theorem bind (first : Numbers environment start given computation post)
    (second : ∀ result, Numbers environment start (given ∧ post result) (rest result) last) :
    Numbers environment start given (computation >>= rest) last where
  ok := fun known state after result since run => by
    rcases bind_ok_iff.mp run with ⟨between, middle, early, late⟩
    rcases first.ok known since early with ⟨since, holds⟩
    exact (second between).ok ⟨known, holds⟩ since late

theorem descend (inside : Numbers environment start given computation post) :
    Numbers environment start given (descend computation) post where
  ok := fun known state after result since run => by
    rcases descend_ok run with ⟨middle, deeper, rfl⟩
    have deeperSince : start.Since { state with depth := state.depth + 1 } := { since with }
    rcases inside.ok known deeperSince deeper with ⟨middleSince, holds⟩
    exact ⟨{ middleSince with }, holds⟩

theorem symbol (requirement : Requirement) (record : SymbolRecord) :
    Numbers environment start given (symbolFor requirement record) fun _ => True where
  ok := fun _ state after result since run => by
    rcases symbolFor_links requirement record environment state.symbols with
      ⟨outcome, symbols, links⟩
    rw [links.runs state rfl] at run
    cases outcome <;> cases run
    exact ⟨⟨since.node, since.loop⟩, trivial⟩

theorem loop (shell : LoopNode) {inside : Decode LoopContents} {post : LoopContents → Prop}
    (contents : Numbers environment start given inside post) :
    Numbers environment start given (looping shell inside) fun filled =>
      post filled.2 ∧ start.loops.nextNode ≤ filled.1 where
  ok := fun known state after filled since run => by
    have begun : start.Since (state.begun shell) := by
      refine ⟨since.node, Nat.le_trans since.loop ?_⟩
      rw [State.nextLoop_begun]
      exact Nat.le_succ _
    cases inner : inside environment (state.begun shell) with
    | error error middle => cases (looping_of_error inner).symm.trans run
    | ok made middle =>
        cases (looping_of_ok inner).symm.trans run
        rcases contents.ok known begun inner with ⟨middleSince, holds⟩
        refine ⟨⟨middleSince.node, ?_⟩, holds, since.loop⟩
        exact Nat.le_trans middleSince.loop (Nat.le_of_eq LoopTable.nextNode_populate.symm)

theorem declaration {range : Range} {origin : Origin} {parent : Parent}
    {make : Nat → Decode (Tree .declarator × Tree (.list .call))}
    {post : Tree .declarator × Tree (.list .call) → Prop}
    (made : ∀ node, Numbers environment start given (make node) post) :
    Numbers environment start given (declaring range origin parent make) fun declaration =>
      ∃ node made, declaration = .declarationNode node range origin parent made.1 made.2 ∧
        post made ∧ (Mark.declaration declaration).IsNew start where
  ok := fun known state after declaration since run => by
    have numbered : start.Since state.numbered :=
      ⟨Nat.le_succ_of_le since.node, since.loop⟩
    cases parts : make state.nextNode environment state.numbered with
    | error error middle => cases (declaring_of_error parts).symm.trans run
    | ok found middle =>
        rcases (made state.nextNode).ok known numbered parts with ⟨middleSince, holds⟩
        rcases declaring_of_ok parts rfl with ⟨_, ends⟩ | ⟨_, ends⟩ | ⟨_, _, _, ends⟩ <;>
          cases ends.symm.trans run
        · exact ⟨middleSince, _, found, rfl, holds, since.node⟩
        · exact ⟨⟨middleSince.node, middleSince.loop⟩, _, found, rfl, holds, since.node⟩

/-- Linking goes by these rules.  No declarations are counted. -/
theorem rules : Rules (·.IsNew start) (fun _ => false)
    fun given computation _ => Numbers environment start given computation where
  pure := fun holds => ⟨by
    rintro known _ _ _ since ⟨⟩
    exact ⟨since, holds known⟩⟩
  fail := fun _ _ _ => ⟨by
    rintro _ _ _ _ _ ⟨⟩⟩
  bind := .bind
  descend := .descend
  symbol := fun requirement record => ⟨fun known _ _ _ since run =>
    ⟨((symbol requirement record).ok known since run).1, rfl, trivial⟩⟩
  builtin := fun _ _ _ => trivial
  jump := fun id label => ⟨fun _ _ _ _ since run => by
    rcases jumpTo_ok run with ⟨rfl, -⟩
    exact ⟨since, trivial⟩⟩
  loop := fun shell _ _ _ _ => .loop shell
  declaration := fun _ _ _ _ _ _ _ _ => .declaration
  child := fun site declarator => ⟨by
    rintro _ state _ _ since ⟨⟩
    exact ⟨⟨Nat.le_succ_of_le since.node, since.loop⟩, ⟨_, rfl⟩, since.node⟩⟩

end Numbers

/-- The declarations and loops of a tree that was asked for are new. -/
theorem build_new {request : Request} {c : Category} {record : Record c} {context : Context c}
    (asks : request.Asks record context) {tree : Tree c.built} {after : State}
    (run : build record context environment start = .ok tree after) :
    ∀ mark ∈ tree.ownedMarks, mark.IsNew start := by
  have given : context.Holds (·.IsNew start) := by
    cases asks <;> trivial
  have numbered : Numbers environment start True (build record context)
      (Tallied (·.IsNew start) (fun _ => false) record context) :=
    build_tallied Numbers.rules record context fun _ => given
  have tallied := (numbered.ok trivial ⟨Nat.le_refl _, Nat.le_refl _⟩ run).2
  have roles := tallied.tally.holds
  cases asks <;> exact roles

variable {request : Request} {c : Category} {record : Record c} {context : Context c}
  {tree : Tree c.built} {after : State}

/-- The declarations of a tree that was asked for have new numbers. -/
theorem newNode_le_of_build (asks : request.Asks record context)
    (run : build record context environment start = .ok tree after) :
    ∀ declaration ∈ tree.declarationNodes, start.nextNode ≤ declaration.node := by
  intro declaration among
  rcases List.mem_append.mp (tree.declared_perm.mem_iff.mp among) with declared | stores
  · rcases List.mem_filterMap.mp declared with ⟨mark, marked, same⟩
    cases mark with
    | declaration found =>
        cases same
        exact build_new asks run _ marked
    | _ => cases same
  · rcases List.mem_filterMap.mp stores with ⟨mark, marked, same⟩
    cases mark with
    | backingField found =>
        cases same
        exact build_new asks run _ (List.mem_append_right _ marked)
    | _ => cases same

/-- The loops of a tree that was asked for have new numbers. -/
theorem newLoop_le_of_build (asks : request.Asks record context)
    (run : build record context environment start = .ok tree after) :
    ∀ node ∈ tree.loopNodes, start.loops.nextNode ≤ node := by
  intro node among
  rcases List.mem_filterMap.mp among with ⟨root, inside, isLoop⟩
  rcases Node.mem_marks_of_loop? isLoop with ⟨loop, marked⟩
  exact build_new asks run _
    (List.mem_append_right _ (List.mem_flatMap.mpr ⟨root, inside, marked⟩))

end Decode

end IrLink
