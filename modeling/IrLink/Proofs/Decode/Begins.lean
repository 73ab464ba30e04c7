import IrLink.Proofs.Decode.History

/-!
# The order of loops

Loops are numbered in the order in which they are begun, whether what is built
inside them succeeds or fails, and an identifier stands for the first loop that
was begun with it (`LoopTable.Ordered`).  A computation that succeeds begins the
loops of its steps, in their order; one that fails has begun the first of them
(`Decode.Begins`).
-/

namespace IrLink

/-! ## Tables -/

namespace LoopTable

variable {table before middle after : LoopTable} {loop : LoopNode} {node : Nat} {id : Int32}
  {contents : LoopContents} {begun others : List Int32}

/-- The identifiers of all loops, in the order in which these were begun. -/
def ids (table : LoopTable) : List Int32 :=
  table.nodes.toList.map (·.id)

theorem ids_allocate : (table.allocate loop).ids = table.ids ++ [loop.id] := by
  simp [ids, allocate]

theorem length_ids : table.ids.length = table.nextNode := by
  simp [ids, nextNode]

theorem getElem?_ids : table.ids[node]? = (table.node? node).map (·.id) := by
  rw [ids, List.getElem?_map, Array.getElem?_toList]
  rfl

/-- Filling a loop does not change its identifier. -/
theorem ids_populate : (table.populate node contents).ids = table.ids := by
  refine List.ext_getElem? fun other => ?_
  rw [getElem?_ids, getElem?_ids]
  by_cases same : node = other
  · subst same
    cases found : table.node? node with
    | none => simp [populate, found]
    | some loop =>
        cases populated : loop.isPopulated with
        | true => rw [node?_populate_of_isPopulated found populated]
        | false =>
            rw [node?_populate_self found populated]
            rfl
  · rw [node?_populate_of_ne same]

/-- The first place of an identifier when another one is added at the end. -/
theorem idxOf?_append_singleton (ids : List Int32) (added id : Int32) :
    (ids ++ [added]).idxOf? id =
      (ids.idxOf? id).or (if added = id then some ids.length else none) := by
  rw [List.idxOf?, List.findIdx?_append]
  by_cases same : added = id <;> simp [List.findIdx?_cons, same]

/-- An identifier is registered for the first loop that was begun with it. -/
def Ordered (table : LoopTable) : Prop :=
  ∀ id, table.lookup? id = table.ids.idxOf? id

/-- A table in which some more loops were begun, in the given order. -/
structure Begun (before : LoopTable) (begun : List Int32) (after : LoopTable) : Prop where
  ids : after.ids = before.ids ++ begun
  ordered : before.Ordered → after.Ordered

namespace Begun

theorem refl (table : LoopTable) : table.Begun [] table :=
  ⟨(List.append_nil _).symm, id⟩

theorem trans (first : before.Begun begun middle) (second : middle.Begun others after) :
    before.Begun (begun ++ others) after where
  ids := by rw [second.ids, first.ids, List.append_assoc]
  ordered := fun ordered => second.ordered (first.ordered ordered)

/-- A loop is registered unless one with its identifier was begun before. -/
theorem register (table : LoopTable) (loop : LoopNode) :
    table.Begun [loop.id] ((table.allocate loop).register loop.id table.nextNode) where
  ids := ids_allocate
  ordered := fun ordered id => by
    have ids : ((table.allocate loop).register loop.id table.nextNode).ids =
        table.ids ++ [loop.id] := ids_allocate
    have unchanged : (table.allocate loop).lookup? = table.lookup? := rfl
    rw [ids, lookup?_register, unchanged, ordered, ordered, idxOf?_append_singleton,
      length_ids]
    by_cases same : loop.id = id
    · subst same
      cases table.ids.idxOf? loop.id <;> simp
    · simp [same]

theorem populate (table : LoopTable) (node : Nat) (contents : LoopContents) :
    table.Begun [] (table.populate node contents) where
  ids := ids_populate.trans (List.append_nil _).symm
  ordered := fun ordered id => by rw [lookup?_populate, ids_populate, ordered]

end Begun

/-- In an ordered table an identifier stands for a loop of that identifier before
which no other was begun with it. -/
theorem Ordered.lookup?_eq_some_iff (ordered : table.Ordered) :
    table.lookup? id = some node ↔
      table.ids[node]? = some id ∧ id ∉ table.ids.take node := by
  rw [ordered, List.idxOf?_eq_some_iff, List.getElem?_eq_some_iff]
  constructor
  · rintro ⟨inRange, same, first⟩
    refine ⟨⟨inRange, same⟩, fun earlier => ?_⟩
    rcases List.mem_take_iff_getElem.mp earlier with ⟨other, before, same⟩
    exact first other (Nat.lt_of_lt_of_le before (Nat.min_le_left _ _)) same
  · rintro ⟨⟨inRange, same⟩, first⟩
    refine ⟨inRange, same, fun other before same => first ?_⟩
    exact List.mem_take_iff_getElem.mpr
      ⟨other, Nat.lt_min.mpr ⟨before, Nat.lt_trans before inRange⟩, same⟩

end LoopTable

namespace Decode

variable {α β : Type}

/-! ## Computations -/

/-- A computation that begins the loops of its steps, in their order. -/
structure Begins (given : Prop) (computation : Decode α) (effects : List LinkStep)
    (post : α → Prop) : Prop where
  ok {environment : Environment} {state after : State} {result : α}
    (ends : computation environment state = .ok result after) :
    (given → post result) ∧
      state.loops.Begun (effects.filterMap LinkStep.begun?) after.loops
  error {environment : Environment} {state after : State} {error : DecodeError}
    (ends : computation environment state = .error error after) :
    ∃ begun, begun <+: effects.filterMap LinkStep.begun? ∧ state.loops.Begun begun after.loops

namespace Begins

variable {given : Prop} {computation : Decode α} {rest : α → Decode β}
  {effects others : List LinkStep} {post : α → Prop} {last : β → Prop}

theorem pure {result : α} (holds : given → post result) :
    Begins given (Pure.pure result) [] post where
  ok := by
    rintro environment state _ _ ⟨⟩
    exact ⟨holds, .refl state.loops⟩
  error := by
    rintro _ _ _ _ ⟨⟩

theorem fail (error : DecodeError) (effects : List LinkStep) (post : α → Prop) :
    Begins given (throw error) effects post where
  ok := by
    rintro _ _ _ _ ⟨⟩
  error := by
    rintro environment state _ _ ⟨⟩
    exact ⟨[], List.nil_prefix, .refl state.loops⟩

theorem bind (first : Begins given computation effects post)
    (second : ∀ result, Begins (given ∧ post result) (rest result) others last) :
    Begins given (computation >>= rest) (effects ++ others) last where
  ok := fun {environment state after result} ends => by
    rcases bind_ok_iff.mp ends with ⟨between, middle, run, runRest⟩
    rcases first.ok run with ⟨holds, begun⟩
    rcases (second between).ok runRest with ⟨holdsRest, begunRest⟩
    rw [List.filterMap_append]
    exact ⟨fun known => holdsRest ⟨known, holds known⟩, begun.trans begunRest⟩
  error := fun {environment state after error} ends => by
    rw [List.filterMap_append]
    cases run : computation environment state with
    | error early middle =>
        rw [bind_of_error run] at ends
        cases ends
        rcases first.error run with ⟨begun, among, loops⟩
        exact ⟨begun, among.trans (List.prefix_append _ _), loops⟩
    | ok between middle =>
        rw [bind_of_ok run] at ends
        rcases (second between).error ends with ⟨begun, among, loops⟩
        exact ⟨_, (List.prefix_append_right_inj _).mpr among, (first.ok run).2.trans loops⟩

theorem descend (inside : Begins given computation effects post) :
    Begins given (descend computation) effects post where
  ok := fun {environment state after result} ends => by
    rcases descend_ok ends with ⟨middle, run, rfl⟩
    have begun := inside.ok run
    exact begun
  error := fun {environment state after error} ends => by
    rcases descend_error ends with same | ⟨middle, run, rfl⟩
    · rw [same]
      exact ⟨[], List.nil_prefix, .refl _⟩
    · have begun := inside.error run
      exact begun

/-- A computation that does nothing to loops. -/
theorem ofLoops (holds : ∀ {environment state result after},
      computation environment state = .ok result after → post result)
    (same : ∀ environment state,
      (finalState (computation environment state)).loops = state.loops) :
    Begins given computation [] post where
  ok := fun {environment state after result} ends => by
    have loops := same environment state
    rw [ends] at loops
    refine ⟨fun _ => holds ends, ?_⟩
    rw [show after.loops = state.loops from loops]
    exact .refl state.loops
  error := fun {environment state after error} ends => by
    have loops := same environment state
    rw [ends] at loops
    refine ⟨[], List.nil_prefix, ?_⟩
    rw [show after.loops = state.loops from loops]
    exact .refl state.loops

/-- A computation that finds or makes a symbol. -/
theorem ofLinks {computation : Decode Symbol} {id : UInt64} {post : Symbol → Prop}
    (links : ∀ environment symbols, ∃ outcome after,
      Links environment computation id symbols outcome after)
    (holds : ∀ symbol, post symbol) : Begins given computation [] post := by
  refine .ofLoops (fun _ => holds _) fun environment state => ?_
  rcases links environment state.symbols with ⟨outcome, after, links⟩
  rw [links.runs state rfl]
  cases outcome <;> rfl

theorem loop (shell : LoopNode) {inside : Decode LoopContents}
    {post : LoopContents → Prop} (contents : Begins given inside effects post) :
    Begins given (looping shell inside) (.beginLoop shell.id :: effects)
      fun filled => post filled.2 ∧ True where
  ok := fun {environment state after filled} ends => by
    have begun := LoopTable.Begun.register state.loops shell
    cases run : inside environment (state.begun shell) with
    | error error middle =>
        rw [looping_of_error run] at ends
        cases ends
    | ok result middle =>
        rw [looping_of_ok run] at ends
        cases ends
        rcases contents.ok run with ⟨holds, within⟩
        have filled := (begun.trans within).trans (.populate _ state.loops.nextNode result)
        rw [List.append_nil] at filled
        exact ⟨fun known => ⟨holds known, trivial⟩, filled⟩
  error := fun {environment state after error} ends => by
    have begun := LoopTable.Begun.register state.loops shell
    cases run : inside environment (state.begun shell) with
    | ok result middle =>
        rw [looping_of_ok run] at ends
        cases ends
    | error early middle =>
        rw [looping_of_error run] at ends
        cases ends
        rcases contents.error run with ⟨others, among, within⟩
        exact ⟨_, List.prefix_cons_inj _ |>.mpr among, begun.trans within⟩

theorem declaration {range : Range} {origin : Origin} {parent : Parent}
    {make : Nat → Decode (Tree .declarator × Tree (.list .call))}
    {post : Tree .declarator × Tree (.list .call) → Prop} (symbol : Option SymbolRecord)
    (made : ∀ node, Begins given (make node) effects post) :
    Begins given (declaring range origin parent make)
      (effects ++ Record.declareStep symbol) fun declaration =>
        ∃ node made, declaration = .declarationNode node range origin parent made.1 made.2 ∧
          post made ∧ True := by
  have declares : (Record.declareStep symbol).filterMap LinkStep.begun? = [] := by
    cases symbol <;> rfl
  constructor
  · intro environment state declaration after ends
    rw [List.filterMap_append, declares, List.append_nil]
    cases run : make state.nextNode environment state.numbered with
    | error error middle =>
        rw [declaring_of_error run] at ends
        cases ends
    | ok parts middle =>
        rcases (made state.nextNode).ok run with ⟨holds, begun⟩
        rcases declaring_of_ok run rfl with
          ⟨_, same⟩ | ⟨descriptor, same⟩ | ⟨descriptor, _, _, same⟩
        · cases same.symm.trans ends
          exact ⟨fun known => ⟨_, parts, rfl, holds known, trivial⟩, begun⟩
        · cases same.symm.trans ends
        · cases same.symm.trans ends
          exact ⟨fun known => ⟨_, parts, rfl, holds known, trivial⟩, begun⟩
  · intro environment state error after ends
    rw [List.filterMap_append, declares, List.append_nil]
    cases run : make state.nextNode environment state.numbered with
    | error early middle =>
        cases (declaring_of_error run).symm.trans ends
        have begun := (made state.nextNode).error run
        exact begun
    | ok parts middle =>
        rcases declaring_of_ok run rfl with
          ⟨_, same⟩ | ⟨descriptor, same⟩ | ⟨descriptor, _, _, same⟩
        · cases same.symm.trans ends
        · cases same.symm.trans ends
          exact ⟨_, List.prefix_refl _, ((made state.nextNode).ok run).2⟩
        · cases same.symm.trans ends

/-- Linking goes by these rules in every session. -/
theorem rules : Rules (fun _ => True) (fun _ => false) Begins where
  pure := .pure
  fail := fun effects post _ => .fail _ effects post
  bind := .bind
  descend := .descend
  symbol := fun requirement record =>
    .ofLinks (symbolFor_links requirement record) fun _ => ⟨rfl, trivial⟩
  builtin := fun _ _ _ => trivial
  jump := fun _ _ => .ofLoops (fun _ => trivial) fun _ _ => by rw [finalState_jumpTo]
  loop := fun shell _ _ _ _ => .loop shell
  declaration := fun _ _ _ _ _ _ symbol _ => .declaration symbol
  child := fun site declarator => .ofLoops
    (fun {_ state _ _} ends => by
      cases ends
      exact ⟨⟨state.nextNode, rfl⟩, trivial⟩)
    fun _ _ => rfl

end Begins

end Decode

/-! ## Requests -/

/-- The identifiers of the loops that a request begins if it succeeds, in order. -/
def Request.begun (request : Request) : List Int32 :=
  (request.items.flatMap Item.effects).filterMap LinkStep.begun?

section Requests

variable {environment : Environment} {state after : State}

theorem Request.begins (name : String) (request : Request) :
    Decode.Begins True (request.decode name) (request.items.flatMap Item.effects)
      (Response.Tallied (fun _ => True) (fun _ => false) (fun _ => True) request.items) :=
  Decode.Begins.rules.request
    (fun record => .ofLinks (Decode.resolveSymbol_links record) fun _ => trivial) name request

/-- A request that succeeds begins its loops in order. -/
theorem Request.begun_of_ok {request : Request} {response : Response}
    (answers : request.answer environment state = .ok response after) :
    state.loops.Begun request.begun after.loops := by
  rw [request.answer_eq] at answers
  exact ((request.begins environment.world.name).ok answers).2

/-- A request that fails has begun the first of its loops. -/
theorem Request.begun_of_error {request : Request} {error : DecodeError}
    (fails : request.answer environment state = .error error after) :
    ∃ begun, begun <+: request.begun ∧ state.loops.Begun begun after.loops := by
  rw [request.answer_eq] at fails
  exact (request.begins environment.world.name).error fails

/-- In a reachable session an identifier stands for the first loop that was begun
with it. -/
theorem Reachable.ordered (reachable : Reachable environment state) :
    state.loops.Ordered := by
  induction reachable with
  | start => exact fun _ => rfl
  | @step state request reachable inductionHypothesis =>
      rw [← request.finalState_answer]
      cases run : request.answer environment state with
      | ok response after => exact (Request.begun_of_ok run).ordered inductionHypothesis
      | error error after =>
          rcases Request.begun_of_error run with ⟨_, _, begun⟩
          exact begun.ordered inductionHypothesis

end Requests

end IrLink
