import IrLink.Proofs.Decode.Answer
import IrLink.Proofs.Decode.Settles

/-!
# Histories of sessions

The history of a session are the requests that it was asked, with the answers to
those that succeeded (`History`).  A session is settled when it is sound and
everything inside the declarations that it knows is linked in it
(`State.Settled`).  It begins so and stays so, however requests end, and whatever
it has answered stays linked (`History.settled`, `History.linked`).
-/

namespace IrLink

variable {environment : Environment} {state after : State}

/-! ## Settled sessions -/

/-- A session in which the marks of all known declarations are linked. -/
structure State.Settled (environment : Environment) (state : State) : Prop where
  sound : state.Sound
  marked : ∀ id declaration, state.Registers id declaration →
    ∀ mark ∈ declaration.ownedMarks, mark.Holds environment state

/-- An answer of which everything is linked in a session. -/
structure Response.Linked (environment : Environment) (state : State)
    (response : Response) : Prop where
  symbol : ∀ symbol, response.symbol? = some symbol → state.Knows symbol
  marks : ∀ mark ∈ response.marks, mark.Holds environment state

theorem Response.Linked.mono {response : Response} (linked : response.Linked environment state)
    (grown : state.Grown [] after) : response.Linked environment after where
  symbol := fun symbol found => grown.symbols.knows (linked.symbol symbol found)
  marks := fun mark among => (linked.marks mark among).mono grown

/-! ## The first session -/

namespace Builtin

/-- The symbols of built-ins are known from the beginning. -/
theorem symbol_known :
    ∀ builtin ∈ all, State.initial.symbols[builtin.symbol.id]? = some builtin.symbol := by
  decide

/-- A declaration that is known after built-ins were added is one of theirs, or
was known before. -/
theorem registered_of_added (builtins : List Builtin)
    {declarations : Std.TreeMap DescriptorId (Tree .declaration)} {id : DescriptorId}
    {declaration : Tree .declaration}
    (found : (builtins.foldl
      (fun declarations builtin =>
        declarations.insert builtin.symbol.descriptor.id builtin.declaration)
      declarations)[id]? = some declaration) :
    (∃ builtin ∈ builtins, builtin.declaration = declaration ∧
        builtin.symbol.descriptor.id = id) ∨
      declarations[id]? = some declaration := by
  induction builtins generalizing declarations with
  | nil => exact .inr found
  | cons builtin builtins inductionHypothesis =>
      rcases inductionHypothesis found with ⟨other, among, same⟩ | found
      · exact .inl ⟨other, .tail builtin among, same⟩
      · rw [Std.TreeMap.getElem?_insert] at found
        split at found
        · rename_i same
          cases found
          exact .inl ⟨builtin, .head builtins, rfl, Std.LawfulEqOrd.eq_of_compare same⟩
        · exact .inr found

/-- The declarations that are known from the beginning are those of built-ins. -/
theorem of_registers_initial {id : DescriptorId} {declaration : Tree .declaration}
    (registered : State.initial.Registers id declaration) :
    ∃ builtin ∈ all, builtin.declaration = declaration ∧
      builtin.symbol.descriptor.id = id := by
  rcases registered_of_added all registered with builtin | found
  · exact builtin
  · simp at found

/-- The declaration of a built-in is that of its symbol, and has its number. -/
theorem declaration_described : ∀ builtin ∈ all,
    builtin.declaration.backingDescriptor? = some builtin.symbol.descriptor ∧
      builtin.declaration.node < State.initial.nextNode := by
  decide

/-- A built-in class has its symbol inside it. -/
theorem allMarks_ofClass (number : Nat) (name : String) :
    (ofClass number name).declaration.allMarks =
      [.symbol .declaredClass (ofClass number name).symbol] := by
  have members := Tree.items_nil (c := .declaration)
  exact congrArg (fun members => [Mark.symbol .declaredClass (ofClass number name).symbol] ++
    (List.map Mark.declaration members ++ [])) members

/-- A built-in function has its symbol and that of its result inside it. -/
theorem allMarks_ofFunction (number : Nat) (name : String) (result : Symbol) :
    (ofFunction number name (Tree.plainType result)).declaration.allMarks =
      [.symbol .declaredFunction
          (ofFunction number name (Tree.plainType result)).symbol,
        .symbol .classifier result] :=
  rfl

/-- The results of built-in functions are of built-in types. -/
theorem result_builtin {entry : String × Tree .type} (among : entry ∈ functions) :
    ∃ other ∈ all, entry.2 = Tree.plainType other.symbol ∧
      Requirement.classifier.accepts other.symbol.kind = true := by
  have boolean : ∃ other ∈ all, booleanType = Tree.plainType other.symbol ∧
      Requirement.classifier.accepts other.symbol.kind = true :=
    ⟨all[3], List.getElem_mem _, rfl, rfl⟩
  have unit : ∃ other ∈ all, unitType = Tree.plainType other.symbol ∧
      Requirement.classifier.accepts other.symbol.kind = true :=
    ⟨all[2], List.getElem_mem _, rfl, rfl⟩
  simp only [functions, List.mem_cons, List.not_mem_nil, or_false] at among
  rcases among with rfl | rfl | rfl | rfl | rfl | rfl | rfl | rfl | rfl
  all_goals first | exact boolean | exact unit

/-- Inside the declarations of built-ins are symbols of built-ins only. -/
theorem inside_known {builtin : Builtin} (among : builtin ∈ all) {mark : Mark}
    (inside : mark ∈ builtin.declaration.allMarks) :
    ∃ requirement, ∃ other ∈ all, mark = .symbol requirement other.symbol ∧
      requirement.accepts other.symbol.kind = true := by
  rcases List.mem_append.mp among with klass | function
  · rcases List.mem_mapIdx.mp klass with ⟨number, inRange, rfl⟩
    rw [allMarks_ofClass, List.mem_singleton] at inside
    exact ⟨_, _, among, inside, rfl⟩
  · rcases List.mem_mapIdx.mp function with ⟨number, inRange, rfl⟩
    have listed := List.getElem_mem inRange
    generalize functions[number] = entry at among inside listed
    rcases entry with ⟨name, result⟩
    rcases result_builtin listed with ⟨other, isBuiltin, rfl, accepted⟩
    rw [allMarks_ofFunction, List.mem_pair] at inside
    rcases inside with rfl | rfl
    · exact ⟨_, _, among, rfl, rfl⟩
    · exact ⟨_, _, isBuiltin, rfl, accepted⟩

end Builtin

theorem State.initial_sound : State.initial.Sound where
  keyed := State.initial_keyed
  builtins := Builtin.symbol_known
  described := fun id declaration registered => by
    rcases Builtin.of_registers_initial registered with ⟨builtin, among, rfl, rfl⟩
    exact ⟨_, (Builtin.declaration_described builtin among).1, rfl⟩
  older := fun id declaration registered => by
    rcases Builtin.of_registers_initial registered with ⟨builtin, among, rfl, rfl⟩
    exact (Builtin.declaration_described builtin among).2

/-- A session begins settled. -/
theorem State.initial_settled (environment : Environment) :
    State.initial.Settled environment where
  sound := State.initial_sound
  marked := fun id declaration registered mark among => by
    rcases Builtin.of_registers_initial registered with ⟨builtin, isBuiltin, rfl, rfl⟩
    rcases List.mem_append.mp among with own | inside
    · rcases List.mem_singleton.mp own with rfl
      intro descriptor described
      rw [(Builtin.declaration_described builtin isBuiltin).1] at described
      cases described
      exact registered
    · rcases Builtin.inside_known isBuiltin inside with
        ⟨requirement, other, known, rfl, accepted⟩
      exact ⟨Builtin.symbol_known other known, fun _ => accepted⟩

/-! ## Requests -/

/-- Answering a request leaves a session sound, and the answer is linked in every
session that goes on from there. -/
theorem Request.settles (environment : Environment) {final : State} (sound : final.Sound)
    (request : Request) :
    Decode.Settles environment final True (request.decode environment.world.name)
      (request.items.flatMap Item.effects)
      (Response.Tallied (·.Holds environment final) final.describes final.Knows
        request.items) :=
  (Decode.Settles.rules sound).request .resolveSymbol environment.world.name request

/-- The footprint of a request. -/
theorem Request.footprint (environment : Environment) (sound : state.Sound)
    (request : Request) : state.Footprint (request.after environment state) := by
  rw [← request.finalState_answer, request.answer_eq]
  exact (request.settles environment sound).footprint sound

/-- What a request makes known is linked in the session that it leaves. -/
theorem Request.news (sound : state.Sound) (request : Request) :
    State.News environment (request.after environment state) state
      (request.after environment state) := by
  have footprint := request.footprint environment sound
  have news := (request.settles environment footprint.sound).news trivial sound
    (List.forall_mem_nil _)
  rw [← request.answer_eq, request.finalState_answer] at news
  exact news (.refl _ [])

/-- A request leaves a session settled. -/
theorem Request.settled (settled : state.Settled environment) (request : Request) :
    (request.after environment state).Settled environment := by
  have footprint := request.footprint environment settled.sound
  refine ⟨footprint.sound, fun id declaration registered mark among => ?_⟩
  rcases request.news settled.sound id declaration registered with known | marked
  · exact (settled.marked id declaration known mark among).mono footprint.grown
  · exact marked mark among

/-- An answer is linked in the session that it leaves, and as many declarations
become known as the request makes known with a real descriptor. -/
theorem Request.answered (sound : state.Sound) {request : Request} {response : Response}
    (answers : request.answer environment state = .ok response after) :
    response.Tallied (·.Holds environment after) after.describes after.Knows request.items ∧
      after.declarationCount = state.declarationCount +
        (request.items.flatMap Item.effects).countP (·.declares after.describes) := by
  have footprint := request.footprint environment sound
  rw [← request.finalState_answer, answers] at footprint
  have ends := (request.answer_eq environment state).symm.trans answers
  exact (request.settles environment footprint.sound).ok trivial sound (List.forall_mem_nil _) ends
    (.refl after [])

/-! ## Histories -/

/-- The states that a session comes to, with the answers that it has given. -/
inductive History (environment : Environment) : State → List Response → Prop
  | start : History environment .initial []
  | answered {state after : State} {responses : List Response} {response : Response}
      (history : History environment state responses) (request : Request)
      (answers : request.answer environment state = .ok response after) :
      History environment after (response :: responses)
  | failed {state after : State} {responses : List Response} {error : DecodeError}
      (history : History environment state responses) (request : Request)
      (fails : request.answer environment state = .error error after) :
      History environment after responses

namespace History

variable {responses : List Response}

/-- The states of a history are those that requests lead to. -/
theorem reachable (history : History environment state responses) :
    Reachable environment state := by
  induction history with
  | start => exact .start
  | answered history request answers inductionHypothesis =>
      have step := inductionHypothesis.step request
      rw [← request.finalState_answer, answers] at step
      exact step
  | failed history request fails inductionHypothesis =>
      have step := inductionHypothesis.step request
      rw [← request.finalState_answer, fails] at step
      exact step

end History

namespace Reachable

/-- A reachable session is settled. -/
theorem settled (reachable : Reachable environment state) : state.Settled environment := by
  induction reachable with
  | start => exact State.initial_settled environment
  | step request reachable inductionHypothesis => exact request.settled inductionHypothesis

end Reachable

namespace History

variable {responses : List Response}

/-- Whatever a session has answered stays linked in it. -/
theorem linked (history : History environment state responses) :
    ∀ response ∈ responses, response.Linked environment state := by
  induction history with
  | start => exact List.forall_mem_nil _
  | @answered state after responses response history request answers inductionHypothesis =>
      have sound := history.reachable.settled.sound
      have grown := (request.footprint environment sound).grown
      rw [← request.finalState_answer, answers] at grown
      have answered := (Request.answered sound answers).1
      refine List.forall_mem_cons.mpr ⟨⟨answered.symbol, answered.tally.holds⟩, ?_⟩
      exact fun response among => (inductionHypothesis response among).mono grown
  | @failed state after responses error history request fails inductionHypothesis =>
      have sound := history.reachable.settled.sound
      have grown := (request.footprint environment sound).grown
      rw [← request.finalState_answer, fails] at grown
      exact fun response among => (inductionHypothesis response among).mono grown

end History

end IrLink
