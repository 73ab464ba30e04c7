import IrLink.Proofs.Decode.Faithful
import IrLink.Proofs.Decode.Answer

/-!
# Checking kinds

Whether the kinds of symbols are checked decides only whether a computation ends
early because of one.  A session that does not check never ends so, and as long as a
session that checks does not, both do the same (`Decode.InStep`).  This is shown of
everything that the decoder does by rules, and carries over to requests and to runs
of several requests (`Request.answers_in_step`).
-/

namespace IrLink

/-- The environment with the choice whether kinds are checked. -/
def Environment.checking (environment : Environment) (checks : Bool) : Environment :=
  { environment with settings := { environment.settings with checkSymbolKinds := checks } }

/-- Whether an error says that the kind of a symbol does not fit. -/
def DecodeError.isMismatch : DecodeError → Bool
  | symbolKindMismatch .. => true
  | _ => false

/-- A computation ended because the kind of a symbol does not fit. -/
def Mismatched {α : Type} : EStateM.Result DecodeError State α → Prop
  | .ok _ _ => False
  | .error error _ => error.isMismatch = true

instance {α : Type} : DecidablePred (@Mismatched α)
  | .ok _ _ => .isFalse id
  | .error error _ => inferInstanceAs (Decidable (error.isMismatch = true))

namespace Decode

variable {α β : Type}

/-- A computation that does the same whether kinds are checked or not, unless a check
ends it. -/
structure InStep (computation : Decode α) : Prop where
  unchecked (environment : Environment) (state : State) :
    ¬ Mismatched (computation (environment.checking false) state)
  checked (environment : Environment) (state : State) :
    Mismatched (computation (environment.checking true) state) ∨
      computation (environment.checking true) state =
        computation (environment.checking false) state

namespace InStep

variable {computation : Decode α} {rest : α → Decode β}

/-- A computation in which the choice does not show. -/
theorem indifferent
    (matched : ∀ environment state,
      ¬ Mismatched (computation (Environment.checking environment false) state))
    (same : ∀ environment state,
      computation (Environment.checking environment true) state =
        computation (Environment.checking environment false) state) :
    InStep computation where
  unchecked := matched
  checked := fun environment state => .inr (same environment state)

theorem pure (result : α) : InStep (Pure.pure result) :=
  indifferent (fun _ _ => id) fun _ _ => rfl

theorem fail {error : DecodeError} (fits : error.isMismatch = false) :
    InStep (throw error : Decode α) :=
  indifferent (fun _ _ => Bool.eq_false_iff.mp fits) fun _ _ => rfl

theorem bind (first : InStep computation) (second : ∀ result, InStep (rest result)) :
    InStep (computation >>= rest) where
  unchecked := fun environment state => by
    have matched := first.unchecked environment state
    cases run : computation (environment.checking false) state with
    | ok result middle =>
        rw [bind_of_ok run]
        exact (second result).unchecked environment middle
    | error error middle =>
        rw [run] at matched
        rw [bind_of_error run]
        exact matched
  checked := fun environment state => by
    rcases first.checked environment state with mismatched | same
    · left
      cases run : computation (environment.checking true) state with
      | ok result middle =>
          rw [run] at mismatched
          exact mismatched.elim
      | error error middle =>
          rw [run] at mismatched
          rw [bind_of_error run]
          exact mismatched
    · cases run : computation (environment.checking true) state with
      | ok result middle =>
          rw [bind_of_ok run, bind_of_ok (same.symm.trans run)]
          exact (second result).checked environment middle
      | error error middle =>
          rw [bind_of_error run, bind_of_error (same.symm.trans run)]
          exact .inr rfl

/-- What is asked of the environment, if the choice is not asked for. -/
theorem ofEnvironment {rest : Environment → Decode α}
    (second : ∀ environment, InStep (rest environment))
    (same : ∀ environment : Environment,
      rest (environment.checking true) = rest (environment.checking false)) :
    InStep (read >>= rest) where
  unchecked := fun environment => (second _).unchecked environment
  checked := fun environment state => by
    have checked := (second (environment.checking false)).checked environment state
    change Mismatched (rest _ _ state) ∨ rest _ _ state = rest _ _ state
    rw [same]
    exact checked

/-- The limit of the nesting is the same. -/
theorem descend (inside : InStep computation) : InStep (descend computation) where
  unchecked := fun environment state => by
    have matched := inside.unchecked environment { state with depth := state.depth + 1 }
    unfold Decode.descend
    split
    · exact Bool.false_ne_true
    · cases run : computation (environment.checking false)
        { state with depth := state.depth + 1 } with
      | ok result middle => exact id
      | error error middle =>
          rw [run] at matched
          exact matched
  checked := fun environment state => by
    by_cases deep : environment.settings.maxDepth ≤ state.depth
    · have ends (checks : Bool) :
          Decode.descend computation (environment.checking checks) state =
            .error (.depthLimitExceeded environment.settings.maxDepth) state :=
        if_pos deep
      rw [ends, ends]
      exact .inr rfl
    · have ends (checks : Bool) :
          Decode.descend computation (environment.checking checks) state =
            match computation (environment.checking checks)
              { state with depth := state.depth + 1 } with
            | .ok result state => .ok result { state with depth := state.depth - 1 }
            | .error error state => .error error { state with depth := state.depth - 1 } :=
        if_neg deep
      rw [ends, ends]
      rcases inside.checked environment { state with depth := state.depth + 1 } with
        mismatched | same
      · left
        cases run : computation (environment.checking true)
          { state with depth := state.depth + 1 } with
        | ok result middle =>
            rw [run] at mismatched
            exact mismatched
        | error error middle =>
            rw [run] at mismatched
            exact mismatched
      · rw [same]
        exact .inr rfl

/-! ## Symbols -/

/-- A check is passed over where kinds are not checked. -/
theorem checkKind (symbol : UInt64) (fits : Bool) (misfit : Misfit) :
    InStep (checkKind symbol fits misfit) where
  unchecked := fun _ _ => id
  checked := fun environment state => by
    cases fits with
    | true => exact .inr rfl
    | false => exact .inl rfl

theorem recordedKind (kind : RecordedKind) : InStep (recordedKind kind) := by
  cases kind with
  | symbol kind => exact .pure kind
  | returnableBlock => exact .fail rfl

theorem resolveReference (reference : DescriptorReference) :
    InStep (resolveReference reference) := by
  refine .ofEnvironment (fun environment => ?_) fun _ => rfl
  cases environment.world.resolve? reference with
  | some descriptor => exact .pure descriptor
  | none => exact .fail rfl

theorem bindSymbol (record : SymbolRecord) (kind : SymbolKind) :
    InStep (bindSymbol record kind) := by
  unfold Decode.bindSymbol
  cases record.reference with
  | none => exact .pure none
  | some reference =>
      exact .bind (.resolveReference reference) fun _ =>
        .bind (.checkKind _ _ _) fun _ => .pure _

/-- What is known of symbols does not depend on the choice. -/
theorem get : InStep get :=
  .indifferent (fun _ _ => id) fun _ _ => rfl

theorem modify (change : State → State) : InStep (modify change) :=
  .indifferent (fun _ _ => id) fun _ _ => rfl

theorem resolveSymbol (record : SymbolRecord) : InStep (resolveSymbol record) := by
  refine .bind (.recordedKind _) fun kind => .bind .get fun state => ?_
  cases state.cachedSymbol? record.uniqueId.index with
  | some symbol => exact .bind (.checkKind _ _ _) fun _ => .pure _
  | none =>
      exact .bind (.bindSymbol _ _) fun bound => .bind .get fun _ =>
        .bind (.modify _) fun _ => .pure _

theorem symbolFor (requirement : Requirement) (record : SymbolRecord) :
    InStep (symbolFor requirement record) :=
  .bind (.resolveSymbol record) fun _ => .bind (.checkKind _ _ _) fun _ => .pure _

/-! ## Loops and declarations -/

theorem jumpTo (id : Int32) (label : Option String) : InStep (jumpTo id label) := by
  refine .bind .get fun state => ?_
  unfold State.lookupLoop
  cases state.loops.lookup? id with
  | some node => exact .pure _
  | none => exact .fail rfl

theorem freshNode : InStep freshNode :=
  .indifferent (fun _ _ => id) fun _ _ => rfl

theorem looping (shell : LoopNode) {inside : Decode LoopContents}
    (contents : InStep inside) : InStep (looping shell inside) :=
  .bind (.indifferent (fun _ _ => id) fun _ _ => rfl) fun _ =>
    .bind contents fun _ => .bind (.modify _) fun _ => .pure _

theorem registerDeclaration (declaration : Tree .declaration) :
    InStep (registerDeclaration declaration) := by
  unfold Decode.registerDeclaration
  cases declaration.backingDescriptor? with
  | none => exact .pure ()
  | some descriptor =>
      refine .bind .get fun state => ?_
      cases state.declarations.contains descriptor.id with
      | true => exact .fail rfl
      | false => exact .modify _

theorem declaring (range : Range) (origin : Origin) (parent : Parent)
    {make : Nat → Decode (Tree .declarator × Tree (.list .call))}
    (made : ∀ node, InStep (make node)) : InStep (declaring range origin parent make) :=
  .bind .freshNode fun node => .bind (made node) fun _ =>
    .bind (.registerDeclaration _) fun _ => .pure _

end InStep

/-- Linking goes by these rules. -/
theorem inStep_rules :
    Rules (fun _ => True) (fun _ => false) fun _ computation _ _ => InStep computation where
  pure := fun _ => .pure _
  fail := fun {_ _ error} _ _ unrelated => .fail <| by
    cases error with
    | symbolKindMismatch id misfit => exact absurd rfl (unrelated id misfit)
    | _ => rfl
  bind := .bind
  descend := .descend
  symbol := .symbolFor
  builtin := fun _ _ _ => trivial
  jump := .jumpTo
  loop := fun shell _ _ _ _ => .looping shell
  declaration := fun range origin parent _ _ _ _ _ => .declaring range origin parent
  child := fun site declarator => .bind .freshNode fun _ => .pure _

end Decode

/-! ## Requests -/

namespace Request

/-- A request does the same whether kinds are checked or not, unless a check ends
it. -/
theorem inStep (name : String) (request : Request) : (request.decode name).InStep :=
  @Decode.Rules.request _ _ (fun _ => True) _ True Decode.inStep_rules
    (fun record => .resolveSymbol record) name request

/-- The answers to requests that are made one after the other, each with the state
that it leaves. -/
def answers (environment : Environment) :
    State → List Request → List (EStateM.Result DecodeError State Response)
  | _, [] => []
  | state, request :: rest =>
      request.answer environment state ::
        answers environment (request.after environment state) rest

variable (environment : Environment)

/-- A session that does not check kinds finds none that does not fit. -/
theorem matched_of_unchecked (request : Request) (state : State) :
    ¬ Mismatched (request.answer (environment.checking false) state) := by
  rw [answer_eq]
  exact (request.inStep _).unchecked environment state

/-- If a session that checks kinds finds all of them fitting, one that does not check
gives the same answer and goes on from the same state. -/
theorem answer_unchecked {request : Request} {state : State}
    (matched : ¬ Mismatched (request.answer (environment.checking true) state)) :
    request.answer (environment.checking false) state =
      request.answer (environment.checking true) state := by
  rw [answer_eq] at matched ⊢
  rw [answer_eq]
  exact ((request.inStep _).checked environment state).resolve_left matched |>.symm

theorem answers_unchecked {requests : List Request} {state : State}
    (matched : ∀ answer ∈ answers (environment.checking true) state requests,
      ¬ Mismatched answer) :
    answers (environment.checking false) state requests =
      answers (environment.checking true) state requests := by
  induction requests generalizing state with
  | nil => rfl
  | cons request rest inductionHypothesis =>
      rcases List.forall_mem_cons.mp matched with ⟨first, others⟩
      have same := answer_unchecked environment first
      have after : request.after (environment.checking false) state =
          request.after (environment.checking true) state := by
        rw [← finalState_answer, ← finalState_answer, same]
      rw [answers, answers, same, after, inductionHypothesis others]

/-- Take two sessions in the same state that differ only in whether they check kinds.
The one that does not check never fails because of a kind.  If the other one does not
fail so either, then both give the same answer and go on from the same state; and so
they do in a run of requests none of which fails so. -/
theorem answers_in_step :
    (∀ request state, ¬ Mismatched (answer (environment.checking false) state request)) ∧
    (∀ request state, ¬ Mismatched (answer (environment.checking true) state request) →
      answer (environment.checking false) state request =
        answer (environment.checking true) state request) ∧
    ∀ requests state,
      (∀ answer ∈ answers (environment.checking true) state requests, ¬ Mismatched answer) →
        answers (environment.checking false) state requests =
          answers (environment.checking true) state requests :=
  ⟨matched_of_unchecked environment, fun _ _ => answer_unchecked environment,
    fun _ _ => answers_unchecked environment⟩

/-- Requests for a symbol and for a return to it. -/
def earlyReturns : List Request :=
  [.symbol ⟨.symbol .function, ⟨1000, false⟩, none⟩, .expression .earlyReturn]

theorem answers_in_step_earlyReturns :
    (∀ answer ∈ answers ⟨⟨"", .empty, [], []⟩, { checkSymbolKinds := true }⟩ .initial
      earlyReturns, ¬ Mismatched answer) ∧
    answers ⟨⟨"", .empty, [], []⟩, { checkSymbolKinds := false }⟩ .initial earlyReturns =
      answers ⟨⟨"", .empty, [], []⟩, { checkSymbolKinds := true }⟩ .initial earlyReturns := by
  have matched : ∀ answer ∈ answers ⟨⟨"", .empty, [], []⟩, { checkSymbolKinds := true }⟩
      .initial earlyReturns, ¬ Mismatched answer := by
    decide
  exact ⟨matched,
    (answers_in_step ⟨⟨"", .empty, [], []⟩, {}⟩).2.2 earlyReturns .initial matched⟩

end Request

end IrLink
