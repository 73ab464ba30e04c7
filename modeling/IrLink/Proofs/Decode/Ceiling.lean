import IrLink.Proofs.Decode.Acceptance
import IrLink.Proofs.Decode.Checking
import IrLink.Proofs.Decode.Dangling

/-!
# The limit of the nesting

Linking fails because of the limit exactly where a record is nested deeper than the
limit, unless it fails earlier (`Decode.build_ceiling`).  Of two limits the smaller
one decides only whether linking ends early: if it does not, both sessions do the same
(`Decode.Capped`).  However linking ends, the session is at the nesting at which it
began, so between requests it is inside nothing (`Reachable.depth_eq_zero`).
-/

namespace IrLink

/-- The environment with a limit of the nesting. -/
def Environment.limited (environment : Environment) (limit : Nat) : Environment :=
  { environment with settings := { environment.settings with maxDepth := limit } }

/-- Between requests nothing is being built. -/
theorem Reachable.depth_eq_zero {environment : Environment} {state : State}
    (reachable : Reachable environment state) : state.depth = 0 := by
  induction reachable with
  | start => rfl
  | step request before inductionHypothesis =>
      have kept := request.relates (Decode.kept_transition environment) _ before.keyed
      exact kept.depth.trans inductionHypothesis

/-! ## Two limits -/

namespace Decode

variable {α β : Type}

/-- A computation that under the smaller of two limits fails because of it, or does
the same as under the greater one. -/
def Capped (computation : Decode α) : Prop :=
  ∀ (environment : Environment) (state : State) (limit greater : Nat), limit ≤ greater →
    (∃ after, computation (environment.limited limit) state =
        .error (.depthLimitExceeded limit) after) ∨
      computation (environment.limited limit) state =
        computation (environment.limited greater) state

namespace Capped

variable {computation : Decode α} {rest : α → Decode β}

/-- A computation in which the limit does not show. -/
theorem indifferent
    (same : ∀ (environment : Environment) (state : State) (limit greater : Nat),
      computation (environment.limited limit) state =
        computation (environment.limited greater) state) : Capped computation :=
  fun environment state limit greater _ => .inr (same environment state limit greater)

theorem bind (first : Capped computation) (second : ∀ result, Capped (rest result)) :
    Capped (computation >>= rest) := by
  intro environment state limit greater le
  rcases first environment state limit greater le with ⟨after, fails⟩ | same
  · exact .inl ⟨after, bind_of_error fails⟩
  · cases run : computation (environment.limited limit) state with
    | ok result middle =>
        rw [bind_of_ok run, bind_of_ok (same.symm.trans run)]
        exact second result environment middle limit greater le
    | error error middle =>
        rw [bind_of_error run, bind_of_error (same.symm.trans run)]
        exact .inr rfl

/-- One level deeper, the smaller limit is the first to be reached. -/
theorem descend (inside : Capped computation) : Capped (descend computation) := by
  intro environment state limit greater le
  rw [Decode.descend, Decode.descend]
  by_cases deep : limit ≤ state.depth
  · rw [if_pos (show (environment.limited limit).settings.maxDepth ≤ state.depth from deep)]
    exact .inl ⟨state, rfl⟩
  · have above : ¬ (environment.limited greater).settings.maxDepth ≤ state.depth :=
      fun below => deep (Nat.le_trans le below)
    rw [if_neg (show ¬ (environment.limited limit).settings.maxDepth ≤ state.depth from deep),
      if_neg above]
    rcases inside environment { state with depth := state.depth + 1 } limit greater le with
      ⟨after, fails⟩ | same
    · rw [fails]
      exact .inl ⟨_, rfl⟩
    · rw [same]
      exact .inr rfl

theorem symbolFor (requirement : Requirement) (record : SymbolRecord) :
    Capped (symbolFor requirement record) :=
  .indifferent fun _ _ _ _ =>
    symbolFor_congr requirement rfl rfl rfl fun _ => ⟨rfl, fun _ _ => rfl⟩

theorem looping (shell : LoopNode) {inside : Decode LoopContents}
    (contents : Capped inside) : Capped (looping shell inside) :=
  .bind (.indifferent fun _ _ _ _ => rfl) fun _ =>
    .bind contents fun _ =>
      .bind (.indifferent fun _ _ _ _ => rfl) fun _ => .indifferent fun _ _ _ _ => rfl

theorem declaring (range : Range) (origin : Origin) (parent : Parent)
    {make : Nat → Decode (Tree .declarator × Tree (.list .call))}
    (made : ∀ node, Capped (make node)) : Capped (declaring range origin parent make) :=
  .bind (.indifferent fun _ _ _ _ => rfl) fun node => .bind (made node) fun _ =>
    .bind (.indifferent fun _ _ _ _ => registerDeclaration_congr _) fun _ =>
      .indifferent fun _ _ _ _ => rfl

end Capped

/-- Linking goes by these rules. -/
theorem capped_rules :
    Rules (fun _ => True) (fun _ => false) fun _ computation _ _ => Capped computation where
  pure := fun _ => .indifferent fun _ _ _ _ => rfl
  fail := fun _ _ _ => .indifferent fun _ _ _ _ => rfl
  bind := .bind
  descend := .descend
  symbol := .symbolFor
  builtin := fun _ _ _ => trivial
  jump := fun id label => .indifferent fun _ _ _ _ => jumpTo_congr id label
  loop := fun shell _ _ _ _ => .looping shell
  declaration := fun range origin parent _ _ _ _ _ => .declaring range origin parent
  child := fun _ _ => .indifferent fun _ _ _ _ => rfl

end Decode

/-- Where nothing is asked, everything from above is as is asked. -/
theorem Context.holds_true : {c : Category} → (context : Context c) →
    context.Holds fun _ => True := by
  intro c
  induction c with
  | list c inductionHypothesis => exact inductionHypothesis
  | option c inductionHypothesis => exact inductionHypothesis
  | operation => exact fun _ _ _ => trivial
  | _ => exact fun _ => trivial

/-! ## Steps -/

section Steps

variable {environment : Environment} {view next : View} {step : LinkStep}
  {steps : List LinkStep}

/-- A step that begins a level too deep can not be carried out. -/
theorem LinkStep.shallow_of_perform
    (performed : step.perform environment view = .ok () next) :
    step.Shallow environment.settings.maxDepth := by
  cases step with
  | enter depth =>
      rw [perform] at performed
      split at performed
      · cases performed
      · rename_i shallow
        exact Nat.lt_of_not_le shallow
  | _ => trivial

/-- Steps that were carried out begin no level too deep. -/
theorem shallow_of_perform (performed : perform environment steps view = .ok () next) :
    ∀ step ∈ steps, step.Shallow environment.settings.maxDepth := by
  intro step among
  rcases (exists_reaches_iff_mem performed).mpr among with ⟨before, middle, reaches⟩
  rcases reaches.among with ⟨after, rfl⟩
  rw [List.append_assoc, perform_append_of_ok reaches.runs, List.singleton_append,
    perform] at performed
  cases carried : step.perform environment middle with
  | ok _ _ => exact LinkStep.shallow_of_perform carried
  | error _ _ =>
      rw [carried] at performed
      cases performed

/-- A step fails because of the limit only where it begins a level too deep, or is a
failure by itself. -/
theorem LinkStep.not_shallow_of_perform {limit : Nat}
    (unrecorded : step ≠ .fail (.depthLimitExceeded limit))
    (fails : step.perform environment view = .error (.depthLimitExceeded limit) next) :
    ¬ step.Shallow environment.settings.maxDepth := by
  cases step with
  | enter depth =>
      rw [perform] at fails
      split at fails
      · rename_i deep
        exact Nat.not_lt_of_le deep
      · cases fails
  | fail error =>
      cases fails
      exact absurd rfl unrecorded
  | use requirement record =>
      rw [perform] at fails
      split at fails
      · cases fails
      · rename_i run
        cases fails
        cases Decode.isOfSymbol_of_symbolFor run
  | beginLoop id => cases fails
  | jump id =>
      rw [perform] at fails
      split at fails <;> cases fails
  | declare id =>
      rw [perform] at fails
      split at fails
      · cases fails
      · split at fails
        · cases fails
        · split at fails <;> cases fails

/-- Steps that begin no level too deep do not fail because of the limit. -/
theorem perform_ne_depthLimitExceeded {limit : Nat}
    (unrecorded : .fail (.depthLimitExceeded limit) ∉ steps)
    (shallow : ∀ step ∈ steps, step.Shallow environment.settings.maxDepth) :
    perform environment steps view ≠ .error (.depthLimitExceeded limit) next := by
  intro fails
  rcases perform_eq_error_iff.mp fails with ⟨before, step, middle, reaches, fails⟩
  have among : step ∈ steps :=
    reaches.among.subset (List.mem_append_right before (List.mem_singleton_self step))
  refine LinkStep.not_shallow_of_perform ?_ fails (shallow step among)
  rintro rfl
  exact unrecorded among

end Steps

/-! ## Records -/

namespace Decode

variable {environment : Environment} {state after : State} {c : Category}
  {record : Record c} {context : Context c}

/-- A record that is not nested too deep does not fail because of the limit. -/
theorem build_ne_depthLimitExceeded (keyed : state.Keyed)
    (nests : state.depth + record.nesting ≤ environment.settings.maxDepth) (limit : Nat) :
    build record context environment state ≠ .error (.depthLimitExceeded limit) after := by
  intro fails
  have failed := ((build_follows record context).error keyed fails).1
  rw [List.flatMap_singleton] at failed
  refine perform_ne_depthLimitExceeded (fun recorded => ?_) ?_ failed
  · exact nomatch record.isRefusal_of_trace state.depth recorded
  · exact (record.shallow_iff state.depth environment.settings.maxDepth).mpr (.inr nests)

/-- A record that is nested too deep is not linked. -/
theorem build_ne_ok (keyed : state.Keyed)
    (nests : environment.settings.maxDepth < state.depth + record.nesting)
    (nested : record.nesting ≠ 0) (tree : Tree c.built) :
    build record context environment state ≠ .ok tree after := by
  intro ends
  rcases (build_ok_iff keyed).mp ⟨tree, after, ends⟩ with ⟨next, performed⟩
  have shallow := (record.shallow_iff _ _).mp (shallow_of_perform performed)
  omega

/-- The limit of the nesting is exact, and does not show otherwise.  In a reachable state
of which the session builds nothing, take any record and any limit.  Linking the record
leaves the nesting at which it began.  It does not fail because of the limit if the record
is not nested deeper than the limit, and does not succeed if it is.  Under a greater limit
it does the same, unless it failed because of the smaller one. -/
theorem build_ceiling (reachable : Reachable environment state) (record : Record c)
    (context : Context c) (limit : Nat) :
    state.depth = 0 ∧
    (finalState (build record context (environment.limited limit) state)).depth =
      state.depth ∧
    (record.nesting ≤ limit → ∀ exceeded after,
      build record context (environment.limited limit) state ≠
        .error (.depthLimitExceeded exceeded) after) ∧
    (limit < record.nesting → ∀ tree after,
      build record context (environment.limited limit) state ≠ .ok tree after) ∧
    ∀ greater, limit ≤ greater →
      (∃ after, build record context (environment.limited limit) state =
          .error (.depthLimitExceeded limit) after) ∨
        build record context (environment.limited limit) state =
          build record context (environment.limited greater) state := by
  have outside := reachable.depth_eq_zero
  refine ⟨outside, ?_, ?_, ?_, ?_⟩
  · exact ((build_follows record context).kept reachable.keyed).depth
  · intro nests exceeded after
    refine build_ne_depthLimitExceeded reachable.keyed ?_ exceeded
    rw [outside, Nat.zero_add]
    exact nests
  · intro nests tree after
    refine build_ne_ok reachable.keyed ?_ (by omega) tree
    rw [outside, Nat.zero_add]
    exact nests
  · intro greater le
    have capped : Capped (build record context) :=
      build_tallied capped_rules record context fun _ : True => context.holds_true
    exact capped environment state limit greater le

/-- A return of a constant is nested twice: one level is too few, two are enough, and
more make no difference. -/
theorem build_ceiling_earlyReturn :
    Record.earlyReturn.nesting = 2 ∧
    (∀ tree after, build Record.earlyReturn ()
      (Environment.limited ⟨⟨"", .empty, [], []⟩, {}⟩ 1) .initial ≠ .ok tree after) ∧
    (∀ exceeded after, build Record.earlyReturn ()
      (Environment.limited ⟨⟨"", .empty, [], []⟩, {}⟩ 2) .initial ≠
        .error (.depthLimitExceeded exceeded) after) := by
  have nests : Record.earlyReturn.nesting = 2 := by
    simp [Record.earlyReturn, Record.nesting_eq, Record.layout, Item.nesting, Item.use,
      Item.steps, Record.constantCheck, RecordedConstant.value?, Category.takesLevel]
  have begun : Reachable ⟨⟨"", .empty, [], []⟩, {}⟩ .initial := .start
  exact ⟨nests,
    (build_ceiling begun Record.earlyReturn () 1).2.2.2.1 (by omega),
    (build_ceiling begun Record.earlyReturn () 2).2.2.1 (by omega)⟩

end Decode

end IrLink
