import IrLink.Proofs.Record.Layout

/-!
# Effects of steps

What the steps of linking do can be said without trees.  A `View` keeps of a
session its symbols, the descriptors that have a declaration, and the
identifiers that have a loop; `LinkStep.perform` says what one step does to
it, and `perform` what a list of steps does.
-/

namespace IrLink

/-- Where only equal things compare as equal, comparing them tests equality. -/
theorem compare_beq_eq {α : Type} [Ord α] [Std.LawfulEqOrd α] [BEq α] [LawfulBEq α]
    (a b : α) : (compare a b == .eq) = (a == b) := by
  rw [Bool.eq_iff_iff, beq_iff_eq, beq_iff_eq, Std.LawfulEqOrd.compare_eq_iff_eq]

/-- What steps can see of a session. -/
structure View where
  symbols : Std.TreeMap UInt64 Symbol
  /-- Whether a declaration is known for a descriptor. -/
  declared : DescriptorId → Bool
  /-- Whether a loop is registered for an identifier. -/
  loops : Int32 → Bool

namespace View

/-- The view with other symbols. -/
def withSymbols (view : View) (state : State) : View :=
  { view with symbols := state.symbols }

/-- A state in which only the symbols are those of a view. -/
def state (view : View) : State :=
  ⟨view.symbols, ∅, .empty, 0, 0⟩

end View

/-- What steps can see of the state of a session. -/
def State.view (state : State) : View where
  symbols := state.symbols
  declared := state.declarations.contains
  loops := state.loops.registered.contains

/-- How steps end: with the view that they leave, and an error if one fails. -/
abbrev Outcome := EStateM.Result DecodeError View Unit

/-- What a step does. -/
def LinkStep.perform (environment : Environment) (view : View) : LinkStep → Outcome
  | .enter depth =>
      if environment.settings.maxDepth ≤ depth then
        .error (.depthLimitExceeded environment.settings.maxDepth) view
      else
        .ok () view
  | .fail error => .error error view
  | .use requirement record =>
      match Decode.symbolFor requirement record environment view.state with
      | .ok _ state => .ok () (view.withSymbols state)
      | .error error state => .error error (view.withSymbols state)
  | .beginLoop id => .ok () { view with loops := fun other => id == other || view.loops other }
  | .jump id =>
      if view.loops id then .ok () view else .error (.danglingLoopReference id) view
  | .declare id =>
      match view.symbols[id]? with
      | none => .ok () view
      | some symbol =>
          if symbol.descriptor.isPlaceholder then
            .ok () view
          else if view.declared symbol.descriptor.id then
            .error (.duplicateDeclaration symbol.descriptor) view
          else
            .ok () { view with
              declared := fun other => symbol.descriptor.id == other || view.declared other }

/-- What steps do one after the other, until one fails. -/
def perform (environment : Environment) : List LinkStep → View → Outcome
  | [], view => .ok () view
  | step :: rest, view =>
      match step.perform environment view with
      | .ok _ view => perform environment rest view
      | .error error view => .error error view

section Perform

variable {environment : Environment} {view next : View} {error : DecodeError}
  {steps rest : List LinkStep}

theorem perform_singleton (step : LinkStep) :
    perform environment [step] view = step.perform environment view := by
  rw [perform]
  cases step.perform environment view <;> rfl

/-- Steps are carried out one after the other. -/
theorem perform_cons_ok_iff {step : LinkStep} :
    perform environment (step :: steps) view = .ok () next ↔
      ∃ middle, step.perform environment view = .ok () middle ∧
        perform environment steps middle = .ok () next := by
  rw [perform]
  cases performed : step.perform environment view with
  | ok _ middle =>
      constructor
      · intro rest
        exact ⟨middle, rfl, rest⟩
      · rintro ⟨_, ⟨⟩, rest⟩
        exact rest
  | error error middle => exact iff_of_false nofun fun ⟨_, impossible, _⟩ => nomatch impossible

theorem perform_append_of_ok (first : perform environment steps view = .ok () next) :
    perform environment (steps ++ rest) view = perform environment rest next := by
  induction steps generalizing view with
  | nil =>
      cases first
      rfl
  | cons step steps inductionHypothesis =>
      simp only [List.cons_append, perform] at first ⊢
      cases performed : step.perform environment view with
      | ok _ middle =>
          rw [performed] at first
          exact inductionHypothesis first
      | error _ _ => simp [performed] at first

theorem perform_append_of_error
    (first : perform environment steps view = .error error next) :
    perform environment (steps ++ rest) view = .error error next := by
  induction steps generalizing view with
  | nil => cases first
  | cons step steps inductionHypothesis =>
      simp only [List.cons_append, perform] at first ⊢
      cases performed : step.perform environment view with
      | ok _ middle =>
          rw [performed] at first
          exact inductionHypothesis first
      | error _ _ => simpa [performed] using first

end Perform

end IrLink
