import IrLink.Proofs.Decode.Answer

/-!
# Steps that are reached

A step is reached when all steps before it are carried out (`Reaches`).  Steps fail
at the one that is reached and fails (`perform_eq_error_iff`), and an identifier has
a loop afterwards if it had one before or a step that begins one was reached
(`loops_perform_iff`).

A request follows its items as a record follows its layout (`Request.follows`), so
that the same can be said of its steps, `Request.trace`.  The trees of its answer
have the shapes of the records that it links (`Request.Shapes`).
-/

namespace IrLink

/-! ## Steps -/

/-- The view that an outcome leaves. -/
def Outcome.view : Outcome → View
  | .ok _ view => view
  | .error _ view => view

/-- One of some steps is reached with a view when the steps before it are carried
out. -/
structure Reaches (environment : Environment) (view : View) (steps before : List LinkStep)
    (step : LinkStep) (next : View) : Prop where
  runs : perform environment before view = .ok () next
  among : before ++ [step] <+: steps

section Steps

variable {environment : Environment} {view next : View} {first step : LinkStep}
  {steps rest before : List LinkStep} {error : DecodeError} {id : Int32}

theorem not_reaches_nil : ¬ Reaches environment view [] before step next := fun reaches => by
  have among := List.prefix_nil.mp reaches.among
  simp at among

/-- The first step is reached, and the others when it is carried out. -/
theorem reaches_cons_iff :
    Reaches environment view (first :: rest) before step next ↔
      (before = [] ∧ step = first ∧ view = next) ∨
        ∃ middle tail, before = first :: tail ∧
          first.perform environment view = .ok () middle ∧
          Reaches environment middle rest tail step next := by
  constructor
  · rintro ⟨runs, among⟩
    cases before with
    | nil =>
        cases runs
        exact .inl ⟨rfl, (List.cons_prefix_cons.mp among).1, rfl⟩
    | cons head tail =>
        rcases List.cons_prefix_cons.mp among with ⟨rfl, within⟩
        rw [perform] at runs
        cases performed : head.perform environment view with
        | ok _ middle =>
            rw [performed] at runs
            exact .inr ⟨middle, tail, rfl, rfl, runs, within⟩
        | error early middle =>
            rw [performed] at runs
            cases runs
  · rintro (⟨rfl, rfl, rfl⟩ | ⟨middle, tail, rfl, performed, reaches⟩)
    · exact ⟨rfl, List.cons_prefix_cons.mpr ⟨rfl, List.nil_prefix⟩⟩
    · refine ⟨?_, List.cons_prefix_cons.mpr ⟨rfl, reaches.among⟩⟩
      rw [perform, performed]
      exact reaches.runs

/-- Steps fail at the one that is reached and fails. -/
theorem perform_eq_error_iff :
    perform environment steps view = .error error next ↔
      ∃ before step middle, Reaches environment view steps before step middle ∧
        step.perform environment middle = .error error next := by
  induction steps generalizing view with
  | nil => simp [perform, not_reaches_nil]
  | cons first rest inductionHypothesis =>
      simp only [reaches_cons_iff]
      rw [perform]
      cases performed : first.perform environment view with
      | ok _ middle =>
          rw [inductionHypothesis]
          constructor
          · rintro ⟨before, step, last, reaches, fails⟩
            exact ⟨_, step, last, .inr ⟨middle, before, rfl, rfl, reaches⟩, fails⟩
          · rintro ⟨_, step, last, ⟨-, rfl, rfl⟩ | ⟨_, tail, -, ⟨⟩, reaches⟩, fails⟩
            · cases performed.symm.trans fails
            · exact ⟨tail, step, last, reaches, fails⟩
      | error early middle =>
          constructor
          · intro fails
            exact ⟨[], first, view, .inl ⟨rfl, rfl, rfl⟩, performed.trans fails⟩
          · rintro ⟨_, step, last, ⟨-, rfl, rfl⟩ | ⟨_, tail, -, ⟨⟩, -⟩, fails⟩
            exact performed.symm.trans fails

/-- A step begins a loop for an identifier if it says so, and changes no other. -/
theorem LinkStep.loops_perform_iff :
    (step.perform environment view).view.loops id = true ↔
      view.loops id = true ∨ step = .beginLoop id := by
  cases step with
  | enter depth =>
      rw [perform]
      split <;> simp [Outcome.view]
  | fail error => simp [perform, Outcome.view]
  | use requirement record =>
      rw [perform]
      split <;> simp [Outcome.view, View.withSymbols]
  | beginLoop other => simp [perform, Outcome.view, or_comm]
  | jump other =>
      rw [perform]
      split <;> simp [Outcome.view]
  | declare other =>
      rw [perform]
      split
      · simp [Outcome.view]
      · split
        · simp [Outcome.view]
        · split <;> simp [Outcome.view]

/-- An identifier has a loop after some steps if it had one before or one was begun
for it, however the steps end. -/
theorem loops_perform_iff :
    (perform environment steps view).view.loops id = true ↔
      view.loops id = true ∨
        ∃ before next, Reaches environment view steps before (.beginLoop id) next := by
  induction steps generalizing view with
  | nil => simp [perform, Outcome.view, not_reaches_nil]
  | cons first rest inductionHypothesis =>
      have own : (first.perform environment view).view.loops id = true ↔
          view.loops id = true ∨ first = .beginLoop id :=
        LinkStep.loops_perform_iff
      simp only [reaches_cons_iff]
      rw [perform]
      cases performed : first.perform environment view with
      | ok _ middle =>
          rw [performed] at own
          rw [inductionHypothesis, show middle.loops id = true ↔ _ from own, or_assoc]
          refine or_congr_right ?_
          constructor
          · rintro (rfl | ⟨before, next, reaches⟩)
            · exact ⟨[], view, .inl ⟨rfl, rfl, rfl⟩⟩
            · exact ⟨_, next, .inr ⟨middle, before, rfl, rfl, reaches⟩⟩
          · rintro ⟨_, next, ⟨-, rfl, -⟩ | ⟨_, tail, -, ⟨⟩, reaches⟩⟩
            · exact .inl rfl
            · exact .inr ⟨tail, next, reaches⟩
      | error early middle =>
          rw [performed] at own
          rw [show (Outcome.view (.error early middle)).loops id = true ↔ _ from own]
          refine or_congr_right ?_
          constructor
          · rintro rfl
            exact ⟨[], view, .inl ⟨rfl, rfl, rfl⟩⟩
          · rintro ⟨_, next, ⟨-, rfl, -⟩ | ⟨_, tail, -, ⟨⟩, -⟩⟩
            rfl

/-- Where all steps are carried out, all are reached. -/
theorem exists_reaches_iff_mem (runs : perform environment steps view = .ok () next) :
    (∃ before middle, Reaches environment view steps before step middle) ↔ step ∈ steps := by
  constructor
  · rintro ⟨before, middle, reaches⟩
    exact reaches.among.subset (List.mem_append_right before (List.mem_singleton_self step))
  · intro among
    rcases List.append_of_mem among with ⟨before, after, rfl⟩
    cases early : perform environment before view with
    | ok _ middle =>
        refine ⟨before, middle, early, after, ?_⟩
        rw [List.append_assoc, List.singleton_append]
    | error error middle =>
        rw [perform_append_of_error early] at runs
        cases runs

/-- A step is reached without a loop for an identifier if there was none and none was
begun before. -/
theorem Reaches.loops_eq_false_iff
    (reaches : Reaches environment view steps before step next) :
    next.loops id = false ↔ view.loops id = false ∧ .beginLoop id ∉ before := by
  have begun : (perform environment before view).view.loops id = true ↔
      view.loops id = true ∨ .beginLoop id ∈ before := by
    rw [← exists_reaches_iff_mem reaches.runs]
    exact loops_perform_iff
  rw [reaches.runs] at begun
  rw [← Bool.not_eq_true, ← Bool.not_eq_true, ← not_or]
  exact not_congr begun

end Steps

/-! ## Computations -/

/-- The view of a state knows the loops that are registered in it. -/
theorem State.view_loops (state : State) (id : Int32) :
    state.view.loops id = (state.loops.lookup? id).isSome :=
  Std.TreeMap.contains_eq_isSome_getElem?

namespace Decode

variable {α : Type} {environment : Environment} {state : State}

namespace Follows

variable {computation : Decode α} {items : List Item} {post : α → State → Prop}
  (follows : Follows environment state computation items post) (keyed : state.Keyed)

include follows keyed

/-- A computation that follows items leaves what their steps leave. -/
theorem view_finalState :
    (finalState (computation environment state)).view =
      (perform environment (items.flatMap (Item.trace state.depth)) state.view).view := by
  cases run : computation environment state with
  | ok result after =>
      rw [(follows.ok keyed run).1]
      rfl
  | error error after =>
      rw [(follows.error keyed run).1]
      rfl

/-- A computation that follows items fails as their steps do. -/
theorem error_iff {error : DecodeError} {view : View} :
    (∃ after, computation environment state = .error error after ∧ after.view = view) ↔
      perform environment (items.flatMap (Item.trace state.depth)) state.view =
        .error error view := by
  constructor
  · rintro ⟨after, fails, rfl⟩
    exact (follows.error keyed fails).1
  · intro fails
    cases run : computation environment state with
    | ok result after =>
        rw [(follows.ok keyed run).1] at fails
        cases fails
    | error early after =>
        rw [(follows.error keyed run).1] at fails
        cases fails
        exact ⟨after, rfl, rfl⟩

end Follows

end Decode

/-! ## Requests -/

/-- A record became a tree of its shape. -/
def Item.Becomes : Item → Node → Prop
  | @Item.part _ record, root => ∃ context tree,
      root = ⟨tree⟩ ∧ record.shape? (Context.shape context) = some (Tree.shape tree)
  | .step _, _ => False

/-- The trees of an answer have the shapes of the records of its request. -/
def Request.Shapes (request : Request) (response : Response) : Prop :=
  List.Forall₂ Item.Becomes request.items response.roots

/-- The steps of a request, in order. -/
def Request.trace (request : Request) (depth : Nat) : List LinkStep :=
  request.items.flatMap (Item.trace depth)

namespace Decode

variable {environment : Environment} {state : State}

theorem build_becomes {c : Category} (record : Record c) (context : Context c) :
    Follows environment state (build record context) [.part record]
      (fun tree _ => (Item.part record).Becomes ⟨tree⟩) :=
  (build_follows record context).weaken fun tree _ built =>
    ⟨context, tree, rfl, built.shape⟩

/-- Linking the declaration that a source has follows its item. -/
theorem sourced_follows (source : Source) (file : String) (id : UniqueId) :
    Follows environment state (sourced source file id) [Request.sourceItem source id]
      (fun tree _ => (Request.sourceItem source id).Becomes ⟨tree⟩) := by
  unfold sourced Request.sourceItem
  cases source.declaration id with
  | ok record => exact build_becomes (c := .declaration) record (Parent.file file)
  | error error => exact .fail error []

/-- Linking declarations one after the other follows their items. -/
theorem allSourced_follows (source : Source) (file : String) (ids : List UniqueId) :
    Follows environment state (allSourced source file ids)
      (ids.map (Request.sourceItem source)) fun trees _ =>
        List.Forall₂ Item.Becomes (ids.map (Request.sourceItem source))
          (trees.map fun tree => ⟨tree⟩) := by
  induction ids generalizing state with
  | nil => exact .pure .nil
  | cons id rest inductionHypothesis =>
      refine .bind (sourced_follows source file id) fun head after _ first => ?_
      exact inductionHypothesis.map fun tail _ _ others => .cons first others

/-- Linking a file follows its items. -/
theorem sourcedFile_follows (source : Source) (record : FileRecord) :
    Follows environment state (sourcedFile source record) (Request.fileItems source record)
      fun file _ => List.Forall₂ Item.Becomes (Request.fileItems source record)
        (file.declarations.map fun tree => ⟨tree⟩) :=
  (allSourced_follows source record.name record.declarations).map fun _ _ _ shapes => shapes

/-- Linking files one after the other follows their items. -/
theorem sourcedFiles_follows (source : Source) (records : List FileRecord) :
    Follows environment state (sourcedFiles source records)
      (records.flatMap (Request.fileItems source)) fun files _ =>
        List.Forall₂ Item.Becomes (records.flatMap (Request.fileItems source))
          ((files.flatMap (·.declarations)).map fun tree => ⟨tree⟩) := by
  induction records generalizing state with
  | nil => exact .pure .nil
  | cons record rest inductionHypothesis =>
      refine .append (sourcedFile_follows source record) fun head after _ first => ?_
      refine inductionHypothesis.map fun tail _ _ others => ?_
      rw [List.flatMap_cons, List.flatMap_cons, List.map_append]
      exact List.rel_append first others

/-- Linking a module follows its items. -/
theorem sourcedModule_follows (name : String) (source : Source) (record : ModuleRecord) :
    Follows environment state (sourcedModule name source record)
      (Request.moduleItems source record) fun module _ =>
        List.Forall₂ Item.Becomes (Request.moduleItems source record)
          (module.declarations.map fun tree => ⟨tree⟩) :=
  (sourcedFiles_follows source record.files).map fun _ _ _ shapes => shapes

end Decode

namespace Request

variable {environment : Environment} {state : State} {request : Request} {id : Int32}

/-- A request for trees follows its items. -/
theorem follows (name : String) (trees : ∀ record, request ≠ .symbol record) :
    Decode.Follows environment state (request.decode name) request.items
      (fun response _ => request.Shapes response) := by
  cases request with
  | symbol record => exact absurd rfl (trees record)
  | type record =>
      exact (Decode.build_becomes record ()).map fun _ _ _ shape => .cons shape .nil
  | expression record =>
      exact (Decode.build_becomes record ()).map fun _ _ _ shape => .cons shape .nil
  | statement record =>
      exact (Decode.build_becomes record ()).map fun _ _ _ shape => .cons shape .nil
  | declaration record parent =>
      exact (Decode.build_becomes record parent).map fun _ _ _ shape => .cons shape .nil
  | file source record =>
      exact (Decode.sourcedFile_follows source record).map fun _ _ _ shapes => shapes
  | module source record =>
      exact (Decode.sourcedModule_follows name source record).map fun _ _ _ shapes => shapes
  | moduleBytes source bytes =>
      have linked : Decode.Follows environment state (Decode.sourcedBytes name source bytes)
          (bytesItems source bytes) fun module _ =>
            List.Forall₂ Item.Becomes (bytesItems source bytes)
              (module.declarations.map fun tree => ⟨tree⟩) := by
        unfold Decode.sourcedBytes bytesItems
        cases ModuleRecord.ofBytes bytes with
        | ok record => exact Decode.sourcedModule_follows name source record
        | error fault => exact .fail _ []
      exact linked.map fun _ _ _ shapes => shapes

/-- The trees of an answer have the shapes of the records of its request. -/
theorem shapes_of_answer {response : Response} {after : State} (keyed : state.Keyed)
    (answers : request.answer environment state = .ok response after) :
    request.Shapes response := by
  rw [answer_eq] at answers
  by_cases trees : ∀ record, request ≠ .symbol record
  · exact ((follows environment.world.name trees).ok keyed answers).2.2
  · push Not at trees
    rcases trees with ⟨record, rfl⟩
    rcases Decode.bind_ok_iff.mp answers with ⟨symbol, middle, -, ⟨⟩⟩
    exact .nil

/-- After a request an identifier has a loop if it had one before or a step that
begins one was reached. -/
theorem registered_iff (keyed : state.Keyed) :
    ((request.after environment state).loops.lookup? id).isSome = true ↔
      (state.loops.lookup? id).isSome = true ∨
        ∃ before next, Reaches environment state.view (request.trace state.depth) before
          (.beginLoop id) next := by
  rw [← State.view_loops, ← State.view_loops, ← loops_perform_iff]
  by_cases trees : ∀ record, request ≠ .symbol record
  · rw [← finalState_answer, answer_eq,
      (follows environment.world.name trees).view_finalState keyed]
    rfl
  · push Not at trees
    rcases trees with ⟨record, rfl⟩
    have kept : (Request.after environment state (.symbol record)).view.loops =
        state.view.loops := by
      rcases Decode.resolveSymbol_links record environment state.symbols with
        ⟨outcome, symbols, links⟩
      refine (congrArg (fun ends => (finalState ends).view.loops)
        (links.runs state rfl)).trans ?_
      cases outcome <;> rfl
    rw [kept]
    rfl

end Request

end IrLink
