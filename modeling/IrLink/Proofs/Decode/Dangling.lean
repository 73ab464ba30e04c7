import IrLink.Proofs.Decode.Reached

/-!
# Dangling jumps

Among the failures of linking, only a jump speaks of a loop that is missing.  A
request fails so if and only if it reaches a jump to an identifier for which no loop
was begun, neither before the request nor by an earlier step
(`Request.dangling_iff`).
-/

namespace IrLink

/-! ## Own failures -/

/-- Whether an error says that a record can not be had or has no place in a tree. -/
def DecodeError.isRefusal : DecodeError → Bool
  | unsupported _ | malformedConstant | unknownOrigin _ => true
  | missingRecord _ | malformedRecord _ => true
  | _ => false

namespace Item

variable {error : DecodeError}

@[simp]
theorem step_mem_steps {step : LinkStep} {own : List LinkStep} :
    Item.step step ∈ steps own ↔ step ∈ own := by
  simp [steps]

@[simp]
theorem fail_ne_use {requirement : Requirement} {record : SymbolRecord} :
    Item.step (.fail error) ≠ use requirement record := by
  simp [use]

@[simp]
theorem fail_eq_refuse {what : Unsupported} :
    Item.step (.fail error) = refuse what ↔ error = .unsupported what := by
  simp [refuse]

@[simp]
theorem fail_not_mem_uses {requirement : Requirement} {records : List SymbolRecord} :
    Item.step (.fail error) ∉ uses requirement records := by
  simp [uses]

end Item

namespace Record

variable {error : DecodeError} {c : Category}

theorem isRefusal_of_originCheck {name : String} (among : .fail error ∈ originCheck name) :
    error.isRefusal = true := by
  unfold originCheck at among
  split at among
  · cases among
  · cases List.mem_singleton.mp among
    rfl

theorem isRefusal_of_constantCheck {value : RecordedConstant}
    (among : .fail error ∈ constantCheck value) : error.isRefusal = true := by
  unfold constantCheck at among
  split at among
  · cases among
  · cases List.mem_singleton.mp among
    rfl

theorem isRefusal_of_operandCheck {operand : Record .type}
    (among : .fail error ∈ operand.operandCheck) : error.isRefusal = true := by
  unfold operandCheck at among
  split at among
  · cases List.mem_singleton.mp among
    rfl
  · cases List.mem_singleton.mp among
    rfl
  · cases among
  · cases among

theorem isRefusal_of_parameterCheck {parameter : Record .declaration}
    (among : .fail error ∈ parameter.parameterCheck) : error.isRefusal = true := by
  unfold parameterCheck at among
  split at among
  · cases among
  · cases List.mem_singleton.mp among
    rfl

theorem isRefusal_of_entryClassCheck {entryClass : Record (.option .declaration)}
    (among : .fail error ∈ entryClass.entryClassCheck) : error.isRefusal = true := by
  cases entryClass with
  | none => cases among
  | some declaration =>
      rw [entryClassCheck] at among
      split at among
      · cases among
      · cases List.mem_singleton.mp among
        rfl

@[simp]
theorem fail_not_mem_declareStep {symbol : Option SymbolRecord} :
    .fail error ∉ declareStep symbol := by
  simp [declareStep]

/-- The own failures of records are refusals. -/
theorem isRefusal_of_layout (record : Record c) (among : .step (.fail error) ∈ record.layout) :
    error.isRefusal = true := by
  cases record
  case getField access type =>
    cases access
    simp [layout] at among
  case asBranch statement =>
    cases statement <;> simp [layout] at among <;> subst among <;> rfl
  case asCatch statement =>
    cases statement <;> simp [layout] at among <;> subst among <;> rfl
  case asBody statement =>
    cases statement <;> simp [layout] at among <;> subst among <;> rfl
  all_goals simp [layout] at among
  all_goals
    first
    | exact isRefusal_of_originCheck among
    | exact isRefusal_of_constantCheck among
    | exact isRefusal_of_operandCheck among
    | exact isRefusal_of_parameterCheck among
    | exact isRefusal_of_entryClassCheck among
    | (subst among; rfl)

/-- The failures among the steps of a record are refusals. -/
theorem isRefusal_of_trace (record : Record c) (depth : Nat)
    (among : .fail error ∈ record.trace depth) : error.isRefusal = true := by
  have all : ∀ step ∈ record.trace depth, ∀ error, step = .fail error →
      error.isRefusal = true := by
    clear among
    induction record using layout_induction generalizing depth with
    | node record inside =>
        refine (forall_mem_trace record depth).mpr ⟨fun _ _ => by rintro ⟨⟩, ?_⟩
        intro item own
        cases item with
        | step step =>
            rintro _ (_ | ⟨_, ⟨⟩⟩) error rfl
            exact isRefusal_of_layout record own
        | part part => exact inside part own _
  exact all _ among error rfl

end Record

/-! ## Symbols -/

namespace Decode

variable {α β : Type}

/-- A computation that does not fail because of a jump. -/
def NeverDangles (computation : Decode α) : Prop :=
  ∀ environment state id after,
    computation environment state ≠ .error (.danglingLoopReference id) after

namespace NeverDangles

theorem pure (result : α) : NeverDangles (pure result) := by
  rintro _ _ _ _ ⟨⟩

theorem bind {computation : Decode α} {rest : α → Decode β}
    (first : NeverDangles computation) (second : ∀ result, NeverDangles (rest result)) :
    NeverDangles (computation >>= rest) := by
  intro environment state id after fails
  rcases error_of_bind fails with fails | ⟨result, middle, _, fails⟩
  · exact first environment state id after fails
  · exact second result environment middle id after fails

theorem resolveSymbol (record : SymbolRecord) : NeverDangles (resolveSymbol record) :=
  fun _ _ _ _ fails => nomatch isOfSymbol_of_resolveSymbol fails

theorem symbolFor (requirement : Requirement) (record : SymbolRecord) :
    NeverDangles (symbolFor requirement record) :=
  fun _ _ _ _ fails => nomatch isOfSymbol_of_symbolFor fails

end NeverDangles

end Decode

/-! ## Steps -/

section Steps

variable {environment : Environment} {view next : View} {step : LinkStep}
  {steps : List LinkStep} {error : DecodeError} {id : Int32}

/-- A step fails because of a jump if it is one to a loop that was not begun. -/
theorem LinkStep.perform_dangling_iff
    (unrecorded : step ≠ .fail (.danglingLoopReference id)) :
    step.perform environment view = .error (.danglingLoopReference id) next ↔
      step = .jump id ∧ view.loops id = false ∧ view = next := by
  constructor
  · intro fails
    cases step with
    | enter depth =>
        rw [perform] at fails
        split at fails <;> cases fails
    | fail error =>
        cases fails
        exact absurd rfl unrecorded
    | use requirement record =>
        rw [perform] at fails
        split at fails
        · cases fails
        · rename_i run
          cases fails
          exact absurd run (Decode.NeverDangles.symbolFor _ _ _ _ _ _)
    | beginLoop other => cases fails
    | jump other =>
        rw [perform] at fails
        split at fails
        · cases fails
        · rename_i unknown
          cases fails
          exact ⟨rfl, Bool.eq_false_iff.mpr unknown, rfl⟩
    | declare other =>
        rw [perform] at fails
        split at fails
        · cases fails
        · split at fails
          · cases fails
          · split at fails <;> cases fails
  · rintro ⟨rfl, unknown, rfl⟩
    simp [perform, unknown]

/-- Steps that do not fail by themselves because of a jump do so where they reach a
jump to a loop that was not begun. -/
theorem perform_dangling_iff
    (unrecorded : .fail (.danglingLoopReference id) ∉ steps) :
    perform environment steps view = .error (.danglingLoopReference id) next ↔
      ∃ before, Reaches environment view steps before (.jump id) next ∧
        view.loops id = false ∧ .beginLoop id ∉ before := by
  rw [perform_eq_error_iff]
  constructor
  · rintro ⟨before, step, middle, reaches, fails⟩
    have own : step ≠ .fail (.danglingLoopReference id) := by
      rintro rfl
      exact unrecorded (reaches.among.subset
        (List.mem_append_right before (List.mem_singleton_self _)))
    rcases (LinkStep.perform_dangling_iff own).mp fails with ⟨rfl, unknown, rfl⟩
    exact ⟨before, reaches, reaches.loops_eq_false_iff.mp unknown⟩
  · rintro ⟨before, reaches, unknown⟩
    refine ⟨before, .jump id, next, reaches, ?_⟩
    exact (LinkStep.perform_dangling_iff (by rintro ⟨⟩)).mpr
      ⟨rfl, reaches.loops_eq_false_iff.mpr unknown, rfl⟩

end Steps

/-! ## Requests -/

namespace Request

variable {environment : Environment} {state : State} {request : Request} {id : Int32}

/-- What a request links is a record or cannot be had. -/
theorem part_or_refusal_of_mem_items {item : Item} (among : item ∈ request.items) :
    (∃ (c : Category) (record : Record c), item = .part record) ∨
      ∃ error : DecodeError, error.isRefusal = true ∧ item = .step (.fail error) := by
  have single {c : Category} {record : Record c} (among : item ∈ [Item.part record]) :
      ∃ (c : Category) (record : Record c), item = .part record :=
    ⟨c, record, List.mem_singleton.mp among⟩
  have file (source : Source) (record : FileRecord) (among : item ∈ fileItems source record) :
      (∃ (c : Category) (record : Record c), item = .part record) ∨
        ∃ error : DecodeError, error.isRefusal = true ∧ item = .step (.fail error) := by
    rcases List.mem_map.mp among with ⟨id, -, rfl⟩
    unfold sourceItem Source.declaration
    split
    · exact .inl ⟨_, _, rfl⟩
    · rename_i missing
      split at missing
      · cases missing
        exact .inr ⟨_, rfl, rfl⟩
      · split at missing <;> cases missing
        exact .inr ⟨_, rfl, rfl⟩
  cases request with
  | symbol record => cases among
  | type record => exact .inl (single among)
  | expression record => exact .inl (single among)
  | statement record => exact .inl (single among)
  | declaration record parent => exact .inl (single among)
  | file source record => exact file source record among
  | module source record =>
      rcases List.mem_flatMap.mp among with ⟨record, -, among⟩
      exact file source record among
  | moduleBytes source bytes =>
      simp only [items, bytesItems] at among
      split at among
      · rcases List.mem_flatMap.mp among with ⟨record, -, among⟩
        exact file source record among
      · exact .inr ⟨_, rfl, List.mem_singleton.mp among⟩

/-- The failures among the steps of a request are refusals. -/
theorem isRefusal_of_trace {error : DecodeError} {depth : Nat}
    (among : .fail error ∈ request.trace depth) : error.isRefusal = true := by
  rcases List.mem_flatMap.mp among with ⟨item, own, among⟩
  rcases part_or_refusal_of_mem_items own with ⟨c, record, rfl⟩ | ⟨other, refusal, rfl⟩
  · exact record.isRefusal_of_trace depth among
  · cases List.mem_singleton.mp among
    exact refusal

/-- A request fails because of a jump where it reaches a jump to an identifier for
which neither an earlier request nor an earlier step began a loop. -/
theorem dangling_iff (keyed : state.Keyed) (view : View) :
    (∃ after, request.answer environment state =
          .error (.danglingLoopReference id) after ∧ after.view = view) ↔
      ∃ before, Reaches environment state.view (request.trace state.depth) before
          (.jump id) view ∧
        state.loops.lookup? id = none ∧ .beginLoop id ∉ before := by
  have unrecorded : .fail (.danglingLoopReference id) ∉ request.trace state.depth :=
    fun among => nomatch isRefusal_of_trace among
  have registered : state.loops.lookup? id = none ↔ state.view.loops id = false := by
    rw [State.view_loops, Option.isSome_eq_false_iff, Option.isNone_iff_eq_none]
  simp only [registered]
  rw [← perform_dangling_iff unrecorded, answer_eq]
  by_cases trees : ∀ record, request ≠ .symbol record
  · exact (follows environment.world.name trees).error_iff keyed
  · push Not at trees
    rcases trees with ⟨record, rfl⟩
    constructor
    · rintro ⟨after, fails, -⟩
      refine absurd fails (Decode.NeverDangles.bind (.resolveSymbol record) ?_ _ _ _ _)
      exact fun _ => .pure _
    · intro fails
      cases fails

end Request

end IrLink
