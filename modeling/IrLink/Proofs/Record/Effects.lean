import IrLink.Proofs.Record.Layout
import Mathlib.Algebra.GroupWithZero.Nat

/-!
# What a record adds to a session

Of the steps of linking a record, those that begin a loop or make a declaration
known add to the session what has an identity of its own.  `Record.effects` are
these steps of a record and of everything inside it, in order.

Not all that is linked comes into the tree: expressions whose operation gives
them a type of its own (`Record.replacesType`) have another type recorded, which
is linked and then left out (`Record.leftOut`).  The declarations that a record
makes known are therefore those that its tree keeps (`Record.kept`) and those of
the types that are left out (`Record.count_effects`).
-/

namespace IrLink

namespace LinkStep

/-- The identifier of the loop that a step begins. -/
def begun? : LinkStep → Option Int32
  | beginLoop id => some id
  | _ => none

/-- Whether a step makes a declaration known that has a symbol which counts. -/
def declares (counted : UInt64 → Bool) : LinkStep → Bool
  | declare id => counted id
  | _ => false

/-- A step that begins a loop or makes a declaration known. -/
def effects : LinkStep → List LinkStep
  | beginLoop id => [.beginLoop id]
  | declare id => [.declare id]
  | _ => []

theorem countP_effects (counted : UInt64 → Bool) (step : LinkStep) :
    step.effects.countP (·.declares counted) = (step.declares counted).toNat := by
  cases step with
  | declare id =>
      rw [effects, List.countP_singleton, declares]
      cases counted id <;> rfl
  | _ => rfl

end LinkStep

namespace Record

variable {c : Category}

/-- The steps of a record and of everything inside it that begin a loop or make
a declaration known. -/
def effects (record : Record c) : List LinkStep :=
  record.fold LinkStep.effects fun _ inside => inside.flatten

/-- Operations that give their expression another type than the recorded one. -/
def replacesType : Record .operation → Bool
  | delegatingConstructorCall .. | enumConstructorCall .. | instanceInitializerCall ..
  | setField .. | setVariable .. => true
  | returnFrom .. | throwValue .. => true
  | getEnumValue .. | getField .. | getValue .. => true
  | _ => false

/-- The recorded type of an expression that is of another type. -/
def replacedType? : {c : Category} → Record c → Option (Record .type)
  | .expression, expressionNode _ type operation =>
      if operation.replacesType then .some type else .none
  | _, _ => .none

/-- The number of declarations with a symbol that counts, without those of types
that are left out. -/
def kept (counted : UInt64 → Bool) (record : Record c) : Nat :=
  record.fold (fun step => (step.declares counted).toNat) fun record inside =>
    match record.replacedType? with
    | .some _ => inside.tail.sum
    | .none => inside.sum

/-- The recorded types that are linked and then left out, without what is left
out inside them. -/
def leftOut (record : Record c) : List (Record .type) :=
  record.fold (fun _ => []) fun record inside =>
    match record.replacedType? with
    | .some type => type :: inside.tail.flatten
    | .none => inside.flatten

end Record

namespace Item

/-- The steps of an item that begin a loop or make a declaration known. -/
def effects : Item → List LinkStep
  | .step own => own.effects
  | .part inner => inner.effects

/-- The number of declarations of an item that come into a tree. -/
def kept (counted : UInt64 → Bool) : Item → Nat
  | .step own => (own.declares counted).toNat
  | .part inner => inner.kept counted

/-- The types of an item that are left out. -/
def leftOut : Item → List (Record .type)
  | .step _ => []
  | .part inner => inner.leftOut

@[simp]
theorem kept_part (counted : UInt64 → Bool) {c : Category} (record : Record c) :
    (Item.part record).kept counted = record.kept counted :=
  rfl

@[simp]
theorem kept_use (counted : UInt64 → Bool) (requirement : Requirement)
    (record : SymbolRecord) : (use requirement record).kept counted = 0 :=
  rfl

@[simp]
theorem kept_beginLoop (counted : UInt64 → Bool) (id : Int32) :
    (Item.step (.beginLoop id)).kept counted = 0 :=
  rfl

@[simp]
theorem kept_jump (counted : UInt64 → Bool) (id : Int32) :
    (Item.step (.jump id)).kept counted = 0 :=
  rfl

/-- Steps without effects keep no declarations. -/
theorem kept_steps (counted : UInt64 → Bool) {own : List LinkStep}
    (without : (steps own).flatMap effects = []) :
    ((steps own).map (kept counted)).sum = 0 := by
  induction own with
  | nil => rfl
  | cons step rest inductionHypothesis =>
      rw [steps, List.map_cons, List.flatMap_cons, List.append_eq_nil_iff] at without
      rw [steps, List.map_cons, List.map_cons, List.sum_cons, ← steps,
        inductionHypothesis without.2]
      cases step with
      | declare id => cases without.1
      | _ => rfl

/-- Steps that only find symbols have no effects. -/
theorem effects_uses (requirement : Requirement) (records : List SymbolRecord) :
    (uses requirement records).flatMap effects = [] := by
  induction records with
  | nil => rfl
  | cons record records inductionHypothesis => exact inductionHypothesis

@[simp]
theorem kept_uses (counted : UInt64 → Bool) (requirement : Requirement)
    (records : List SymbolRecord) :
    ((uses requirement records).map (kept counted)).sum = 0 :=
  kept_steps counted (effects_uses requirement records)

end Item

namespace Record

variable {c : Category}

/-! ## Checks have no effects -/

section Checks

variable (counted : UInt64 → Bool)

theorem effects_originCheck (name : String) :
    (Item.steps (originCheck name)).flatMap Item.effects = [] := by
  unfold originCheck
  split <;> rfl

@[simp]
theorem kept_originCheck (name : String) :
    ((Item.steps (originCheck name)).map (Item.kept counted)).sum = 0 :=
  Item.kept_steps counted (effects_originCheck name)

theorem effects_constantCheck (value : RecordedConstant) :
    (Item.steps (constantCheck value)).flatMap Item.effects = [] := by
  unfold constantCheck
  split <;> rfl

@[simp]
theorem kept_constantCheck (value : RecordedConstant) :
    ((Item.steps (constantCheck value)).map (Item.kept counted)).sum = 0 :=
  Item.kept_steps counted (effects_constantCheck value)

theorem effects_operandCheck (operand : Record .type) :
    (Item.steps operand.operandCheck).flatMap Item.effects = [] := by
  cases operand <;> rfl

@[simp]
theorem kept_operandCheck (operand : Record .type) :
    ((Item.steps (operandCheck operand)).map (Item.kept counted)).sum = 0 :=
  Item.kept_steps counted (effects_operandCheck operand)

theorem effects_parameterCheck (parameter : Record .declaration) :
    (Item.steps (parameterCheck parameter)).flatMap Item.effects = [] := by
  unfold parameterCheck
  split <;> rfl

@[simp]
theorem kept_parameterCheck (parameter : Record .declaration) :
    ((Item.steps (parameterCheck parameter)).map (Item.kept counted)).sum = 0 :=
  Item.kept_steps counted (effects_parameterCheck parameter)

theorem effects_entryClassCheck (entryClass : Record (.option .declaration)) :
    (Item.steps entryClass.entryClassCheck).flatMap Item.effects = [] := by
  cases entryClass with
  | none => rfl
  | some declaration =>
      rw [entryClassCheck]
      split <;> rfl

@[simp]
theorem kept_entryClassCheck (entryClass : Record (.option .declaration)) :
    ((Item.steps (entryClassCheck entryClass)).map (Item.kept counted)).sum = 0 :=
  Item.kept_steps counted (effects_entryClassCheck entryClass)

@[simp]
theorem kept_declareStep (symbol : Option SymbolRecord) :
    ((Item.steps (declareStep symbol)).map (Item.kept counted)).sum =
      (symbol.any fun record => counted record.uniqueId.index).toNat := by
  cases symbol <;> rfl

end Checks

/-- What a declaration does when it is made known. -/
theorem effects_declareStep (symbol : Option SymbolRecord) :
    (Item.steps (declareStep symbol)).flatMap Item.effects = declareStep symbol := by
  cases symbol <;> rfl

/-! ## Layouts -/

theorem effects_eq (record : Record c) : record.effects = record.layout.flatMap Item.effects := by
  rw [effects, fold_eq, List.flatMap_def]
  congr 2

/-- A record that replaces no type keeps what its items keep. -/
theorem kept_eq (record : Record c) (counted : UInt64 → Bool)
    (ordinary : record.replacedType? = .none) :
    record.kept counted = (record.layout.map (Item.kept counted)).sum := by
  rw [kept, fold_eq, ordinary]
  congr 2

/-- A statement keeps what its items keep. -/
theorem kept_statement (counted : UInt64 → Bool) (statement : Record .statement) :
    statement.kept counted = (statement.layout.map (Item.kept counted)).sum :=
  kept_eq statement counted rfl

theorem leftOut_eq {record : Record c} (ordinary : record.replacedType? = .none) :
    record.leftOut = record.layout.flatMap Item.leftOut := by
  rw [leftOut, fold_eq, ordinary, List.flatMap_def]
  congr 2

section Expressions

variable {range : Range} {type : Record .type} {operation : Record .operation}

/-- An expression of its recorded type keeps what the type and the operation keep. -/
theorem kept_eq_of_keeps (counted : UInt64 → Bool)
    (keeps : operation.replacesType = false) :
    (expressionNode range type operation).kept counted =
      type.kept counted + operation.kept counted := by
  have ordinary : (expressionNode range type operation).replacedType? = .none := by
    rw [replacedType?, keeps]
    rfl
  rw [kept_eq _ counted ordinary]
  exact Nat.add_assoc _ _ 0

/-- An expression that replaces its type keeps what its operation keeps. -/
theorem kept_eq_of_replaced (counted : UInt64 → Bool)
    (replaces : operation.replacesType = true) :
    (expressionNode range type operation).kept counted = operation.kept counted := by
  rw [kept, fold_eq, replacedType?, if_pos replaces]
  exact Nat.add_zero _

theorem leftOut_eq_of_replaced (replaces : operation.replacesType = true) :
    (expressionNode range type operation).leftOut = type :: operation.leftOut := by
  rw [leftOut, fold_eq, replacedType?, if_pos replaces]
  exact congrArg (type :: ·) (List.append_nil _)

end Expressions

/-! ## Counting -/

theorem count_effects_items (counted : UInt64 → Bool) (items : List Item)
    (parts : ∀ {d : Category} (part : Record d), .part part ∈ items →
      part.effects.countP (·.declares counted) =
        part.kept counted +
          (part.leftOut.flatMap effects).countP (·.declares counted)) :
    (items.flatMap Item.effects).countP (·.declares counted) =
      (items.map (Item.kept counted)).sum +
        ((items.flatMap Item.leftOut).flatMap effects).countP (·.declares counted) := by
  induction items with
  | nil => rfl
  | cons item items inductionHypothesis =>
      have rest := inductionHypothesis fun part among => parts part (.tail item among)
      have head : item.effects.countP (·.declares counted) = item.kept counted +
          (item.leftOut.flatMap effects).countP (·.declares counted) := by
        cases item with
        | step own => exact LinkStep.countP_effects counted own
        | part inner => exact parts inner (.head items)
      simp only [List.flatMap_cons, List.countP_append, List.map_cons, List.sum_cons,
        List.flatMap_append, head, rest]
      omega

/-- A record makes known the declarations that its tree keeps and those of the
types that are left out. -/
theorem count_effects (counted : UInt64 → Bool) (record : Record c) :
    record.effects.countP (·.declares counted) =
      record.kept counted +
        (record.leftOut.flatMap effects).countP (·.declares counted) := by
  induction record using layout_induction with
  | @node c record inductionHypothesis =>
      cases replaced : record.replacedType? with
      | none =>
          rw [effects_eq, kept_eq record counted replaced, leftOut_eq replaced]
          exact count_effects_items counted record.layout inductionHypothesis
      | some type =>
          cases c
          case expression =>
            cases record with
            | expressionNode range recorded operation =>
                have replaces : operation.replacesType = true :=
                  (Option.ite_none_right_eq_some.mp replaced).1
                have inside := inductionHypothesis operation (.tail _ (.head _))
                rw [effects_eq, kept_eq_of_replaced counted replaces,
                  leftOut_eq_of_replaced replaces]
                change List.countP _ (recorded.effects ++ (operation.effects ++ [])) = _
                rw [List.append_nil, List.countP_append, List.flatMap_cons,
                  List.countP_append, inside]
                omega
          all_goals cases replaced

/-! ## Order -/

/-- The effects of a record are among its steps, in the same order. -/
theorem effects_eq_trace (record : Record c) (depth : Nat) :
    record.effects = (record.trace depth).flatMap LinkStep.effects := by
  induction record using layout_induction generalizing depth with
  | @node c record inductionHypothesis =>
      have items (inner : Nat) : record.layout.flatMap Item.effects =
          (record.layout.flatMap (Item.trace inner)).flatMap LinkStep.effects := by
        rw [List.flatMap_assoc, List.flatMap_def, List.flatMap_def]
        refine congrArg List.flatten (List.map_congr_left fun item among => ?_)
        cases item with
        | step own => exact (List.append_nil own.effects).symm
        | part part => exact inductionHypothesis part among inner
      rw [effects_eq]
      cases takes : c.takesLevel with
      | true =>
          rw [trace_of_takesLevel takes]
          exact items (depth + 1)
      | false =>
          rw [trace_of_takesNoLevel takes]
          exact items depth

end Record

end IrLink
