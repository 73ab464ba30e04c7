import IrLink.Decode.Build

/-!
# What linking does to a session, in order

`Record.layout` lists for one record its own steps between its parts, in the
order in which linking comes to them.  Two foldings of it are used: all steps
of a record and of everything inside it (`Record.trace`), and the greatest
number of levels that are nested in one another (`Record.nesting`).

A step that fails stands in front of everything that is not reached because of
it, so nothing inside a record is left out.
-/

namespace IrLink

/-- One thing that linking does to a session. -/
inductive LinkStep where
  /-- Begin one more level inside `depth` levels. -/
  | enter (depth : Nat)
  | fail (error : DecodeError)
  /-- Find or make the symbol of a record. -/
  | use (requirement : Requirement) (record : SymbolRecord)
  | beginLoop (id : Int32)
  | jump (id : Int32)
  /-- Make the declaration known that has the symbol with the identifier. -/
  | declare (id : UInt64)
  deriving DecidableEq, Repr

/-- What a record consists of: steps of its own, and parts. -/
inductive Item where
  | step (step : LinkStep)
  | part {c : Category} (record : Record c)

namespace Item

/-- Several steps. -/
def steps (steps : List LinkStep) : List Item :=
  steps.map step

/-- The step that refuses what has no place in a tree. -/
def refuse (what : Unsupported) : Item :=
  .step (.fail (.unsupported what))

/-- The step that links a symbol. -/
def use (requirement : Requirement) (record : SymbolRecord) : Item :=
  .step (.use requirement record)

/-- The steps that link several symbols. -/
def uses (requirement : Requirement) (records : List SymbolRecord) : List Item :=
  steps (records.map (.use requirement))

end Item

/-- Expressions, declarations and statements take a level of nesting. -/
def Category.takesLevel : Category → Bool
  | .expression | .declaration | .statement => true
  | _ => false

/-- How many levels the parts of a record stand inside that itself stands inside
`depth` levels. -/
def Category.inner (c : Category) (depth : Nat) : Nat :=
  if c.takesLevel then depth + 1 else depth

namespace Record

/-! ## Declarations of records -/

/-- The form of the declaration that a declarator makes.  An unset declarator
makes none. -/
def declaredForm : Record .declarator → DeclarationForm
  | classDeclarator .. => .klass
  | functionDeclarator .. => .function
  | constructorDeclarator .. => .constructor
  | fieldDeclarator .. => .field
  | property .. => .property
  | variableDeclarator .. => .localVariable
  | enumEntry .. => .enumEntry
  | anonymousInitializer .. => .anonymousInitializer
  | unsetDeclarator | typeAlias => .error

/-- The form of a declaration. -/
def form : Record .declaration → DeclarationForm
  | declarationNode _ _ _ _ declarator => declarator.declaredForm

/-- The symbol of a function. -/
def functionSymbol : Record .function → SymbolRecord
  | functionNode symbol .. => symbol

/-- The symbol of a field. -/
def fieldSymbol : Record .field → SymbolRecord
  | fieldNode symbol .. => symbol

/-- The symbol of what a declarator declares. -/
def declaredSymbol? : Record .declarator → Option SymbolRecord
  | classDeclarator symbol .. => .some symbol
  | constructorDeclarator symbol .. => .some symbol
  | enumEntry symbol .. => .some symbol
  | fieldDeclarator field => .some field.fieldSymbol
  | functionDeclarator function => .some function.functionSymbol
  | variableDeclarator symbol .. => .some symbol
  | anonymousInitializer symbol _ => .some symbol
  | property .. | unsetDeclarator | typeAlias => .none

/-! ## Checks of records -/

/-- The check of the name of an origin. -/
def originCheck (name : String) : List LinkStep :=
  match Origin.ofName? name with
  | .some _ => []
  | .none => [.fail (.unknownOrigin name)]

/-- The check of a constant. -/
def constantCheck (value : RecordedConstant) : List LinkStep :=
  match value.value? with
  | .some _ => []
  | .none => [.fail .malformedConstant]

/-- The check of the operand of a type operation. -/
def operandCheck : Record .type → List LinkStep
  | dynamicType .. => [.fail (.unsupported (.typeOperand "dynamic"))]
  | errorType .. => [.fail (.unsupported (.typeOperand "<error>"))]
  | simpleType .. | unsetType => []

/-- The check of what a clause catches. -/
def parameterCheck (parameter : Record .declaration) : List LinkStep :=
  if parameter.form = .localVariable then []
  else [.fail (.unsupported (.catchParameter parameter.form))]

/-- The check of the class of an enum entry. -/
def entryClassCheck : Record (.option .declaration) → List LinkStep
  | none => []
  | some entryClass =>
      if entryClass.form = .klass then []
      else [.fail (.unsupported (.enumEntryClass entryClass.form))]

/-- The step that makes a declaration known, if it has a symbol. -/
def declareStep (symbol : Option SymbolRecord) : List LinkStep :=
  symbol.toList.map fun symbol => .declare symbol.uniqueId.index

/-! ## Layout -/

/-- The steps and parts of a record, in the order in which it is linked. -/
def layout : {c : Category} → Record c → List Item
  | _, nil => []
  | _, cons head tail => [.part head, .part tail]
  | _, none => []
  | _, some value => [.part value]
  -- Types
  | _, unsetType => [.refuse (.unset .type)]
  | _, simpleType annotations _ classifier _ arguments =>
      [.part arguments, .part annotations, .use .classifier classifier]
  | _, dynamicType annotations _ => [.part annotations]
  | _, errorType annotations _ => [.part annotations]
  | _, unsetArgument => [.refuse (.unset .typeArgument)]
  | _, starArgument => []
  | _, projection _ type => [.part type]
  -- Calls and accesses
  | _, callNode symbol qualifier _ access =>
      .use .callee symbol :: (Item.uses .superClass qualifier.toList ++ [.part access])
  | _, accessNode dispatchReceiver extensionReceiver valueArguments typeArguments =>
      [.part valueArguments, .part typeArguments, .part dispatchReceiver,
        .part extensionReceiver]
  | _, fieldAccessNode symbol qualifier receiver =>
      .use .accessedField symbol ::
        (Item.uses .superClass qualifier.toList ++ [.part receiver])
  -- Expressions
  | _, expressionNode _ type operation => [.part type, .part operation]
  | _, unsetOperation => [.refuse (.unset .operation)]
  | _, block statements _ => [.part statements]
  | _, breakLoop id _ => [.step (.jump id)]
  | _, callOperation call => [.part call]
  | _, classReference symbol type => [.use .classifier symbol, .part type]
  | _, composite statements => [.part statements]
  | _, constant value => Item.steps (constantCheck value)
  | _, continueLoop id _ => [.step (.jump id)]
  | _, delegatingConstructorCall symbol access => [.use .constructor symbol, .part access]
  | _, enumConstructorCall symbol access => [.use .constructor symbol, .part access]
  | _, functionReference symbol typeArguments => [.use .callee symbol, .part typeArguments]
  | _, getClass argument => [.part argument]
  | _, getEnumValue type symbol => [.part type, .use .enumValue symbol]
  | _, getField (fieldAccessNode symbol qualifier receiver) type =>
      .use .accessedField symbol :: .part type ::
        (Item.uses .superClass qualifier.toList ++ [.part receiver])
  | _, getObject symbol => [.use .objectClass symbol]
  | _, getValue symbol type => [.use .value symbol, .part type]
  | _, instanceInitializerCall symbol => [.use .objectClass symbol]
  | _, propertyReference field getter setter typeArguments =>
      Item.uses .accessedField field.toList ++ (Item.uses .accessor getter.toList ++
        (Item.uses .accessor setter.toList ++ [.part typeArguments]))
  | _, returnFrom target value => [.use .returnTarget target, .part value]
  | _, setField access value => [.part access, .part value]
  | _, setVariable symbol value => [.use .assignedVariable symbol, .part value]
  | _, stringConcat arguments => [.part arguments]
  | _, throwValue value => [.part value]
  | _, tryCatch result catches finalizer => [.part result, .part catches, .part finalizer]
  | _, typeOperation _ operand argument =>
      .part operand :: (Item.steps (operandCheck operand) ++ [.part argument])
  | _, vararg elementType elements => [.part elementType, .part elements]
  | _, when branches => [.part branches]
  | _, loop _ id _ condition body => [.step (.beginLoop id), .part body, .part condition]
  | _, unsetElement => [.refuse (.unset .varargElement)]
  | _, plainElement expression => [.part expression]
  | _, spreadElement _ expression => [.part expression]
  -- Statements
  | _, unsetStatement _ => [.refuse (.unset .statement)]
  | _, blockBody _ statements => [.part statements]
  | _, branchStatement _ condition result => [.part condition, .part result]
  | _, catchStatement _ parameter result =>
      .part parameter :: (Item.steps (parameterCheck parameter) ++ [.part result])
  | _, declarationStatement _ declaration => [.part declaration]
  | _, expressionStatement _ expression => [.part expression]
  | _, syntheticBody _ _ => []
  -- Statements in special places
  | _, asBranch (branchStatement range condition result) =>
      [.part (branchStatement range condition result)]
  | _, asBranch statement =>
      [.refuse (.statement .branch statement.statementForm), .part statement]
  | _, asCatch (catchStatement range parameter result) =>
      [.part (catchStatement range parameter result)]
  | _, asCatch statement =>
      [.refuse (.statement .catchClause statement.statementForm), .part statement]
  | _, asBody (blockBody range statements) => [.part (blockBody range statements)]
  -- A body that the compiler writes takes no level.
  | _, asBody (syntheticBody _ _) => []
  | _, asBody statement =>
      [.refuse (.statement .body statement.statementForm), .part statement]
  -- Declarations
  | _, declarationNode _ origin annotations _ declarator =>
      Item.steps (originCheck origin) ++ .part declarator :: .part annotations ::
        Item.steps (declareStep declarator.declaredSymbol?)
  | _, unsetDeclarator => [.refuse (.unset .declarator)]
  | _, anonymousInitializer symbol statements =>
      [.use .declaredInitializer symbol, .part statements]
  | _, classDeclarator symbol _ _ _ _ _ members thisReceiver typeParameters superTypes =>
      [.use .declaredClass symbol, .part members, .part thisReceiver,
        .part typeParameters, .part superTypes]
  | _, constructorDeclarator symbol _ signature _ =>
      [.use .declaredConstructor symbol, .part signature]
  | _, enumEntry symbol _ entryClass initializer =>
      .use .declaredEnumEntry symbol :: .part entryClass ::
        (Item.steps (entryClassCheck entryClass) ++ [.part initializer])
  | _, fieldDeclarator field => [.part field]
  | _, functionDeclarator function => [.part function]
  | _, property _ _ _ _ backingField getter setter =>
      [.part backingField, .part getter, .part setter]
  | _, typeAlias => []
  | _, variableDeclarator symbol _ type _ initializer =>
      [.part initializer, .use .declaredVariable symbol, .part type]
  | _, signatureNode returnType body valueParameters dispatchReceiver extensionReceiver
      typeParameters =>
      [.part returnType, .part body, .part valueParameters, .part dispatchReceiver,
        .part extensionReceiver, .part typeParameters]
  | _, functionNode symbol _ signature _ _ _ overridden =>
      .use .declaredFunction symbol :: .part signature ::
        Item.uses .overriddenFunction overridden
  | _, fieldNode symbol _ type _ _ initializer =>
      [.use .declaredField symbol, .part type, .part initializer]
  | _, asAccessor function =>
      .part function :: Item.steps (declareStep (.some function.functionSymbol))
  | _, asBackingField field => [.part field]
  | _, valueParameterNode symbol _ _ type varargElementType _ _ defaultValue =>
      [.part varargElementType, .use .declaredValueParameter symbol, .part type,
        .part defaultValue]
  | _, typeParameterNode symbol _ _ _ superTypes =>
      [.use .declaredTypeParameter symbol, .part superTypes]

/-! ## Foldings -/

end Record

namespace Item

/-- A part that is smaller than a bound. -/
def Below (bound : Nat) : Item → Prop
  | .step _ => True
  | .part record => sizeOf record < bound

@[simp]
theorem below_step (bound : Nat) (step : LinkStep) : (Item.step step).Below bound :=
  trivial

@[simp]
theorem below_use (bound : Nat) (requirement : Requirement) (record : SymbolRecord) :
    (use requirement record).Below bound :=
  trivial

@[simp]
theorem below_refuse (bound : Nat) (what : Unsupported) : (refuse what).Below bound :=
  trivial

@[simp]
theorem below_part {bound : Nat} {c : Category} {record : Record c} :
    (Item.part record).Below bound ↔ sizeOf record < bound :=
  Iff.rfl

end Item

namespace Record

/-- The parts of a record are smaller than the record. -/
theorem below_of_mem_layout {c : Category} (record : Record c) :
    ∀ item ∈ record.layout, item.Below (sizeOf record) := by
  cases record
  case asBranch statement | asCatch statement | asBody statement =>
    cases statement <;> simp [layout]
  case getField access type =>
      cases access
      simp [layout, or_imp, forall_and, Item.uses, Item.steps]
      omega
  all_goals simp [layout, or_imp, forall_and, Item.uses, Item.steps] <;> omega

/-- Combine for every record what is made of its steps and parts. -/
def fold {β : Type} (step : LinkStep → β)
    (node : {c : Category} → Record c → List β → β) {c : Category} (record : Record c) : β :=
  node record <| record.layout.attach.map fun
    | ⟨.step own, _⟩ => step own
    | ⟨.part inner, _⟩ => fold step node inner
termination_by sizeOf record
decreasing_by
  rename_i inside
  exact below_of_mem_layout record _ inside

end Record

/-- What a folding makes of a step or part. -/
def Item.fold {β : Type} (step : LinkStep → β)
    (node : {c : Category} → Record c → List β → β) : Item → β
  | .step own => step own
  | .part inner => inner.fold step node

namespace Record

theorem fold_eq {β : Type} (step : LinkStep → β)
    (node : {c : Category} → Record c → List β → β) {c : Category} (record : Record c) :
    record.fold step node = node record (record.layout.map (Item.fold step node)) := by
  rw [fold]
  conv => rhs; rw [← List.attach_map_subtype_val record.layout, List.map_map]
  congr 1
  apply List.map_congr_left
  rintro ⟨item, inside⟩ -
  cases item <;> rfl

/-- What holds of a record if it holds of all smaller ones holds of every record. -/
theorem size_induction {P : {c : Category} → Record c → Prop}
    (node : ∀ {c : Category} (record : Record c),
      (∀ {d : Category} (inner : Record d), sizeOf inner < sizeOf record → P inner) → P record)
    {c : Category} (record : Record c) : P record :=
  node record fun inner _smaller => size_induction node inner
termination_by sizeOf record

/-- What holds of a record if it holds of its parts holds of every record. -/
theorem layout_induction {P : {c : Category} → Record c → Prop}
    (node : ∀ {c : Category} (record : Record c),
      (∀ {d : Category} (part : Record d), .part part ∈ record.layout → P part) → P record)
    {c : Category} (record : Record c) : P record :=
  node record fun part _inside => layout_induction node part
termination_by sizeOf record
decreasing_by exact below_of_mem_layout record _ _inside

/-- The steps of a record and of everything inside it, if it stands inside
`depth` levels. -/
def trace {c : Category} (record : Record c) : (depth : Nat) → List LinkStep :=
  record.fold (fun step _ => [step]) fun {c} _ inside depth =>
    if c.takesLevel then .enter depth :: inside.flatMap (· (depth + 1))
    else inside.flatMap (· depth)

/-- How many expressions, declarations and statements are at most nested in one
another. -/
def nesting {c : Category} (record : Record c) : Nat :=
  record.fold (fun _ => 0) fun {c} _ inside =>
    (if c.takesLevel then 1 else 0) + inside.foldr max 0

end Record

/-- The steps of an item that stands inside `depth` levels. -/
def Item.trace (depth : Nat) : Item → List LinkStep
  | .step own => [own]
  | .part inner => inner.trace depth

@[simp]
theorem Item.flatMap_trace_steps (depth : Nat) (steps : List LinkStep) :
    (Item.steps steps).flatMap (Item.trace depth) = steps := by
  induction steps with
  | nil => rfl
  | cons step steps inductionHypothesis =>
      exact congrArg (step :: ·) inductionHypothesis

/-- The nesting of an item. -/
def Item.nesting : Item → Nat
  | .step _ => 0
  | .part inner => inner.nesting

namespace Record

variable {c : Category}

theorem trace_of_takesLevel (takes : c.takesLevel = true) (record : Record c)
    (depth : Nat) :
    record.trace depth =
      .enter depth :: record.layout.flatMap (Item.trace (depth + 1)) := by
  rw [trace, fold_eq, if_pos takes, List.flatMap_map]
  congr 2
  funext item
  cases item <;> rfl

theorem trace_of_takesNoLevel (takes : c.takesLevel = false) (record : Record c)
    (depth : Nat) :
    record.trace depth = record.layout.flatMap (Item.trace depth) := by
  rw [trace, fold_eq, if_neg (by simp [takes]), List.flatMap_map]
  congr 1
  funext item
  cases item <;> rfl

/-- What holds of all steps of a record holds of the level that it takes and of
all steps of its layout. -/
theorem forall_mem_trace {S : LinkStep → Prop} (record : Record c) (depth : Nat) :
    (∀ step ∈ record.trace depth, S step) ↔
      (c.takesLevel = true → S (.enter depth)) ∧
        ∀ item ∈ record.layout, ∀ step ∈ item.trace (c.inner depth), S step := by
  cases takes : c.takesLevel with
  | true =>
      rw [trace_of_takesLevel takes, Category.inner, if_pos takes, List.forall_mem_cons,
        List.forall_mem_flatMap]
      simp
  | false =>
      rw [trace_of_takesNoLevel takes, Category.inner, if_neg (by simp [takes]),
        List.forall_mem_flatMap]
      simp

theorem nesting_eq (record : Record c) :
    record.nesting =
      (if c.takesLevel then 1 else 0) + (record.layout.map Item.nesting).foldr max 0 := by
  rw [nesting, fold_eq]
  rfl

end Record

/-! ## Levels -/

/-- A step that begins no level inside as many as a limit. -/
def LinkStep.Shallow (limit : Nat) : LinkStep → Prop
  | .enter depth => depth < limit
  | _ => True

/-- Levels fit below a limit one by one if the greatest of them does. -/
theorem forall_levels_iff (levels : List Nat) (depth limit : Nat) :
    (∀ level ∈ levels, level = 0 ∨ depth + level ≤ limit) ↔
      levels.foldr max 0 = 0 ∨ depth + levels.foldr max 0 ≤ limit := by
  induction levels with
  | nil => simp
  | cons level levels inductionHypothesis =>
      rw [List.forall_mem_cons, inductionHypothesis, List.foldr_cons]
      omega

namespace Record

variable {c : Category}

@[simp]
theorem enter_not_mem_originCheck (name : String) (depth : Nat) :
    .enter depth ∉ originCheck name := by
  unfold originCheck
  split <;> simp

@[simp]
theorem enter_not_mem_constantCheck (value : RecordedConstant) (depth : Nat) :
    .enter depth ∉ constantCheck value := by
  unfold constantCheck
  split <;> simp

@[simp]
theorem enter_not_mem_operandCheck (operand : Record .type) (depth : Nat) :
    .enter depth ∉ operandCheck operand := by
  cases operand <;> simp [operandCheck]

@[simp]
theorem enter_not_mem_parameterCheck (parameter : Record .declaration) (depth : Nat) :
    .enter depth ∉ parameterCheck parameter := by
  unfold parameterCheck
  split <;> simp

@[simp]
theorem enter_not_mem_entryClassCheck (entryClass : Record (.option .declaration))
    (depth : Nat) : .enter depth ∉ entryClassCheck entryClass := by
  cases entryClass with
  | none => simp [entryClassCheck]
  | some declaration =>
      rw [entryClassCheck]
      split <;> simp

/-- No record begins a level among its parts. -/
theorem enter_not_mem_layout (record : Record c) (depth : Nat) :
    .step (.enter depth) ∉ record.layout := by
  cases record
  case asBranch statement => cases statement <;> simp [layout, Item.refuse]
  case asCatch statement => cases statement <;> simp [layout, Item.refuse]
  case asBody statement => cases statement <;> simp [layout, Item.refuse]
  case getField access type =>
      cases access
      simp [layout, Item.use, Item.uses, Item.steps]
  all_goals simp [layout, declareStep, Item.refuse, Item.use, Item.uses, Item.steps]

/-- The steps of a record begin no level that is too deep if its nesting is not
too great. -/
theorem shallow_iff (record : Record c) (depth limit : Nat) :
    (∀ step ∈ record.trace depth, step.Shallow limit) ↔
      record.nesting = 0 ∨ depth + record.nesting ≤ limit := by
  induction record using layout_induction generalizing depth with
  | @node c record inside =>
      have items : (∀ item ∈ record.layout, ∀ step ∈ item.trace (c.inner depth),
          step.Shallow limit) ↔ ∀ level ∈ record.layout.map Item.nesting,
            level = 0 ∨ c.inner depth + level ≤ limit := by
        rw [List.forall_mem_map]
        refine forall_congr' fun item => forall_congr' fun own => ?_
        cases item with
        | step step =>
            cases step with
            | enter level => exact absurd own (enter_not_mem_layout record level)
            | _ => simp [Item.trace, Item.nesting, LinkStep.Shallow]
        | part part => exact inside part own _
      rw [forall_mem_trace, items, forall_levels_iff, nesting_eq]
      unfold Category.inner
      cases c.takesLevel
      · simp
      · simp [LinkStep.Shallow]
        omega

end Record

end IrLink
