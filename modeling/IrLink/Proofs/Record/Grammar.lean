import IrLink.Proofs.Record.Layout

/-!
# The grammar of records

`Record.Grammatical` says which records can be linked at all: no choice is left
unset, no symbol is that of a returnable block, origins have known names,
statements in special places are of the form that belongs there, what is caught
is a variable, the body of an enum entry is a class, and the operand of a type
operation has a classifier.  It is stated along the forms of records, each part
in the order in which the record names it, and has nothing to do with the order
in which they are linked.
-/

namespace IrLink

/-- A symbol that a tree can hold. -/
def SymbolRecord.Nameable (record : SymbolRecord) : Prop :=
  record.kind ≠ .returnableBlock

/-- Whether a recorded type names a classifier. -/
def Record.isSimple : Record .type → Bool
  | simpleType .. => true
  | unsetType | dynamicType .. | errorType .. => false

/-- The records without anything that has no place in a tree. -/
def Record.Grammatical : {c : Category} → Record c → Prop
  | _, nil => True
  | _, cons head tail => head.Grammatical ∧ tail.Grammatical
  | _, none => True
  | _, some value => value.Grammatical
  -- Types
  | _, unsetType => False
  | _, simpleType annotations _ classifier _ arguments =>
      annotations.Grammatical ∧ classifier.Nameable ∧ arguments.Grammatical
  | _, dynamicType annotations _ => annotations.Grammatical
  | _, errorType annotations _ => annotations.Grammatical
  | _, unsetArgument => False
  | _, starArgument => True
  | _, projection _ type => type.Grammatical
  -- Calls and accesses
  | _, callNode symbol qualifier _ access =>
      symbol.Nameable ∧ (∀ named ∈ qualifier, named.Nameable) ∧ access.Grammatical
  | _, accessNode dispatchReceiver extensionReceiver valueArguments typeArguments =>
      dispatchReceiver.Grammatical ∧ extensionReceiver.Grammatical ∧
        valueArguments.Grammatical ∧ typeArguments.Grammatical
  | _, fieldAccessNode symbol qualifier receiver =>
      symbol.Nameable ∧ (∀ named ∈ qualifier, named.Nameable) ∧ receiver.Grammatical
  -- Expressions
  | _, expressionNode _ type operation => type.Grammatical ∧ operation.Grammatical
  | _, unsetOperation => False
  | _, block statements _ => statements.Grammatical
  | _, breakLoop _ _ => True
  | _, callOperation call => call.Grammatical
  | _, classReference symbol type => symbol.Nameable ∧ type.Grammatical
  | _, composite statements => statements.Grammatical
  | _, constant value => value ≠ .unset
  | _, continueLoop _ _ => True
  | _, delegatingConstructorCall symbol access => symbol.Nameable ∧ access.Grammatical
  | _, enumConstructorCall symbol access => symbol.Nameable ∧ access.Grammatical
  | _, functionReference symbol typeArguments =>
      symbol.Nameable ∧ typeArguments.Grammatical
  | _, getClass argument => argument.Grammatical
  | _, getEnumValue type symbol => type.Grammatical ∧ symbol.Nameable
  | _, getField access type => access.Grammatical ∧ type.Grammatical
  | _, getObject symbol => symbol.Nameable
  | _, getValue symbol type => symbol.Nameable ∧ type.Grammatical
  | _, instanceInitializerCall symbol => symbol.Nameable
  | _, propertyReference field getter setter typeArguments =>
      (∀ named ∈ field, named.Nameable) ∧ (∀ named ∈ getter, named.Nameable) ∧
        (∀ named ∈ setter, named.Nameable) ∧ typeArguments.Grammatical
  | _, returnFrom target value => target.Nameable ∧ value.Grammatical
  | _, setField access value => access.Grammatical ∧ value.Grammatical
  | _, setVariable symbol value => symbol.Nameable ∧ value.Grammatical
  | _, stringConcat arguments => arguments.Grammatical
  | _, throwValue value => value.Grammatical
  | _, tryCatch result catches finalizer =>
      result.Grammatical ∧ catches.Grammatical ∧ finalizer.Grammatical
  | _, typeOperation _ operand argument =>
      operand.isSimple = true ∧ operand.Grammatical ∧ argument.Grammatical
  | _, vararg elementType elements => elementType.Grammatical ∧ elements.Grammatical
  | _, when branches => branches.Grammatical
  | _, loop _ _ _ condition body => condition.Grammatical ∧ body.Grammatical
  | _, unsetElement => False
  | _, plainElement expression => expression.Grammatical
  | _, spreadElement _ expression => expression.Grammatical
  -- Statements
  | _, unsetStatement _ => False
  | _, blockBody _ statements => statements.Grammatical
  | _, branchStatement _ condition result => condition.Grammatical ∧ result.Grammatical
  | _, catchStatement _ parameter result =>
      parameter.form = .localVariable ∧ parameter.Grammatical ∧ result.Grammatical
  | _, declarationStatement _ declaration => declaration.Grammatical
  | _, expressionStatement _ expression => expression.Grammatical
  | _, syntheticBody _ _ => True
  | _, asBranch statement => statement.statementForm = .branch ∧ statement.Grammatical
  | _, asCatch statement =>
      statement.statementForm = .catchClause ∧ statement.Grammatical
  | _, asBody statement =>
      (statement.statementForm = .blockBody ∨ statement.statementForm = .syntheticBody) ∧
        statement.Grammatical
  -- Declarations
  | _, declarationNode _ origin annotations _ declarator =>
      (∃ known : Origin, known.name = origin) ∧ annotations.Grammatical ∧
        declarator.Grammatical
  | _, unsetDeclarator => False
  | _, anonymousInitializer symbol statements =>
      symbol.Nameable ∧ statements.Grammatical
  | _, classDeclarator symbol _ _ _ _ _ members thisReceiver typeParameters superTypes =>
      symbol.Nameable ∧ members.Grammatical ∧ thisReceiver.Grammatical ∧
        typeParameters.Grammatical ∧ superTypes.Grammatical
  | _, constructorDeclarator symbol _ signature _ =>
      symbol.Nameable ∧ signature.Grammatical
  | _, enumEntry symbol _ entryClass initializer =>
      symbol.Nameable ∧ (∀ declaration ∈ entryClass.toOption, declaration.form = .klass) ∧
        entryClass.Grammatical ∧ initializer.Grammatical
  | _, fieldDeclarator field => field.Grammatical
  | _, functionDeclarator function => function.Grammatical
  | _, property _ _ _ _ backingField getter setter =>
      backingField.Grammatical ∧ getter.Grammatical ∧ setter.Grammatical
  | _, typeAlias => True
  | _, variableDeclarator symbol _ type _ initializer =>
      symbol.Nameable ∧ type.Grammatical ∧ initializer.Grammatical
  | _, signatureNode returnType body valueParameters dispatchReceiver extensionReceiver
      typeParameters =>
      returnType.Grammatical ∧ body.Grammatical ∧ valueParameters.Grammatical ∧
        dispatchReceiver.Grammatical ∧ extensionReceiver.Grammatical ∧
        typeParameters.Grammatical
  | _, functionNode symbol _ signature _ _ _ overridden =>
      symbol.Nameable ∧ signature.Grammatical ∧ ∀ named ∈ overridden, named.Nameable
  | _, fieldNode symbol _ type _ _ initializer =>
      symbol.Nameable ∧ type.Grammatical ∧ initializer.Grammatical
  | _, asAccessor function => function.Grammatical
  | _, asBackingField field => field.Grammatical
  | _, valueParameterNode symbol _ _ type varargElementType _ _ defaultValue =>
      symbol.Nameable ∧ type.Grammatical ∧ varargElementType.Grammatical ∧
        defaultValue.Grammatical
  | _, typeParameterNode symbol _ _ _ superTypes =>
      symbol.Nameable ∧ superTypes.Grammatical

/-! ## Steps that are never refused -/

/-- A step that does not fail by itself. -/
def LinkStep.Acceptable : LinkStep → Prop
  | .fail _ => False
  | .use _ record => record.Nameable
  | .enter _ | .beginLoop _ | .jump _ | .declare _ => True

namespace Item

/-- A step that does not fail by itself, or a grammatical part. -/
def Acceptable : Item → Prop
  | .step own => own.Acceptable
  | .part inner => inner.Grammatical

/-- Steps that do not fail by themselves, and grammatical parts. -/
def AllAcceptable (items : List Item) : Prop :=
  ∀ item ∈ items, item.Acceptable

@[simp]
theorem acceptable_part {c : Category} (record : Record c) :
    (Item.part record).Acceptable ↔ record.Grammatical :=
  Iff.rfl

@[simp]
theorem acceptable_use (requirement : Requirement) (symbol : SymbolRecord) :
    (use requirement symbol).Acceptable ↔ symbol.Nameable :=
  Iff.rfl

@[simp]
theorem acceptable_refuse (what : Unsupported) : (refuse what).Acceptable ↔ False :=
  Iff.rfl

@[simp]
theorem acceptable_beginLoop (id : Int32) :
    (Item.step (.beginLoop id)).Acceptable ↔ True :=
  Iff.rfl

@[simp]
theorem acceptable_jump (id : Int32) : (Item.step (.jump id)).Acceptable ↔ True :=
  Iff.rfl

@[simp]
theorem allAcceptable_nil : AllAcceptable [] ↔ True := by
  simp [AllAcceptable]

@[simp]
theorem allAcceptable_cons (item : Item) (items : List Item) :
    AllAcceptable (item :: items) ↔ item.Acceptable ∧ AllAcceptable items := by
  simp [AllAcceptable]

@[simp]
theorem allAcceptable_append (items others : List Item) :
    AllAcceptable (items ++ others) ↔ AllAcceptable items ∧ AllAcceptable others := by
  simp [AllAcceptable, or_imp, forall_and]

@[simp]
theorem allAcceptable_steps (own : List LinkStep) :
    AllAcceptable (steps own) ↔ ∀ step ∈ own, step.Acceptable := by
  simp [AllAcceptable, steps, Acceptable]

@[simp]
theorem allAcceptable_uses (requirement : Requirement) (symbols : List SymbolRecord) :
    AllAcceptable (uses requirement symbols) ↔ ∀ symbol ∈ symbols, symbol.Nameable := by
  simp [uses, LinkStep.Acceptable]

end Item

namespace Record

/-! ## Checks -/

@[simp]
theorem acceptable_originCheck (name : String) :
    (∀ step ∈ originCheck name, step.Acceptable) ↔ ∃ known : Origin, known.name = name := by
  unfold originCheck
  cases found : Origin.ofName? name with
  | none =>
      suffices ∀ known : Origin, known.name ≠ name by simpa [LinkStep.Acceptable]
      rintro known rfl
      simp [Origin.ofName?_name] at found
  | some origin =>
      have named : (origin.name == name) = true :=
        List.find?_some (p := fun origin : Origin => origin.name == name) found
      exact iff_of_true (by simp) ⟨origin, by simpa using named⟩

@[simp]
theorem acceptable_constantCheck (value : RecordedConstant) :
    (∀ step ∈ constantCheck value, step.Acceptable) ↔ value ≠ .unset := by
  cases value <;> simp [constantCheck, RecordedConstant.value?, LinkStep.Acceptable]

/-- A type is a grammatical operand if it is grammatical and names a classifier. -/
theorem acceptable_operandCheck (operand : Record .type) :
    (operand.Grammatical ∧ ∀ step ∈ operandCheck operand, step.Acceptable) ↔
      operand.isSimple = true ∧ operand.Grammatical := by
  cases operand <;> simp [operandCheck, isSimple, LinkStep.Acceptable, Grammatical]

@[simp]
theorem acceptable_parameterCheck (parameter : Record .declaration) :
    (∀ step ∈ parameterCheck parameter, step.Acceptable) ↔
      parameter.form = .localVariable := by
  unfold parameterCheck
  split <;> simp [*, LinkStep.Acceptable]

@[simp]
theorem acceptable_entryClassCheck (entryClass : Record (.option .declaration)) :
    (∀ step ∈ entryClassCheck entryClass, step.Acceptable) ↔
      ∀ declaration ∈ entryClass.toOption, declaration.form = .klass := by
  cases entryClass with
  | none => simp [entryClassCheck, toOption]
  | some declaration =>
      rw [entryClassCheck]
      split <;> simp [*, toOption, LinkStep.Acceptable]

@[simp]
theorem acceptable_declareStep (symbol : Option SymbolRecord) :
    (∀ step ∈ declareStep symbol, step.Acceptable) ↔ True := by
  simp [declareStep, LinkStep.Acceptable]

/-! ## Grammatical records -/

variable {c : Category}

/-- A record is grammatical if its own steps are acceptable and its parts are
grammatical. -/
theorem grammatical_iff_layout (record : Record c) :
    record.Grammatical ↔ Item.AllAcceptable record.layout := by
  cases record
  case typeOperation operator operand argument =>
      simp only [Grammatical, layout, Item.allAcceptable_cons, Item.allAcceptable_append,
        Item.allAcceptable_steps, Item.acceptable_part, Item.allAcceptable_nil, and_true]
      rw [← and_assoc, ← acceptable_operandCheck, and_assoc]
  case getField access type =>
      cases access
      simp [Grammatical, layout, and_comm, and_left_comm]
  case asBranch statement =>
      cases statement <;> simp [Grammatical, layout, statementForm]
  case asCatch statement =>
      cases statement <;> simp [Grammatical, layout, statementForm]
  case asBody statement =>
      cases statement <;> simp [Grammatical, layout, statementForm]
  all_goals simp [Grammatical, layout, and_comm, and_left_comm, and_assoc]

/-- A record is grammatical if no step of it fails by itself. -/
theorem grammatical_iff (record : Record c) (depth : Nat) :
    record.Grammatical ↔ ∀ step ∈ record.trace depth, step.Acceptable := by
  induction record using layout_induction generalizing depth with
  | node record inside =>
      rw [grammatical_iff_layout, forall_mem_trace]
      constructor
      · intro acceptable
        refine ⟨fun _ => trivial, fun item own => ?_⟩
        cases item with
        | step step => simpa [Item.trace, Item.Acceptable] using acceptable _ own
        | part part => exact (inside part own _).mp (acceptable _ own)
      · rintro ⟨-, acceptable⟩ item own
        cases item with
        | step step => exact acceptable _ own step (by simp [Item.trace])
        | part part => exact (inside part own _).mpr (acceptable _ own)

end Record

end IrLink
