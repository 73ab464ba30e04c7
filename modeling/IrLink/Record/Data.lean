import IrLink.Data.Number
import IrLink.Record.Bytes

/-!
# Records as plain data

Every record is an object with its parts as fields, and every choice between
variants is the variant's name with its own fields below it.  `Record.toData`
and `Record.ofData?` go through the same names; the records that only mark a
place stand for what they mark.
-/

namespace IrLink

open Data

/-! ## Small parts -/

/-- Values that stand in data by a name each, listed in their order. -/
@[reducible]
def Data.named {α : Type} [Bytes.Enumerated α] (names : List String) : Form α where
  toData a := .text (names.getD (Bytes.Enumerated.values.idxOf a) "")
  ofData?
    | .text name => (names.zip Bytes.Enumerated.values).lookup name
    | _ => none

instance : Form Variance := named ["Invariant", "In", "Out"]

instance : Form Modality := named ["Final", "Sealed", "Open", "Abstract"]

instance : Form ClassKind :=
  named ["Class", "Interface", "EnumClass", "EnumEntry", "AnnotationClass", "Object"]

instance : Form CallForm := named ["NotPrimitive", "Nullary", "Unary", "Binary"]

instance : Form SyntheticBody := named ["EnumValues", "EnumValueOf"]

instance : Form TypeOperator :=
  named ["Cast", "ImplicitCast", "ImplicitNotNull", "ImplicitCoercionToUnit",
    "ImplicitIntegerCoercion", "SafeCast", "InstanceOf", "NotInstanceOf"]

instance : Form RecordedKind :=
  named ["AnonymousInitializerSymbol", "ClassSymbol", "ConstructorSymbol",
    "EnumEntrySymbol", "FieldSymbol", "FunctionSymbol", "ReturnableBlockSymbol",
    "TypeParameterSymbol", "ValueParameterSymbol", "VariableSymbol"]

instance : Form Range where
  toData r := .object [("start_offset", toData r.start), ("end_offset", toData r.stop)]
  ofData? d := do return ⟨← d.get? "start_offset", ← d.get? "end_offset"⟩

instance : Form UniqueId where
  toData u := .object [("index", toData u.index), ("is_local", toData u.isLocal)]
  ofData? d := do return ⟨← d.get? "index", ← d.get? "is_local"⟩

instance : Form DescriptorReference where
  toData r := .object [("package_fq_name", toData r.package),
    ("class_fq_name", toData r.className), ("name", toData r.name),
    ("uniq_id", toData r.uniqueId), ("is_getter", toData r.isGetter),
    ("is_setter", toData r.isSetter), ("is_fake_override", toData r.isFakeOverride),
    ("is_default_constructor", toData r.isDefaultConstructor),
    ("is_enum_entry", toData r.isEnumEntry), ("is_enum_special", toData r.isEnumSpecial)]
  ofData? d := do
    return ⟨← d.get? "package_fq_name", ← d.get? "class_fq_name", ← d.get? "name",
      ← d.get? "uniq_id", ← d.get? "is_getter", ← d.get? "is_setter",
      ← d.get? "is_fake_override", ← d.get? "is_default_constructor",
      ← d.get? "is_enum_entry", ← d.get? "is_enum_special"⟩

instance : Form SymbolRecord where
  toData s := .object [("kind", toData s.kind), ("uniq_id", toData s.uniqueId),
    ("descriptor_reference", toData s.reference)]
  ofData? d := do
    return ⟨← d.get? "kind", ← d.get? "uniq_id", ← d.get? "descriptor_reference"⟩

instance : Form FileRecord where
  toData f := .object [("file_entry", .object [("name", toData f.name)]),
    ("fq_name", toData f.package), ("declaration_ids", toData f.declarations)]
  ofData? d := do
    return ⟨← (d.field "file_entry").get? "name", ← d.get? "fq_name",
      ← d.get? "declaration_ids"⟩

instance : Form ModuleRecord where
  toData m := .object [("name", toData m.name), ("files", toData m.files)]
  ofData? d := do return ⟨← d.get? "name", ← d.get? "files"⟩

instance : Form FunctionHeader where
  toData h := .object [("name", toData h.name), ("visibility", toData h.visibility),
    ("is_inline", toData h.isInline), ("is_external", toData h.isExternal)]
  ofData? d := do
    return ⟨← d.get? "name", ← d.get? "visibility", ← d.get? "is_inline",
      ← d.get? "is_external"⟩

instance : Form ClassFlags where
  toData f := .object [("is_companion", toData f.isCompanion),
    ("is_inner", toData f.isInner), ("is_data", toData f.isData),
    ("is_external", toData f.isExternal), ("is_inline", toData f.isInline)]
  ofData? d := do
    return ⟨← d.get? "is_companion", ← d.get? "is_inner", ← d.get? "is_data",
      ← d.get? "is_external", ← d.get? "is_inline"⟩

instance : Form FieldFlags where
  toData f := .object [("is_final", toData f.isFinal),
    ("is_external", toData f.isExternal), ("is_static", toData f.isStatic)]
  ofData? d := do
    return ⟨← d.get? "is_final", ← d.get? "is_external", ← d.get? "is_static"⟩

instance : Form PropertyFlags where
  toData f := .object [("is_var", toData f.isVar), ("is_const", toData f.isConst),
    ("is_lateinit", toData f.isLateinit), ("is_delegated", toData f.isDelegated),
    ("is_external", toData f.isExternal)]
  ofData? d := do
    return ⟨← d.get? "is_var", ← d.get? "is_const", ← d.get? "is_lateinit",
      ← d.get? "is_delegated", ← d.get? "is_external"⟩

instance : Form VariableFlags where
  toData f := .object [("is_var", toData f.isVar), ("is_const", toData f.isConst),
    ("is_lateinit", toData f.isLateinit)]
  ofData? d := do
    return ⟨← d.get? "is_var", ← d.get? "is_const", ← d.get? "is_lateinit"⟩

instance : Form RecordedConstant where
  toData
    | .unset => .text "NotSet"
    | .null => .text "Null"
    | .boolean value => .variant "Boolean" (toData value)
    | .byte value => .variant "Byte" (toData value)
    | .char value => .variant "Char" (toData value)
    | .short value => .variant "Short" (toData value)
    | .int value => .variant "Int" (toData value)
    | .long value => .variant "Long" (toData value)
    | .string value => .variant "String" (toData value)
    | .float bits => .variant "Float" (.real (Float32.ofBits bits).toFloat.toBits)
    | .double bits => .variant "Double" (.real bits)
  ofData? d := do
    let (name, held) ← d.variant?
    match name with
    | "NotSet" => return .unset
    | "Null" => return .null
    | "Boolean" => return .boolean (← ofData? held)
    | "Byte" => return .byte (← ofData? held)
    | "Char" => return .char (← ofData? held)
    | "Short" => return .short (← ofData? held)
    | "Int" => return .int (← ofData? held)
    | "Long" => return .long (← ofData? held)
    | "String" => return .string (← ofData? held)
    | "Float" => return .float (← held.float?).toFloat32.toBits
    | "Double" => return .double (← held.float?).toBits
    | _ => none

namespace Record

/-! ## Into data -/

/-- The data of a jump. -/
def jumpData (id : Int32) (label : Option String) : Data :=
  .object [("loop_id", toData id), ("label", toData label)]

/-- The data of annotations and variance, which every type has. -/
def typeBaseData (annotations : Data) (variance : Variance) : Data :=
  .object [("annotations", annotations), ("variance", toData variance)]

/-- The data of a statement. -/
def statementData (range : Range) (statement : Data) : Data :=
  .object [("coordinates", toData range), ("statement", statement)]

/-- The data of a constructor call. -/
def constructorCallData (symbol : SymbolRecord) (access : Data) : Data :=
  .object [("symbol", toData symbol), ("member_access", access)]

/-- An object of which some fields come first. -/
def joined (first second : Data) : Data :=
  match first with
  | .object fields => second.extend fields
  | _ => second

/-- A record as data. -/
protected def toData : {c : Category} → Record c → Data
  | _, nil => .list []
  | _, cons head tail =>
    .list (head.toData :: tail.toData.items?.getD [])
  | _, none => .null
  | _, some value => value.toData
  -- Types
  | _, unsetType => .text "NotSet"
  | _, simpleType annotations variance classifier nullable arguments =>
    .variant "Simple" (.object [("base", typeBaseData annotations.toData variance),
      ("classifier", toData classifier), ("has_question_mark", toData nullable),
      ("arguments", arguments.toData)])
  | _, dynamicType annotations variance =>
    .variant "Dynamic" (typeBaseData annotations.toData variance)
  | _, errorType annotations variance =>
    .variant "Error" (typeBaseData annotations.toData variance)
  | _, unsetArgument => .text "NotSet"
  | _, starArgument => .text "Star"
  | _, projection variance type =>
    .variant "Type" (.object [("variance", toData variance), ("ty", type.toData)])
  -- Calls and accesses
  | _, callNode symbol qualifier form access =>
    .object [("symbol", toData symbol), ("super_symbol", toData qualifier),
      ("kind", toData form), ("member_access", access.toData)]
  | _, accessNode dispatchReceiver extensionReceiver valueArguments typeArguments =>
    .object [("dispatch_receiver", dispatchReceiver.toData),
      ("extension_receiver", extensionReceiver.toData),
      ("value_arguments", valueArguments.toData),
      ("type_arguments", typeArguments.toData)]
  | _, fieldAccessNode symbol qualifier receiver =>
    .object [("symbol", toData symbol), ("super_symbol", toData qualifier),
      ("receiver", receiver.toData)]
  -- Expressions
  | _, expressionNode range type operation =>
    .object [("coordinates", toData range), ("ty", type.toData),
      ("operation", operation.toData)]
  | _, unsetOperation => .text "NotSet"
  | _, block statements isLambda =>
    .variant "Block" (.object [("statements", statements.toData),
      ("is_lambda_origin", toData isLambda)])
  | _, breakLoop id label => .variant "Break" (jumpData id label)
  | _, callOperation call => .variant "Call" call.toData
  | _, classReference symbol type =>
    .variant "ClassReference"
      (.object [("class_symbol", toData symbol), ("class_type", type.toData)])
  | _, composite statements =>
    .variant "Composite" (.object [("statements", statements.toData)])
  | _, constant value => .variant "Const" (toData value)
  | _, continueLoop id label => .variant "Continue" (jumpData id label)
  | _, delegatingConstructorCall symbol access =>
    .variant "DelegatingConstructorCall" (constructorCallData symbol access.toData)
  | _, enumConstructorCall symbol access =>
    .variant "EnumConstructorCall" (constructorCallData symbol access.toData)
  | _, functionReference symbol typeArguments =>
    .variant "FunctionReference"
      (.object [("symbol", toData symbol), ("type_arguments", typeArguments.toData)])
  | _, getClass argument => .variant "GetClass" (.object [("argument", argument.toData)])
  | _, getEnumValue type symbol =>
    .variant "GetEnumValue" (.object [("ty", type.toData), ("symbol", toData symbol)])
  | _, getField access type =>
    .variant "GetField" (.object [("field_access", access.toData), ("ty", type.toData)])
  | _, getObject symbol => .variant "GetObject" (.object [("symbol", toData symbol)])
  | _, getValue symbol type =>
    .variant "GetValue" (.object [("symbol", toData symbol), ("ty", type.toData)])
  | _, instanceInitializerCall symbol =>
    .variant "InstanceInitializerCall" (.object [("symbol", toData symbol)])
  | _, propertyReference field getter setter typeArguments =>
    .variant "PropertyReference" (.object [("field", toData field),
      ("getter", toData getter), ("setter", toData setter),
      ("type_arguments", typeArguments.toData)])
  | _, returnFrom target value =>
    .variant "Return" (.object [("return_target", toData target), ("value", value.toData)])
  | _, setField access value =>
    .variant "SetField" (.object [("field_access", access.toData), ("value", value.toData)])
  | _, setVariable symbol value =>
    .variant "SetVariable" (.object [("symbol", toData symbol), ("value", value.toData)])
  | _, stringConcat arguments =>
    .variant "StringConcat" (.object [("arguments", arguments.toData)])
  | _, throwValue value => .variant "Throw" (.object [("value", value.toData)])
  | _, tryCatch result catches finalizer =>
    .variant "Try" (.object [("result", result.toData), ("catches", catches.toData),
      ("finally", finalizer.toData)])
  | _, typeOperation operator operand argument =>
    .variant "TypeOp" (.object [("operator", toData operator), ("operand", operand.toData),
      ("argument", argument.toData)])
  | _, vararg elementType elements =>
    .variant "Vararg" (.object [("element_type", elementType.toData),
      ("elements", elements.toData)])
  | _, when branches => .variant "When" (.object [("branches", branches.toData)])
  | _, loop kind id label condition body =>
    .variant (if kind == .doWhile then "DoWhile" else "While")
      (joined (jumpData id label)
        (.object [("condition", condition.toData), ("body", body.toData)]))
  | _, unsetElement => .text "NotSet"
  | _, plainElement expression => .variant "Expression" expression.toData
  | _, spreadElement range expression =>
    .variant "SpreadElement"
      (.object [("coordinates", toData range), ("expression", expression.toData)])
  -- Statements
  | _, unsetStatement range => statementData range (.text "NotSet")
  | _, blockBody range statements =>
    statementData range
      (.variant "BlockBody" (.object [("statements", statements.toData)]))
  | _, branchStatement range condition result =>
    statementData range
      (.variant "Branch"
        (.object [("condition", condition.toData), ("result", result.toData)]))
  | _, catchStatement range parameter result =>
    statementData range
      (.variant "Catch"
        (.object [("catch_parameter", parameter.toData), ("result", result.toData)]))
  | _, declarationStatement range declaration =>
    statementData range (.variant "Declaration" declaration.toData)
  | _, expressionStatement range expression =>
    statementData range (.variant "Expression" expression.toData)
  | _, syntheticBody range kind =>
    statementData range (.variant "SyntheticBody" (.object [("kind", toData kind)]))
  | _, asBranch statement => statement.toData
  | _, asCatch statement => statement.toData
  | _, asBody statement => statement.toData
  -- Declarations
  | _, declarationNode range origin annotations file declarator =>
    .object [("coordinates", toData range), ("origin", .object [("name", toData origin)]),
      ("annotations", annotations.toData), ("file_name", toData file),
      ("declarator", declarator.toData)]
  | _, unsetDeclarator => .text "NotSet"
  | _, anonymousInitializer symbol statements =>
    .variant "AnonymousInit" (.object [("symbol", toData symbol),
      ("body", .object [("statements", statements.toData)])])
  | _, classDeclarator symbol name kind visibility modality flags members thisReceiver
      typeParameters superTypes =>
    .variant "Class" (joined (toData flags) (.object [("symbol", toData symbol),
      ("name", toData name), ("kind", toData kind), ("visibility", toData visibility),
      ("modality", toData modality), ("declarations", members.toData),
      ("this_receiver", thisReceiver.toData), ("type_parameters", typeParameters.toData),
      ("super_types", superTypes.toData)]))
  | _, constructorDeclarator symbol header signature isPrimary =>
    .variant "Constructor" (.object [("symbol", toData symbol),
      ("base", joined (toData header) signature.toData), ("is_primary", toData isPrimary)])
  | _, enumEntry symbol name entryClass initializer =>
    .variant "EnumEntry" (.object [("symbol", toData symbol), ("name", toData name),
      ("corresponding_class", entryClass.toData), ("initializer", initializer.toData)])
  | _, fieldDeclarator field => .variant "Field" field.toData
  | _, functionDeclarator function => .variant "Function" function.toData
  | _, property name visibility modality flags backingField getter setter =>
    .variant "Property" (joined (toData flags) (.object [("name", toData name),
      ("visibility", toData visibility), ("modality", toData modality),
      ("backing_field", backingField.toData), ("getter", getter.toData),
      ("setter", setter.toData)]))
  | _, typeAlias => .text "TypeAlias"
  | _, variableDeclarator symbol name type flags initializer =>
    .variant "Variable" (joined (toData flags) (.object [("symbol", toData symbol),
      ("name", toData name), ("ty", type.toData), ("initializer", initializer.toData)]))
  | _, signatureNode returnType body valueParameters dispatchReceiver extensionReceiver
      typeParameters =>
    .object [("return_type", returnType.toData), ("body", body.toData),
      ("value_parameters", valueParameters.toData),
      ("dispatch_receiver", dispatchReceiver.toData),
      ("extension_receiver", extensionReceiver.toData),
      ("type_parameters", typeParameters.toData)]
  | _, functionNode symbol header signature modality isTailrec isSuspend overridden =>
    .object [("symbol", toData symbol), ("base", joined (toData header) signature.toData),
      ("modality", toData modality), ("is_tailrec", toData isTailrec),
      ("is_suspend", toData isSuspend), ("overridden", toData overridden)]
  | _, fieldNode symbol name type visibility flags initializer =>
    joined (toData flags) (.object [("symbol", toData symbol), ("name", toData name),
      ("ty", type.toData), ("visibility", toData visibility),
      ("initializer", initializer.toData)])
  | _, asAccessor function => function.toData
  | _, asBackingField field => field.toData
  | _, valueParameterNode symbol name index type varargElementType isCrossinline
      isNoinline defaultValue =>
    .object [("symbol", toData symbol), ("name", toData name), ("index", toData index),
      ("ty", type.toData), ("vararg_element_type", varargElementType.toData),
      ("is_crossinline", toData isCrossinline), ("is_noinline", toData isNoinline),
      ("default_value", defaultValue.toData)]
  | _, typeParameterNode symbol name index variance superTypes =>
    .object [("symbol", toData symbol), ("name", toData name), ("index", toData index),
      ("variance", toData variance), ("super_types", superTypes.toData)]

/-! ## Out of data -/

/-- Functions that find records of all categories in data. -/
abbrev Finders := (c : Category) → Data → Option (Record c)

/-- The record of a category that is a part of the data under a name. -/
def partOf (part : Finders) (d : Data) (c : Category) (name : String) : Option (Record c) :=
  part c (d.field name)

/-- The type that data stands for. -/
def typeOfData (part : Finders) (d : Data) : Option (Record .type) := do
  let (name, held) ← d.variant?
  match name with
  | "NotSet" => return .unsetType
  | "Simple" =>
    let base := held.field "base"
    return .simpleType (← partOf part base (.list .call) "annotations")
      (← base.get? "variance") (← held.get? "classifier")
      (← held.get? "has_question_mark")
      (← partOf part held (.list .typeArgument) "arguments")
  | "Dynamic" =>
    return .dynamicType (← partOf part held (.list .call) "annotations")
      (← held.get? "variance")
  | "Error" =>
    return .errorType (← partOf part held (.list .call) "annotations")
      (← held.get? "variance")
  | _ => .none

/-- The loop that data stands for. -/
def loopOfData (part : Finders) (kind : LoopKind) (d : Data) :
    Option (Record .operation) := do
  return .loop kind (← d.get? "loop_id") (← d.get? "label")
    (← partOf part d .expression "condition") (← partOf part d (.option .expression) "body")

/-- The operation that data stands for. -/
def operationOfData (part : Finders) (d : Data) : Option (Record .operation) := do
  let (name, held) ← d.variant?
  let part? := partOf part held
  match name with
  | "NotSet" => return .unsetOperation
  | "Block" =>
    return .block (← part? (.list .statement) "statements") (← held.get? "is_lambda_origin")
  | "Break" => return .breakLoop (← held.get? "loop_id") (← held.get? "label")
  | "Call" => return .callOperation (← part .call held)
  | "ClassReference" =>
    return .classReference (← held.get? "class_symbol") (← part? .type "class_type")
  | "Composite" => return .composite (← part? (.list .statement) "statements")
  | "Const" => return .constant (← ofData? held)
  | "Continue" => return .continueLoop (← held.get? "loop_id") (← held.get? "label")
  | "DelegatingConstructorCall" =>
    return .delegatingConstructorCall (← held.get? "symbol")
      (← part? .access "member_access")
  | "DoWhile" => loopOfData part .doWhile held
  | "EnumConstructorCall" =>
    return .enumConstructorCall (← held.get? "symbol") (← part? .access "member_access")
  | "FunctionReference" =>
    return .functionReference (← held.get? "symbol") (← part? (.list .type) "type_arguments")
  | "GetClass" => return .getClass (← part? .expression "argument")
  | "GetEnumValue" => return .getEnumValue (← part? .type "ty") (← held.get? "symbol")
  | "GetField" =>
    return .getField (← part? .fieldAccess "field_access") (← part? .type "ty")
  | "GetObject" => return .getObject (← held.get? "symbol")
  | "GetValue" => return .getValue (← held.get? "symbol") (← part? .type "ty")
  | "InstanceInitializerCall" => return .instanceInitializerCall (← held.get? "symbol")
  | "PropertyReference" =>
    return .propertyReference (← held.get? "field") (← held.get? "getter")
      (← held.get? "setter") (← part? (.list .type) "type_arguments")
  | "Return" =>
    return .returnFrom (← held.get? "return_target") (← part? .expression "value")
  | "SetField" =>
    return .setField (← part? .fieldAccess "field_access") (← part? .expression "value")
  | "SetVariable" =>
    return .setVariable (← held.get? "symbol") (← part? .expression "value")
  | "StringConcat" => return .stringConcat (← part? (.list .expression) "arguments")
  | "Throw" => return .throwValue (← part? .expression "value")
  | "Try" =>
    return .tryCatch (← part? .expression "result") (← part? (.list .catchClause) "catches")
      (← part? (.option .expression) "finally")
  | "TypeOp" =>
    return .typeOperation (← held.get? "operator") (← part? .type "operand")
      (← part? .expression "argument")
  | "Vararg" =>
    return .vararg (← part? .type "element_type") (← part? (.list .varargElement) "elements")
  | "When" => return .when (← part? (.list .branch) "branches")
  | "While" => loopOfData part .whileTrue held
  | _ => .none

/-- The statement that data stands for. -/
def statementOfData (part : Finders) (d : Data) : Option (Record .statement) := do
  let range ← d.get? "coordinates"
  let (name, held) ← (d.field "statement").variant?
  let part? := partOf part held
  match name with
  | "NotSet" => return .unsetStatement range
  | "BlockBody" => return .blockBody range (← part? (.list .statement) "statements")
  | "Branch" =>
    return .branchStatement range (← part? .expression "condition")
      (← part? .expression "result")
  | "Catch" =>
    return .catchStatement range (← part? .declaration "catch_parameter")
      (← part? .expression "result")
  | "Declaration" => return .declarationStatement range (← part .declaration held)
  | "Expression" => return .expressionStatement range (← part .expression held)
  | "SyntheticBody" => return .syntheticBody range (← held.get? "kind")
  | _ => .none

/-- The function that data stands for. -/
def functionOfData (part : Finders) (d : Data) : Option (Record .function) := do
  return .functionNode (← d.get? "symbol") (← d.get? "base")
    (← partOf part d .signature "base") (← d.get? "modality") (← d.get? "is_tailrec")
    (← d.get? "is_suspend") (← d.get? "overridden")

/-- The field that data stands for. -/
def fieldOfData (part : Finders) (d : Data) : Option (Record .field) := do
  return .fieldNode (← d.get? "symbol") (← d.get? "name") (← partOf part d .type "ty")
    (← d.get? "visibility") (← ofData? d)
    (← partOf part d (.option .expression) "initializer")

/-- The declarator that data stands for. -/
def declaratorOfData (part : Finders) (d : Data) : Option (Record .declarator) := do
  let (name, held) ← d.variant?
  let part? := partOf part held
  match name with
  | "NotSet" => return .unsetDeclarator
  | "AnonymousInit" =>
    return .anonymousInitializer (← held.get? "symbol")
      (← partOf part (held.field "body") (.list .statement) "statements")
  | "Class" =>
    return .classDeclarator (← held.get? "symbol") (← held.get? "name") (← held.get? "kind")
      (← held.get? "visibility") (← held.get? "modality") (← ofData? held)
      (← part? (.list .declaration) "declarations")
      (← part? (.option .valueParameter) "this_receiver")
      (← part? (.list .typeParameter) "type_parameters")
      (← part? (.list .type) "super_types")
  | "Constructor" =>
    return .constructorDeclarator (← held.get? "symbol") (← held.get? "base")
      (← part? .signature "base") (← held.get? "is_primary")
  | "EnumEntry" =>
    return .enumEntry (← held.get? "symbol") (← held.get? "name")
      (← part? (.option .declaration) "corresponding_class")
      (← part? (.option .expression) "initializer")
  | "Field" => return .fieldDeclarator (← part .field held)
  | "Function" => return .functionDeclarator (← part .function held)
  | "Property" =>
    return .property (← held.get? "name") (← held.get? "visibility")
      (← held.get? "modality") (← ofData? held)
      (← part? (.option .backingField) "backing_field")
      (← part? (.option .accessor) "getter") (← part? (.option .accessor) "setter")
  | "TypeAlias" => return .typeAlias
  | "Variable" =>
    return .variableDeclarator (← held.get? "symbol") (← held.get? "name")
      (← part? .type "ty") (← ofData? held) (← part? (.option .expression) "initializer")
  | _ => .none

/-- The record of any category that data stands for, with its parts found by
`part`. -/
def layerOfData (part : Finders) : Finders
  | .list c, d => do return ofList (← (← d.items?).mapM (part c))
  | .option c, d =>
    match d with
    | .null => return .none
    | d => return .some (← part c d)
  | .type, d => typeOfData part d
  | .typeArgument, d => do
    match ← d.variant? with
    | ("NotSet", _) => return .unsetArgument
    | ("Star", _) => return .starArgument
    | ("Type", held) =>
      return .projection (← held.get? "variance") (← partOf part held .type "ty")
    | _ => .none
  | .call, d => do
    return .callNode (← d.get? "symbol") (← d.get? "super_symbol") (← d.get? "kind")
      (← partOf part d .access "member_access")
  | .access, d => do
    return .accessNode (← partOf part d (.option .expression) "dispatch_receiver")
      (← partOf part d (.option .expression) "extension_receiver")
      (← partOf part d (.list (.option .expression)) "value_arguments")
      (← partOf part d (.list .type) "type_arguments")
  | .fieldAccess, d => do
    return .fieldAccessNode (← d.get? "symbol") (← d.get? "super_symbol")
      (← partOf part d (.option .expression) "receiver")
  | .expression, d => do
    return .expressionNode (← d.get? "coordinates") (← partOf part d .type "ty")
      (← partOf part d .operation "operation")
  | .operation, d => operationOfData part d
  | .varargElement, d => do
    match ← d.variant? with
    | ("NotSet", _) => return .unsetElement
    | ("Expression", held) => return .plainElement (← part .expression held)
    | ("SpreadElement", held) =>
      return .spreadElement (← held.get? "coordinates")
        (← partOf part held .expression "expression")
    | _ => .none
  | .statement, d => statementOfData part d
  | .branch, d => do return .asBranch (← statementOfData part d)
  | .catchClause, d => do return .asCatch (← statementOfData part d)
  | .body, d => do return .asBody (← statementOfData part d)
  | .declaration, d => do
    return .declarationNode (← d.get? "coordinates") (← (d.field "origin").get? "name")
      (← partOf part d (.list .call) "annotations") (← d.get? "file_name")
      (← partOf part d .declarator "declarator")
  | .declarator, d => declaratorOfData part d
  | .signature, d => do
    return .signatureNode (← partOf part d .type "return_type")
      (← partOf part d (.option .body) "body")
      (← partOf part d (.list .valueParameter) "value_parameters")
      (← partOf part d (.option .valueParameter) "dispatch_receiver")
      (← partOf part d (.option .valueParameter) "extension_receiver")
      (← partOf part d (.list .typeParameter) "type_parameters")
  | .function, d => functionOfData part d
  | .field, d => fieldOfData part d
  | .accessor, d => do return .asAccessor (← functionOfData part d)
  | .backingField, d => do return .asBackingField (← fieldOfData part d)
  | .valueParameter, d => do
    return .valueParameterNode (← d.get? "symbol") (← d.get? "name") (← d.get? "index")
      (← partOf part d .type "ty") (← partOf part d (.option .type) "vararg_element_type")
      (← d.get? "is_crossinline") (← d.get? "is_noinline")
      (← partOf part d (.option .expression) "default_value")
  | .typeParameter, d => do
    return .typeParameterNode (← d.get? "symbol") (← d.get? "name") (← d.get? "index")
      (← d.get? "variance") (← partOf part d (.list .type) "super_types")

/-- The record that data stands for, if its parts are nested at most `depth`
deep. -/
def nestedOfData : (depth : Nat) → Finders
  | 0, _, _ => .none
  | depth + 1, c, d => layerOfData (nestedOfData depth) c d

/-- The record of a category that data stands for.  At most every second layer
stays at the same data. -/
protected def ofData? (c : Category) (d : Data) : Option (Record c) :=
  nestedOfData (2 * d.depth + 2) c d

end Record

end IrLink
