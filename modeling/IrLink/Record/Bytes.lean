import IrLink.Bytes.Coded
import IrLink.Record

/-!
# The byte form of records

`Record.write` gives the bytes of a record and `Record.read` takes a record
from the front of bytes.  Both go through the parts of a record in the same
order; the records that only mark a place add no bytes.
-/

namespace IrLink

open Bytes

/-! ## Small parts -/

instance : Enumerated Variance where
  values := [.invariant, .contravariant, .covariant]
  mem_values := by intro a; cases a <;> decide
  nodup_values := by decide
  length_values := by decide

instance : Enumerated Modality where
  values := [.final, .sealed, .inheritable, .abstract]
  mem_values := by intro a; cases a <;> decide
  nodup_values := by decide
  length_values := by decide

instance : Enumerated ClassKind where
  values := [.plain, .interface, .enumClass, .enumEntry, .annotationClass, .object]
  mem_values := by intro a; cases a <;> decide
  nodup_values := by decide
  length_values := by decide

instance : Enumerated CallForm where
  values := [.ordinary, .nullary, .unary, .binary]
  mem_values := by intro a; cases a <;> decide
  nodup_values := by decide
  length_values := by decide

instance : Enumerated TypeOperator where
  values := [.cast, .implicitCast, .implicitNotNull, .implicitCoercionToUnit,
    .implicitIntegerCoercion, .safeCast, .instanceOf, .notInstanceOf]
  mem_values := by intro a; cases a <;> decide
  nodup_values := by decide
  length_values := by decide

instance : Enumerated SyntheticBody where
  values := [.values, .valueOf]
  mem_values := by intro a; cases a <;> decide
  nodup_values := by decide
  length_values := by decide

instance : Enumerated RecordedKind where
  values := [.symbol .anonymousInitializer, .symbol .klass, .symbol .constructor,
    .symbol .enumEntry, .symbol .field, .symbol .function, .returnableBlock,
    .symbol .typeParameter, .symbol .valueParameter, .symbol .localVariable]
  mem_values := by
    intro a
    cases a with
    | symbol kind => cases kind <;> decide
    | returnableBlock => decide
  nodup_values := by decide
  length_values := by decide

instance : Coded Range where
  write range := join [write range.start, write range.stop]
  read := do return ⟨← read, ← read⟩

instance : Coded UniqueId where
  write id := join [write id.index, write id.isLocal]
  read := do return ⟨← read, ← read⟩

instance : Coded DescriptorReference where
  write r :=
    join [write r.package, write r.className, write r.name, write r.uniqueId, write r.isGetter,
      write r.isSetter, write r.isFakeOverride, write r.isDefaultConstructor,
      write r.isEnumEntry, write r.isEnumSpecial]
  read := do
    return ⟨← read, ← read, ← read, ← read, ← read, ← read, ← read, ← read, ← read,
      ← read⟩

instance : Coded SymbolRecord where
  write symbol :=
    join [write symbol.kind, write symbol.uniqueId, write symbol.reference]
  read := do return ⟨← read, ← read, ← read⟩

instance : Coded FunctionHeader where
  write header :=
    join [write header.name, write header.visibility, write header.isInline,
      write header.isExternal]
  read := do return ⟨← read, ← read, ← read, ← read⟩

instance : Coded ClassFlags where
  write flags :=
    join [write flags.isCompanion, write flags.isInner, write flags.isData,
      write flags.isExternal, write flags.isInline]
  read := do return ⟨← read, ← read, ← read, ← read, ← read⟩

instance : Coded FieldFlags where
  write flags :=
    join [write flags.isFinal, write flags.isExternal, write flags.isStatic]
  read := do return ⟨← read, ← read, ← read⟩

instance : Coded PropertyFlags where
  write flags :=
    join [write flags.isVar, write flags.isConst, write flags.isLateinit,
      write flags.isDelegated, write flags.isExternal]
  read := do return ⟨← read, ← read, ← read, ← read, ← read⟩

instance : Coded VariableFlags where
  write flags := join [write flags.isVar, write flags.isConst, write flags.isLateinit]
  read := do return ⟨← read, ← read, ← read⟩

instance : Coded RecordedConstant where
  write
    | .unset => word 4 0
    | .null => word 4 1
    | .boolean value => join [word 4 2, write value]
    | .byte value => join [word 4 3, write value]
    | .char value => join [word 4 4, write value]
    | .short value => join [word 4 5, write value]
    | .int value => join [word 4 6, write value]
    | .long value => join [word 4 7, write value]
    | .string value => join [word 4 8, write value]
    | .float bits => join [word 4 9, write bits]
    | .double bits => join [word 4 10, write bits]
  read := Reader.variant [
    return .unset,
    return .null,
    return .boolean (← read),
    return .byte (← read),
    return .char (← read),
    return .short (← read),
    return .int (← read),
    return .long (← read),
    return .string (← read),
    return .float (← read),
    return .double (← read)]

instance : Coded FileRecord where
  write file := join [write file.name, write file.package, write file.declarations]
  read := do return ⟨← read, ← read, ← read⟩

instance : Coded ModuleRecord where
  write module := join [write module.name, write module.files]
  read := do return ⟨← read, ← read⟩

namespace Record

/-! ## Writing -/

/-- The number of items of a list of records. -/
def itemCount : {c : Category} → Record c → Nat
  | _, cons _ tail => tail.itemCount + 1
  | _, _ => 0

/-- The bytes of a record.  Those of a list are the bytes of its items; the
record that holds the list writes their number. -/
protected def write : {c : Category} → Record c → List UInt8
  | _, nil => []
  | _, cons head tail => head.write ++ tail.write
  | _, none => word 1 0
  | _, some value => word 1 1 ++ value.write
  -- Types
  | _, unsetType => word 4 0
  | _, simpleType annotations variance classifier nullable arguments =>
    join [word 4 1, word 8 annotations.itemCount, annotations.write, write variance,
      write classifier, write nullable, word 8 arguments.itemCount,
      arguments.write]
  | _, dynamicType annotations variance =>
    join [word 4 2, word 8 annotations.itemCount, annotations.write, write variance]
  | _, errorType annotations variance =>
    join [word 4 3, word 8 annotations.itemCount, annotations.write, write variance]
  | _, unsetArgument => word 4 0
  | _, starArgument => word 4 1
  | _, projection variance type => join [word 4 2, write variance, type.write]
  -- Calls and accesses
  | _, callNode symbol qualifier form access =>
    join [write symbol, write qualifier, write form, access.write]
  | _, accessNode dispatchReceiver extensionReceiver valueArguments typeArguments =>
    join [dispatchReceiver.write, extensionReceiver.write, word 8 valueArguments.itemCount,
      valueArguments.write, word 8 typeArguments.itemCount, typeArguments.write]
  | _, fieldAccessNode symbol qualifier receiver =>
    join [write symbol, write qualifier, receiver.write]
  -- Expressions
  | _, expressionNode range type operation =>
    join [write range, type.write, operation.write]
  | _, unsetOperation => word 4 0
  | _, block statements isLambda =>
    join [word 4 1, word 8 statements.itemCount, statements.write, write isLambda]
  | _, breakLoop id label => join [word 4 2, write id, write label]
  | _, callOperation call => join [word 4 3, call.write]
  | _, classReference symbol type => join [word 4 4, write symbol, type.write]
  | _, composite statements =>
    join [word 4 5, word 8 statements.itemCount, statements.write]
  | _, constant value => join [word 4 6, write value]
  | _, continueLoop id label => join [word 4 7, write id, write label]
  | _, delegatingConstructorCall symbol access =>
    join [word 4 8, write symbol, access.write]
  | _, loop .doWhile id label condition body =>
    join [word 4 9, write id, write label, condition.write, body.write]
  | _, enumConstructorCall symbol access =>
    join [word 4 10, write symbol, access.write]
  | _, functionReference symbol typeArguments =>
    join [word 4 11, write symbol, word 8 typeArguments.itemCount, typeArguments.write]
  | _, getClass argument => join [word 4 12, argument.write]
  | _, getEnumValue type symbol => join [word 4 13, type.write, write symbol]
  | _, getField access type => join [word 4 14, access.write, type.write]
  | _, getObject symbol => join [word 4 15, write symbol]
  | _, getValue symbol type => join [word 4 16, write symbol, type.write]
  | _, instanceInitializerCall symbol => join [word 4 17, write symbol]
  | _, propertyReference field getter setter typeArguments =>
    join [word 4 18, write field, write getter, write setter, word 8 typeArguments.itemCount,
      typeArguments.write]
  | _, returnFrom target value => join [word 4 19, write target, value.write]
  | _, setField access value => join [word 4 20, access.write, value.write]
  | _, setVariable symbol value => join [word 4 21, write symbol, value.write]
  | _, stringConcat arguments =>
    join [word 4 22, word 8 arguments.itemCount, arguments.write]
  | _, throwValue value => join [word 4 23, value.write]
  | _, tryCatch result catches finalizer =>
    join [word 4 24, result.write, word 8 catches.itemCount, catches.write,
      finalizer.write]
  | _, typeOperation operator operand argument =>
    join [word 4 25, write operator, operand.write, argument.write]
  | _, vararg elementType elements =>
    join [word 4 26, elementType.write, word 8 elements.itemCount, elements.write]
  | _, when branches => join [word 4 27, word 8 branches.itemCount, branches.write]
  | _, loop .whileTrue id label condition body =>
    join [word 4 28, write id, write label, condition.write, body.write]
  | _, unsetElement => word 4 0
  | _, plainElement expression => join [word 4 1, expression.write]
  | _, spreadElement range expression => join [word 4 2, write range, expression.write]
  -- Statements
  | _, unsetStatement range => join [write range, word 4 0]
  | _, blockBody range statements =>
    join [write range, word 4 1, word 8 statements.itemCount, statements.write]
  | _, branchStatement range condition result =>
    join [write range, word 4 2, condition.write, result.write]
  | _, catchStatement range parameter result =>
    join [write range, word 4 3, parameter.write, result.write]
  | _, declarationStatement range declaration =>
    join [write range, word 4 4, declaration.write]
  | _, expressionStatement range expression =>
    join [write range, word 4 5, expression.write]
  | _, syntheticBody range kind => join [write range, word 4 6, write kind]
  | _, asBranch statement => statement.write
  | _, asCatch statement => statement.write
  | _, asBody statement => statement.write
  -- Declarations
  | _, declarationNode range origin annotations file declarator =>
    join [write range, write origin, word 8 annotations.itemCount, annotations.write,
      write file, declarator.write]
  | _, unsetDeclarator => word 4 0
  | _, anonymousInitializer symbol statements =>
    join [word 4 1, write symbol, word 8 statements.itemCount, statements.write]
  | _, classDeclarator symbol name kind visibility modality flags members thisReceiver
      typeParameters superTypes =>
    join [word 4 2, write symbol, write name, write kind, write visibility, write modality,
      write flags, word 8 members.itemCount, members.write, thisReceiver.write,
      word 8 typeParameters.itemCount, typeParameters.write, word 8 superTypes.itemCount,
      superTypes.write]
  | _, constructorDeclarator symbol header signature isPrimary =>
    join [word 4 3, write symbol, write header, signature.write, write isPrimary]
  | _, enumEntry symbol name entryClass initializer =>
    join [word 4 4, write symbol, write name, entryClass.write, initializer.write]
  | _, fieldDeclarator field => join [word 4 5, field.write]
  | _, functionDeclarator function => join [word 4 6, function.write]
  | _, property name visibility modality flags backingField getter setter =>
    join [word 4 7, write name, write visibility, write modality, write flags,
      backingField.write, getter.write, setter.write]
  | _, typeAlias => word 4 8
  | _, variableDeclarator symbol name type flags initializer =>
    join [word 4 9, write symbol, write name, type.write, write flags,
      initializer.write]
  | _, signatureNode returnType body valueParameters dispatchReceiver extensionReceiver
      typeParameters =>
    join [returnType.write, body.write, word 8 valueParameters.itemCount,
      valueParameters.write, dispatchReceiver.write, extensionReceiver.write,
      word 8 typeParameters.itemCount, typeParameters.write]
  | _, functionNode symbol header signature modality isTailrec isSuspend overridden =>
    join [write symbol, write header, signature.write, write modality, write isTailrec,
      write isSuspend, write overridden]
  | _, fieldNode symbol name type visibility flags initializer =>
    join [write symbol, write name, type.write, write visibility, write flags,
      initializer.write]
  | _, asAccessor function => function.write
  | _, asBackingField field => field.write
  | _, valueParameterNode symbol name index type varargElementType isCrossinline
      isNoinline defaultValue =>
    join [write symbol, write name, write index, type.write, varargElementType.write,
      write isCrossinline, write isNoinline, defaultValue.write]
  | _, typeParameterNode symbol name index variance superTypes =>
    join [write symbol, write name, write index, write variance, word 8 superTypes.itemCount,
      superTypes.write]

/-! ## Reading -/

/-- Readers for the records of all categories. -/
abbrev Readers := (c : Category) → Reader (Record c)

/-- Take a statement, with its parts taken by `part`. -/
def readStatement (part : Readers) : Reader (Record .statement) := do
  let range ← read
  Reader.variant [
    return .unsetStatement range,
    return .blockBody range (← part (.list .statement)),
    return .branchStatement range (← part .expression) (← part .expression),
    return .catchStatement range (← part .declaration) (← part .expression),
    return .declarationStatement range (← part .declaration),
    return .expressionStatement range (← part .expression),
    return .syntheticBody range (← read)]

/-- Take an operation, with its parts taken by `part`. -/
def readOperation (part : Readers) : Reader (Record .operation) :=
  Reader.variant [
    return .unsetOperation,
    return .block (← part (.list .statement)) (← read),
    return .breakLoop (← read) (← read),
    return .callOperation (← part .call),
    return .classReference (← read) (← part .type),
    return .composite (← part (.list .statement)),
    return .constant (← read),
    return .continueLoop (← read) (← read),
    return .delegatingConstructorCall (← read) (← part .access),
    return .loop .doWhile (← read) (← read) (← part .expression)
      (← part (.option .expression)),
    return .enumConstructorCall (← read) (← part .access),
    return .functionReference (← read) (← part (.list .type)),
    return .getClass (← part .expression),
    return .getEnumValue (← part .type) (← read),
    return .getField (← part .fieldAccess) (← part .type),
    return .getObject (← read),
    return .getValue (← read) (← part .type),
    return .instanceInitializerCall (← read),
    return .propertyReference (← read) (← read) (← read) (← part (.list .type)),
    return .returnFrom (← read) (← part .expression),
    return .setField (← part .fieldAccess) (← part .expression),
    return .setVariable (← read) (← part .expression),
    return .stringConcat (← part (.list .expression)),
    return .throwValue (← part .expression),
    return .tryCatch (← part .expression) (← part (.list .catchClause))
      (← part (.option .expression)),
    return .typeOperation (← read) (← part .type) (← part .expression),
    return .vararg (← part .type) (← part (.list .varargElement)),
    return .when (← part (.list .branch)),
    return .loop .whileTrue (← read) (← read) (← part .expression)
      (← part (.option .expression))]

/-- Take a declarator, with its parts taken by `part`. -/
def readDeclarator (part : Readers) : Reader (Record .declarator) :=
  Reader.variant [
    return .unsetDeclarator,
    return .anonymousInitializer (← read) (← part (.list .statement)),
    return .classDeclarator (← read) (← read) (← read) (← read) (← read) (← read)
      (← part (.list .declaration)) (← part (.option .valueParameter))
      (← part (.list .typeParameter)) (← part (.list .type)),
    return .constructorDeclarator (← read) (← read) (← part .signature) (← read),
    return .enumEntry (← read) (← read) (← part (.option .declaration))
      (← part (.option .expression)),
    return .fieldDeclarator (← part .field),
    return .functionDeclarator (← part .function),
    return .property (← read) (← read) (← read) (← read) (← part (.option .backingField))
      (← part (.option .accessor)) (← part (.option .accessor)),
    return .typeAlias,
    return .variableDeclarator (← read) (← read) (← part .type) (← read)
      (← part (.option .expression))]

/-- Take a function, with its parts taken by `part`. -/
def readFunction (part : Readers) : Reader (Record .function) := do
  return .functionNode (← read) (← read) (← part .signature) (← read) (← read) (← read)
    (← read)

/-- Take a field, with its parts taken by `part`. -/
def readField (part : Readers) : Reader (Record .field) := do
  return .fieldNode (← read) (← read) (← part .type) (← read) (← read)
    (← part (.option .expression))

/-- Take a record of any category, with its parts taken by `part`. -/
def readLayer (part : Readers) : Readers
  | .list c => do return ofList (← Reader.times (part c) (← Reader.number 8))
  | .option c => do
    match ← Reader.number 1 with
    | 0 => return .none
    | 1 => return .some (← part c)
    | found => throw (.optionTag found)
  | .type => Reader.variant [
      return .unsetType,
      return .simpleType (← part (.list .call)) (← read) (← read) (← read)
        (← part (.list .typeArgument)),
      return .dynamicType (← part (.list .call)) (← read),
      return .errorType (← part (.list .call)) (← read)]
  | .typeArgument => Reader.variant [
      return .unsetArgument,
      return .starArgument,
      return .projection (← read) (← part .type)]
  | .call => do return .callNode (← read) (← read) (← read) (← part .access)
  | .access => do
    return .accessNode (← part (.option .expression)) (← part (.option .expression))
      (← part (.list (.option .expression))) (← part (.list .type))
  | .fieldAccess => do
    return .fieldAccessNode (← read) (← read) (← part (.option .expression))
  | .expression => do return .expressionNode (← read) (← part .type) (← part .operation)
  | .operation => readOperation part
  | .varargElement => Reader.variant [
      return .unsetElement,
      return .plainElement (← part .expression),
      return .spreadElement (← read) (← part .expression)]
  | .statement => readStatement part
  | .branch => do return .asBranch (← readStatement part)
  | .catchClause => do return .asCatch (← readStatement part)
  | .body => do return .asBody (← readStatement part)
  | .declaration => do
    return .declarationNode (← read) (← read) (← part (.list .call)) (← read)
      (← part .declarator)
  | .declarator => readDeclarator part
  | .signature => do
    return .signatureNode (← part .type) (← part (.option .body))
      (← part (.list .valueParameter)) (← part (.option .valueParameter))
      (← part (.option .valueParameter)) (← part (.list .typeParameter))
  | .function => readFunction part
  | .field => readField part
  | .accessor => do return .asAccessor (← readFunction part)
  | .backingField => do return .asBackingField (← readField part)
  | .valueParameter => do
    return .valueParameterNode (← read) (← read) (← read) (← part .type)
      (← part (.option .type)) (← read) (← read) (← part (.option .expression))
  | .typeParameter => do
    return .typeParameterNode (← read) (← read) (← read) (← read) (← part (.list .type))

/-- Take a record whose parts are nested at most `depth` deep. -/
def readNested : (depth : Nat) → Readers
  | 0, _ => throw .endOfInput
  | depth + 1, c => readLayer (readNested depth) c

/-- Take a record of a category.  Of two layers that are nested at least one
takes a byte, so the bytes end before the depth is used up: any greater depth
finds the same (`Record.readNested_eq_read`). -/
protected def read (c : Category) : Reader (Record c) := fun bytes =>
  readNested (2 * bytes.length + 2) c bytes

/-- The record of a category that stands at the front of bytes. -/
def ofBytes (c : Category) (bytes : List UInt8) : Except Fault (Record c) :=
  (Record.read c).run' bytes

end Record

/-- The header of a module that stands at the front of bytes. -/
def ModuleRecord.ofBytes (bytes : List UInt8) : Except Fault ModuleRecord :=
  (read : Reader ModuleRecord).run' bytes

end IrLink
