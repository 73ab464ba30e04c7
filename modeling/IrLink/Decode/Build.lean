import IrLink.Decode.Symbol

/-!
# Building trees

`Decode.build` links a record of any category.  It visits the parts of a record
in a fixed order, which matters: symbols are made by the first record that
names them, loops are known from their beginning on, and of several faults the
first is reported.

Expressions, declarations and statements take one level of nesting each; a
synthetic body of a function takes none.  An expression is of its recorded
type, except that jumps out of functions and throws have no value, writes and
constructor calls give the unit value, and reads are of the type that is
recorded with what they read.
-/

namespace IrLink

/-- What a declaration under construction tells its parts. -/
structure Site where
  /-- The identity of the declaration. -/
  node : Nat
  range : Range
  origin : Origin

/-- What has to be known from above to link a record of a category: the range
and recorded type of an operation, what a declaration belongs to, and where
the parts of a declaration stand.  A function also has to know the property
that it serves, if any. -/
@[reducible]
def Context : Category → Type
  | .operation => Range × Tree .type
  | .declaration => Parent
  | .declarator | .signature | .accessor | .backingField | .valueParameter
  | .typeParameter => Site
  | .function => Site × Option Nat
  | .list c => Context c
  | .option c => Context c
  | _ => Unit

/-- The category of tree that a record becomes. -/
@[reducible]
def Category.built : Category → Category
  | .operation => .expression
  | .function | .field => .declarator
  | .accessor | .backingField => .declaration
  | .list c => .list c.built
  | .option c => .option c.built
  | c => c

/-- The form of a recorded statement. -/
def Record.statementForm : Record .statement → StatementForm
  | .unsetStatement .. => .unset
  | .blockBody .. => .blockBody
  | .branchStatement .. => .branch
  | .catchStatement .. => .catchClause
  | .declarationStatement .. => .declaration
  | .expressionStatement .. => .expression
  | .syntheticBody .. => .syntheticBody

namespace Decode

/-- The origin of a given name. -/
def originNamed (name : String) : Decode Origin :=
  match Origin.ofName? name with
  | some origin => return origin
  | none => throw (.unknownOrigin name)

/-- The value of a recorded constant. -/
def constantOf (recorded : RecordedConstant) : Decode Constant :=
  match recorded.value? with
  | some value => return value
  | none => throw .malformedConstant

/-- The classifier of the operand of a type operation. -/
def operandClassifier (operand : Tree .type) : Decode Symbol :=
  match operand.classifier? with
  | some classifier => return classifier
  | none => refuse (.typeOperand operand.typeText)

/-- Refuse a clause that catches something other than a variable. -/
def requireVariable (parameter : Tree .declaration) : Decode Unit :=
  match parameter.declarator.form with
  | .localVariable => return
  | found => refuse (.catchParameter found)

/-- Refuse an enum entry with a body that is no class. -/
def requireClass (entryClass : Tree (.option .declaration)) : Decode Unit :=
  match entryClass.toOption with
  | none => return
  | some declaration =>
    match declaration.declarator.form with
    | .klass => return
    | found => refuse (.enumEntryClass found)

/-- A declaration that belongs to the one under construction and shares its
range and origin. -/
def child (site : Site) (declarator : Tree .declarator) : Decode (Tree .declaration) := do
  return .declarationNode (← freshNode) site.range site.origin (.declaration site.node)
    declarator .nil

/-- Link a record. -/
def build : {c : Category} → Record c → Context c → Decode (Tree c.built)
  -- Lists and optional parts
  | _, .nil, _ => return .nil
  | _, .cons head tail, context => do
    let head ← build head context
    return .cons head (← build tail context)
  | _, .none, _ => return .none
  | _, .some value, context => return .some (← build value context)
  -- Types
  | _, .unsetType, _ => refuse (.unset .type)
  | _, .simpleType annotations _ classifier nullable arguments, _ => do
    let arguments ← build arguments ()
    let annotations ← build annotations ()
    let classifier ← symbolFor .classifier classifier
    return .simpleType classifier nullable arguments annotations
  | _, .dynamicType annotations variance, _ =>
    return .dynamicType variance (← build annotations ())
  | _, .errorType annotations variance, _ =>
    return .errorType variance (← build annotations ())
  | _, .unsetArgument, _ => refuse (.unset .typeArgument)
  | _, .starArgument, _ => return .starArgument
  | _, .projection variance type, _ => return .projection variance (← build type ())
  -- Calls and accesses
  | _, .callNode symbol qualifier form access, _ => do
    let symbol ← symbolFor .callee symbol
    let qualifier ← symbolFor? .superClass qualifier
    return .callNode symbol qualifier form (← build access ())
  | _, .accessNode dispatchReceiver extensionReceiver valueArguments typeArguments, _ => do
    let valueArguments ← build valueArguments ()
    let typeArguments ← build typeArguments ()
    let dispatchReceiver ← build dispatchReceiver ()
    let extensionReceiver ← build extensionReceiver ()
    return .accessNode valueArguments typeArguments dispatchReceiver extensionReceiver
  | _, .fieldAccessNode symbol qualifier receiver, _ => do
    let symbol ← symbolFor .accessedField symbol
    let qualifier ← symbolFor? .superClass qualifier
    return .fieldAccessNode symbol qualifier (← build receiver ())
  -- Expressions
  | _, .expressionNode range type operation, _ => descend do
    let type ← build type ()
    @build .operation operation (range, type)
  | _, .unsetOperation, _ => refuse (.unset .operation)
  | _, .block statements isLambda, (range, type) => do
    return .expressionNode range type (.block isLambda (← build statements ()))
  | _, .breakLoop id label, (range, type) => do
    return .expressionNode range type (.breakLoop (← jumpTo id label))
  | _, .callOperation call, (range, type) => do
    return .expressionNode range type (.callOperation (← build call ()))
  | _, .classReference symbol referred, (range, type) => do
    let symbol ← symbolFor .classifier symbol
    return .expressionNode range type (.classReference symbol (← build referred ()))
  | _, .composite statements, (range, type) => do
    return .expressionNode range type (.composite (← build statements ()))
  | _, .constant value, (range, type) => do
    return .expressionNode range type (.constant (← constantOf value))
  | _, .continueLoop id label, (range, type) => do
    return .expressionNode range type (.continueLoop (← jumpTo id label))
  | _, .delegatingConstructorCall symbol access, (range, _) => do
    let symbol ← symbolFor .constructor symbol
    let access ← build access ()
    return .expressionNode range Builtin.unitType
      (.delegatingConstructorCall symbol access)
  | _, .enumConstructorCall symbol access, (range, _) => do
    let symbol ← symbolFor .constructor symbol
    let access ← build access ()
    return .expressionNode range Builtin.unitType (.enumConstructorCall symbol access)
  | _, .functionReference symbol typeArguments, (range, type) => do
    let symbol ← symbolFor .callee symbol
    let typeArguments ← build typeArguments ()
    return .expressionNode range type (.functionReference symbol typeArguments)
  | _, .getClass argument, (range, type) => do
    return .expressionNode range type (.getClass (← build argument ()))
  | _, .getEnumValue own symbol, (range, _) => do
    let own ← build own ()
    let symbol ← symbolFor .enumValue symbol
    return .expressionNode range own (.getEnumValue symbol)
  | _, .getField (.fieldAccessNode symbol qualifier receiver) own, (range, _) => do
    let symbol ← symbolFor .accessedField symbol
    let own ← build own ()
    let qualifier ← symbolFor? .superClass qualifier
    let receiver ← build receiver ()
    return .expressionNode range own
      (.getField (.fieldAccessNode symbol qualifier receiver))
  | _, .getObject symbol, (range, type) => do
    return .expressionNode range type (.getObject (← symbolFor .objectClass symbol))
  | _, .getValue symbol own, (range, _) => do
    let symbol ← symbolFor .value symbol
    let own ← build own ()
    return .expressionNode range own (.getValue symbol)
  | _, .instanceInitializerCall symbol, (range, _) => do
    let symbol ← symbolFor .objectClass symbol
    return .expressionNode range Builtin.unitType (.instanceInitializerCall symbol)
  | _, .propertyReference field getter setter typeArguments, (range, type) => do
    let field ← symbolFor? .accessedField field
    let getter ← symbolFor? .accessor getter
    let setter ← symbolFor? .accessor setter
    let typeArguments ← build typeArguments ()
    return .expressionNode range type (.propertyReference field getter setter typeArguments)
  | _, .returnFrom target value, (range, _) => do
    let target ← symbolFor .returnTarget target
    let value ← build value ()
    return .expressionNode range Builtin.nothingType (.returnFrom target value)
  | _, .setField access value, (range, _) => do
    let access ← build access ()
    let value ← build value ()
    return .expressionNode range Builtin.unitType (.setField access value)
  | _, .setVariable symbol value, (range, _) => do
    let symbol ← symbolFor .assignedVariable symbol
    let value ← build value ()
    return .expressionNode range Builtin.unitType (.setVariable symbol value)
  | _, .stringConcat arguments, (range, type) => do
    return .expressionNode range type (.stringConcat (← build arguments ()))
  | _, .throwValue value, (range, _) => do
    let value ← build value ()
    return .expressionNode range Builtin.nothingType (.throwValue value)
  | _, .tryCatch result catches finalizer, (range, type) => do
    let result ← build result ()
    let catches ← build catches ()
    let finalizer ← build finalizer ()
    return .expressionNode range type (.tryCatch result catches finalizer)
  | _, .typeOperation operator operand argument, (range, type) => do
    let operand ← build operand ()
    let classifier ← operandClassifier operand
    let argument ← build argument ()
    return .expressionNode range type (.typeOperation operator operand classifier argument)
  | _, .vararg elementType elements, (range, type) => do
    let elementType ← build elementType ()
    let elements ← build elements ()
    return .expressionNode range type (.vararg elementType elements)
  | _, .when branches, (range, type) => do
    return .expressionNode range type (.when (← build branches ()))
  | _, .loop kind id label condition body, (range, type) => do
    let node ← beginLoop { id, kind, range, type }
    let body ← build body ()
    let condition ← build condition ()
    fillLoop node ⟨label, body, condition⟩
    return .expressionNode range type (.loop node kind id label body condition)
  | _, .unsetElement, _ => refuse (.unset .varargElement)
  | _, .plainElement expression, _ => return .plainElement (← build expression ())
  | _, .spreadElement range expression, _ =>
    return .spreadElement range (← build expression ())
  -- Statements
  | _, .unsetStatement _, _ => descend (refuse (.unset .statement))
  | _, .blockBody range statements, _ => descend do
    return .bodyStatement (.blockBody range (← build statements ()))
  | _, .branchStatement range condition result, _ => descend do
    let condition ← build condition ()
    return .branchStatement (.branchNode range condition (← build result ()))
  | _, .catchStatement range parameter result, _ => descend do
    let parameter ← build parameter Parent.none
    requireVariable parameter
    return .catchStatement (.catchNode range parameter (← build result ()))
  | _, .declarationStatement _ declaration, _ => descend do
    return .declarationStatement (← build declaration Parent.none)
  | _, .expressionStatement _ expression, _ => descend do
    return .expressionStatement (← build expression ())
  | _, .syntheticBody range kind, _ => descend do
    return .bodyStatement (.syntheticBody range kind)
  -- Statements in special places
  | _, .asBranch (.branchStatement range condition result), _ => descend do
    let condition ← build condition ()
    return .branchNode range condition (← build result ())
  | _, .asBranch statement, _ => refuse (.statement .branch statement.statementForm)
  | _, .asCatch (.catchStatement range parameter result), _ => descend do
    let parameter ← build parameter Parent.none
    requireVariable parameter
    return .catchNode range parameter (← build result ())
  | _, .asCatch statement, _ => refuse (.statement .catchClause statement.statementForm)
  | _, .asBody (.blockBody range statements), _ => descend do
    return .blockBody range (← build statements ())
  | _, .asBody (.syntheticBody range kind), _ => return .syntheticBody range kind
  | _, .asBody statement, _ => refuse (.statement .body statement.statementForm)
  -- Declarations
  | _, .declarationNode range origin annotations _ declarator, parent => descend do
    let origin ← originNamed origin
    let node ← freshNode
    let declarator ← build declarator ⟨node, range, origin⟩
    let annotations ← build annotations ()
    let declaration : Tree .declaration :=
      .declarationNode node range origin parent declarator annotations
    registerDeclaration declaration
    return declaration
  | _, .unsetDeclarator, _ => refuse (.unset .declarator)
  | _, .anonymousInitializer symbol statements, site => do
    let symbol ← symbolFor .declaredInitializer symbol
    let statements ← build statements ()
    return .anonymousInitializer symbol (.blockBody site.range statements)
  | _, .classDeclarator symbol name kind visibility modality flags members thisReceiver
      typeParameters superTypes, site => do
    let symbol ← symbolFor .declaredClass symbol
    let members ← build members (Parent.declaration site.node)
    let thisReceiver ← build thisReceiver site
    let typeParameters ← build typeParameters site
    let superTypes ← build superTypes ()
    let head := ⟨name, kind, .ofName visibility, modality, flags⟩
    return .classDeclarator symbol head members thisReceiver typeParameters superTypes
  | _, .constructorDeclarator symbol header signature isPrimary, site => do
    let symbol ← symbolFor .declaredConstructor symbol
    let signature ← build signature site
    let head := ⟨header.name, .ofName header.visibility, header.isInline,
      header.isExternal, isPrimary⟩
    return .constructorDeclarator symbol head signature
  | _, .enumEntry symbol name entryClass initializer, site => do
    let symbol ← symbolFor .declaredEnumEntry symbol
    let entryClass ← build entryClass (Parent.declaration site.node)
    requireClass entryClass
    let initializer ← build initializer ()
    return .enumEntry symbol name entryClass initializer
  | _, .fieldDeclarator field, _ => @build .field field ()
  | _, .functionDeclarator function, site => @build .function function (site, none)
  | _, .property name visibility modality flags backingField getter setter, site => do
    let backingField ← build backingField site
    let getter ← build getter site
    let setter ← build setter site
    let head := ⟨name, .ofName visibility, modality, flags⟩
    return .property head backingField getter setter
  -- Type aliases have no place in a tree.
  | _, .typeAlias, _ => return .errorDeclarator
  | _, .variableDeclarator symbol name type flags initializer, _ => do
    let initializer ← build initializer ()
    let symbol ← symbolFor .declaredVariable symbol
    let type ← build type ()
    return .variableDeclarator symbol ⟨name, flags⟩ type initializer
  | _, .signatureNode returnType body valueParameters dispatchReceiver extensionReceiver
      typeParameters, site => do
    let returnType ← build returnType ()
    let body ← build body ()
    let valueParameters ← build valueParameters site
    let dispatchReceiver ← build dispatchReceiver site
    let extensionReceiver ← build extensionReceiver site
    let typeParameters ← build typeParameters site
    return .signatureNode returnType body valueParameters dispatchReceiver
      extensionReceiver typeParameters
  | _, .functionNode symbol header signature modality isTailrec isSuspend overridden,
      (site, property) => do
    let symbol ← symbolFor .declaredFunction symbol
    let signature ← build signature site
    let overridden ← symbolsFor .overriddenFunction overridden
    let head := ⟨header.name, .ofName header.visibility, modality, header.isInline,
      header.isExternal, isTailrec, isSuspend⟩
    return .functionDeclarator symbol head property signature overridden
  | _, .fieldNode symbol name type visibility flags initializer, _ => do
    let symbol ← symbolFor .declaredField symbol
    let type ← build type ()
    let initializer ← build initializer ()
    return .fieldDeclarator symbol ⟨name, .ofName visibility, flags⟩ type initializer
  | _, .asAccessor function, site => do
    let accessor ← child site (← build function (site, some site.node))
    registerDeclaration accessor
    return accessor
  | _, .asBackingField field, site => do
    child site (← build field ())
  | _, .valueParameterNode symbol name index type varargElementType isCrossinline
      isNoinline defaultValue, site => do
    let varargElementType ← build varargElementType ()
    let symbol ← symbolFor .declaredValueParameter symbol
    let type ← build type ()
    let defaultValue ← build defaultValue ()
    return .valueParameterNode site.range site.origin symbol name index type
      varargElementType isCrossinline isNoinline defaultValue
  | _, .typeParameterNode symbol name index variance superTypes, site => do
    let symbol ← symbolFor .declaredTypeParameter symbol
    let superTypes ← build superTypes ()
    return .typeParameterNode site.range site.origin symbol name index variance superTypes

/-! ## What is built from outside -/

/-- Link a type. -/
def buildType (record : Record .type) : Decode (Tree .type) :=
  build record ()

/-- Link an expression. -/
def buildExpression (record : Record .expression) : Decode (Tree .expression) :=
  build record ()

/-- Link a statement. -/
def buildStatement (record : Record .statement) : Decode (Tree .statement) :=
  build record ()

/-- Link a declaration that belongs to `parent`. -/
def buildDeclaration (record : Record .declaration) (parent : Parent) :
    Decode (Tree .declaration) :=
  build record parent

end Decode

end IrLink
