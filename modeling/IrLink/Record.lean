import IrLink.Attributes
import IrLink.Constant
import IrLink.Nodes
import IrLink.Symbol
import IrLink.Universe.Reference

/-!
# Records

A record is a compiler tree as it is stored: symbols are identifiers with an
optional reference to the entity behind them, visibilities and origins are
names, jumps name loops by number.  Every choice between variants can be left
unset, and a place for one kind of statement can hold any other; what is wrong
with a record is found when it is linked, not here.

`Record` is one family over `Category`.  The categories `branch`,
`catchClause`, `body`, `accessor` and `backingField` wrap a record that stands
in a special place, and add nothing to it.
-/

namespace IrLink

/-- The recorded kind of a symbol.  Returnable blocks can be recorded, but no
symbol of a tree stands for one. -/
inductive RecordedKind where
  | symbol (kind : SymbolKind)
  | returnableBlock
  deriving DecidableEq, Repr

/-- How a record names a symbol. -/
structure SymbolRecord where
  kind : RecordedKind
  uniqueId : UniqueId
  reference : Option DescriptorReference
  deriving DecidableEq, Repr

/-- The part of a function or constructor that is said before its type. -/
structure FunctionHeader where
  name : String
  visibility : String
  isInline : Bool
  isExternal : Bool
  deriving DecidableEq, Repr

/-- Stored compiler trees, by category. -/
inductive Record : Category → Type where
  -- Lists and optional parts
  | nil {c : Category} : Record (.list c)
  | cons {c : Category} (head : Record c) (tail : Record (.list c)) : Record (.list c)
  | none {c : Category} : Record (.option c)
  | some {c : Category} (value : Record c) : Record (.option c)
  -- Types
  | unsetType : Record .type
  | simpleType (annotations : Record (.list .call)) (variance : Variance)
      (classifier : SymbolRecord) (nullable : Bool)
      (arguments : Record (.list .typeArgument)) : Record .type
  | dynamicType (annotations : Record (.list .call)) (variance : Variance) : Record .type
  | errorType (annotations : Record (.list .call)) (variance : Variance) : Record .type
  | unsetArgument : Record .typeArgument
  | starArgument : Record .typeArgument
  | projection (variance : Variance) (type : Record .type) : Record .typeArgument
  -- Calls and accesses
  | callNode (symbol : SymbolRecord) (qualifier : Option SymbolRecord) (form : CallForm)
      (access : Record .access) : Record .call
  | accessNode (dispatchReceiver extensionReceiver : Record (.option .expression))
      (valueArguments : Record (.list (.option .expression)))
      (typeArguments : Record (.list .type)) : Record .access
  | fieldAccessNode (symbol : SymbolRecord) (qualifier : Option SymbolRecord)
      (receiver : Record (.option .expression)) : Record .fieldAccess
  -- Expressions
  | expressionNode (range : Range) (type : Record .type) (operation : Record .operation) :
      Record .expression
  | unsetOperation : Record .operation
  | block (statements : Record (.list .statement)) (isLambda : Bool) : Record .operation
  | breakLoop (loop : Int32) (label : Option String) : Record .operation
  | callOperation (call : Record .call) : Record .operation
  | classReference (symbol : SymbolRecord) (type : Record .type) : Record .operation
  | composite (statements : Record (.list .statement)) : Record .operation
  | constant (value : RecordedConstant) : Record .operation
  | continueLoop (loop : Int32) (label : Option String) : Record .operation
  | delegatingConstructorCall (symbol : SymbolRecord) (access : Record .access) :
      Record .operation
  | enumConstructorCall (symbol : SymbolRecord) (access : Record .access) :
      Record .operation
  | functionReference (symbol : SymbolRecord) (typeArguments : Record (.list .type)) :
      Record .operation
  | getClass (argument : Record .expression) : Record .operation
  | getEnumValue (type : Record .type) (symbol : SymbolRecord) : Record .operation
  | getField (access : Record .fieldAccess) (type : Record .type) : Record .operation
  | getObject (symbol : SymbolRecord) : Record .operation
  | getValue (symbol : SymbolRecord) (type : Record .type) : Record .operation
  | instanceInitializerCall (symbol : SymbolRecord) : Record .operation
  | propertyReference (field getter setter : Option SymbolRecord)
      (typeArguments : Record (.list .type)) : Record .operation
  | returnFrom (target : SymbolRecord) (value : Record .expression) : Record .operation
  | setField (access : Record .fieldAccess) (value : Record .expression) :
      Record .operation
  | setVariable (symbol : SymbolRecord) (value : Record .expression) : Record .operation
  | stringConcat (arguments : Record (.list .expression)) : Record .operation
  | throwValue (value : Record .expression) : Record .operation
  | tryCatch (result : Record .expression) (catches : Record (.list .catchClause))
      (finalizer : Record (.option .expression)) : Record .operation
  | typeOperation (operator : TypeOperator) (operand : Record .type)
      (argument : Record .expression) : Record .operation
  | vararg (elementType : Record .type) (elements : Record (.list .varargElement)) :
      Record .operation
  | when (branches : Record (.list .branch)) : Record .operation
  | loop (kind : LoopKind) (id : Int32) (label : Option String)
      (condition : Record .expression) (body : Record (.option .expression)) :
      Record .operation
  | unsetElement : Record .varargElement
  | plainElement (expression : Record .expression) : Record .varargElement
  | spreadElement (range : Range) (expression : Record .expression) :
      Record .varargElement
  -- Statements
  | unsetStatement (range : Range) : Record .statement
  | blockBody (range : Range) (statements : Record (.list .statement)) :
      Record .statement
  | branchStatement (range : Range) (condition result : Record .expression) :
      Record .statement
  | catchStatement (range : Range) (parameter : Record .declaration)
      (result : Record .expression) : Record .statement
  | declarationStatement (range : Range) (declaration : Record .declaration) :
      Record .statement
  | expressionStatement (range : Range) (expression : Record .expression) :
      Record .statement
  | syntheticBody (range : Range) (kind : SyntheticBody) : Record .statement
  | asBranch (statement : Record .statement) : Record .branch
  | asCatch (statement : Record .statement) : Record .catchClause
  | asBody (statement : Record .statement) : Record .body
  -- Declarations
  | declarationNode (range : Range) (origin : String) (annotations : Record (.list .call))
      (file : String) (declarator : Record .declarator) : Record .declaration
  | unsetDeclarator : Record .declarator
  | anonymousInitializer (symbol : SymbolRecord)
      (statements : Record (.list .statement)) : Record .declarator
  | classDeclarator (symbol : SymbolRecord) (name : String) (kind : ClassKind)
      (visibility : String) (modality : Modality) (flags : ClassFlags)
      (members : Record (.list .declaration))
      (thisReceiver : Record (.option .valueParameter))
      (typeParameters : Record (.list .typeParameter))
      (superTypes : Record (.list .type)) : Record .declarator
  | constructorDeclarator (symbol : SymbolRecord) (header : FunctionHeader)
      (signature : Record .signature) (isPrimary : Bool) : Record .declarator
  | enumEntry (symbol : SymbolRecord) (name : String)
      (entryClass : Record (.option .declaration))
      (initializer : Record (.option .expression)) : Record .declarator
  | fieldDeclarator (field : Record .field) : Record .declarator
  | functionDeclarator (function : Record .function) : Record .declarator
  | property (name visibility : String) (modality : Modality) (flags : PropertyFlags)
      (backingField : Record (.option .backingField))
      (getter setter : Record (.option .accessor)) : Record .declarator
  | typeAlias : Record .declarator
  | variableDeclarator (symbol : SymbolRecord) (name : String) (type : Record .type)
      (flags : VariableFlags) (initializer : Record (.option .expression)) :
      Record .declarator
  | signatureNode (returnType : Record .type) (body : Record (.option .body))
      (valueParameters : Record (.list .valueParameter))
      (dispatchReceiver extensionReceiver : Record (.option .valueParameter))
      (typeParameters : Record (.list .typeParameter)) : Record .signature
  | functionNode (symbol : SymbolRecord) (header : FunctionHeader)
      (signature : Record .signature) (modality : Modality) (isTailrec isSuspend : Bool)
      (overridden : List SymbolRecord) : Record .function
  | fieldNode (symbol : SymbolRecord) (name : String) (type : Record .type)
      (visibility : String) (flags : FieldFlags)
      (initializer : Record (.option .expression)) : Record .field
  | asAccessor (function : Record .function) : Record .accessor
  | asBackingField (field : Record .field) : Record .backingField
  | valueParameterNode (symbol : SymbolRecord) (name : String) (index : Int32)
      (type : Record .type) (varargElementType : Record (.option .type))
      (isCrossinline isNoinline : Bool) (defaultValue : Record (.option .expression)) :
      Record .valueParameter
  | typeParameterNode (symbol : SymbolRecord) (name : String) (index : Int32)
      (variance : Variance) (superTypes : Record (.list .type)) : Record .typeParameter

namespace Record

variable {c : Category}

/-- A list of records, from a plain list. -/
def ofList : List (Record c) → Record (.list c)
  | [] => nil
  | head :: tail => cons head (ofList tail)

/-- The records of a list. -/
def toList : Record (.list c) → List (Record c)
  | nil => []
  | cons head tail => head :: tail.toList

/-- An optional record, from a plain option. -/
def ofOption : Option (Record c) → Record (.option c)
  | .none => none
  | .some value => some value

/-- The record that an optional part holds. -/
def toOption : Record (.option c) → Option (Record c)
  | none => .none
  | some value => .some value

@[simp]
theorem toList_ofList (records : List (Record c)) : (ofList records).toList = records := by
  induction records with
  | nil => simp [ofList, toList]
  | cons head tail inductionHypothesis => simp [ofList, toList, inductionHypothesis]

@[simp]
theorem toOption_ofOption (part : Option (Record c)) : (ofOption part).toOption = part := by
  cases part <;> rfl

end Record

/-! ## Headers -/

/-- The header of a file: its name, its package and the identifiers of its
declarations. -/
structure FileRecord where
  name : String
  package : String
  declarations : List UniqueId
  deriving DecidableEq, Repr

/-- The header of a module. -/
structure ModuleRecord where
  name : String
  files : List FileRecord
  deriving DecidableEq, Repr

end IrLink
