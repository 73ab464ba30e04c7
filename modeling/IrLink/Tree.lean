import IrLink.Attributes
import IrLink.Constant
import IrLink.Nodes
import IrLink.Symbol

/-!
# Trees

A tree is a linked compiler tree: symbols are the symbols of a session, origins
and visibilities are known values, and jumps know the loop that they leave or
repeat.  Declarations and loops have an identity, a number of which no two
nodes of a session share; links upwards and sideways name their target by it.

`Tree` is one family over `Category`.  The categories `function`, `field`,
`accessor` and `backingField` hold no trees: what is recorded there becomes a
declarator or a declaration.
-/

namespace IrLink

/-- What a declaration belongs to. -/
inductive Parent where
  /-- A local declaration belongs to nothing. -/
  | none
  | file (name : String)
  | declaration (node : Nat)
  deriving DecidableEq, Repr, Inhabited

/-- A jump out of a loop or to its next round. -/
structure Jump where
  loopId : Int32
  label : Option String
  /-- The node of the loop that is left or repeated. -/
  target : Nat
  deriving DecidableEq, Repr

/-- Whether a jump leaves or repeats the given loop node. -/
def Jump.targets (jump : Jump) (node : Nat) : Bool :=
  jump.target == node

/-- What a class declaration says beside its parts. -/
structure ClassHead where
  name : String
  kind : ClassKind
  visibility : Visibility
  modality : Modality
  flags : ClassFlags
  deriving DecidableEq, Repr

/-- What a function declaration says beside its parts. -/
structure FunctionHead where
  name : String
  visibility : Visibility
  modality : Modality
  isInline : Bool
  isExternal : Bool
  isTailrec : Bool
  isSuspend : Bool
  deriving DecidableEq, Repr

/-- What a constructor declaration says beside its parts. -/
structure ConstructorHead where
  name : String
  visibility : Visibility
  isInline : Bool
  isExternal : Bool
  isPrimary : Bool
  deriving DecidableEq, Repr

/-- What a field declaration says beside its parts. -/
structure FieldHead where
  name : String
  visibility : Visibility
  flags : FieldFlags
  deriving DecidableEq, Repr

/-- What a property declaration says beside its parts. -/
structure PropertyHead where
  name : String
  visibility : Visibility
  modality : Modality
  flags : PropertyFlags
  deriving DecidableEq, Repr

/-- What a variable declaration says beside its parts. -/
structure VariableHead where
  name : String
  flags : VariableFlags
  deriving DecidableEq, Repr

/-- Linked compiler trees, by category. -/
inductive Tree : Category → Type where
  -- Lists and optional parts
  | nil {c : Category} : Tree (.list c)
  | cons {c : Category} (head : Tree c) (tail : Tree (.list c)) : Tree (.list c)
  | none {c : Category} : Tree (.option c)
  | some {c : Category} (value : Tree c) : Tree (.option c)
  -- Types
  | simpleType (classifier : Symbol) (nullable : Bool)
      (arguments : Tree (.list .typeArgument)) (annotations : Tree (.list .call)) :
      Tree .type
  | dynamicType (variance : Variance) (annotations : Tree (.list .call)) : Tree .type
  | errorType (variance : Variance) (annotations : Tree (.list .call)) : Tree .type
  | starArgument : Tree .typeArgument
  | projection (variance : Variance) (type : Tree .type) : Tree .typeArgument
  -- Calls and accesses
  | callNode (symbol : Symbol) (qualifier : Option Symbol) (form : CallForm)
      (access : Tree .access) : Tree .call
  | accessNode (valueArguments : Tree (.list (.option .expression)))
      (typeArguments : Tree (.list .type))
      (dispatchReceiver extensionReceiver : Tree (.option .expression)) : Tree .access
  | fieldAccessNode (symbol : Symbol) (qualifier : Option Symbol)
      (receiver : Tree (.option .expression)) : Tree .fieldAccess
  -- Expressions
  | expressionNode (range : Range) (type : Tree .type) (operation : Tree .operation) :
      Tree .expression
  | block (isLambda : Bool) (statements : Tree (.list .statement)) : Tree .operation
  | breakLoop (jump : Jump) : Tree .operation
  | continueLoop (jump : Jump) : Tree .operation
  | callOperation (call : Tree .call) : Tree .operation
  | classReference (symbol : Symbol) (type : Tree .type) : Tree .operation
  | composite (statements : Tree (.list .statement)) : Tree .operation
  | constant (value : Constant) : Tree .operation
  | delegatingConstructorCall (symbol : Symbol) (access : Tree .access) : Tree .operation
  | enumConstructorCall (symbol : Symbol) (access : Tree .access) : Tree .operation
  | functionReference (symbol : Symbol) (typeArguments : Tree (.list .type)) :
      Tree .operation
  | getClass (argument : Tree .expression) : Tree .operation
  | getEnumValue (symbol : Symbol) : Tree .operation
  | getField (access : Tree .fieldAccess) : Tree .operation
  | getObject (symbol : Symbol) : Tree .operation
  | getValue (symbol : Symbol) : Tree .operation
  | instanceInitializerCall (symbol : Symbol) : Tree .operation
  | propertyReference (field getter setter : Option Symbol)
      (typeArguments : Tree (.list .type)) : Tree .operation
  | returnFrom (target : Symbol) (value : Tree .expression) : Tree .operation
  | setField (access : Tree .fieldAccess) (value : Tree .expression) : Tree .operation
  | setVariable (symbol : Symbol) (value : Tree .expression) : Tree .operation
  | stringConcat (arguments : Tree (.list .expression)) : Tree .operation
  | throwValue (value : Tree .expression) : Tree .operation
  | tryCatch (result : Tree .expression) (catches : Tree (.list .catchClause))
      (finalizer : Tree (.option .expression)) : Tree .operation
  | typeOperation (operator : TypeOperator) (operand : Tree .type) (classifier : Symbol)
      (argument : Tree .expression) : Tree .operation
  | vararg (elementType : Tree .type) (elements : Tree (.list .varargElement)) :
      Tree .operation
  | when (branches : Tree (.list .branch)) : Tree .operation
  /-- A loop; its type and range are those of its expression. -/
  | loop (node : Nat) (kind : LoopKind) (id : Int32) (label : Option String)
      (body : Tree (.option .expression)) (condition : Tree .expression) :
      Tree .operation
  | plainElement (expression : Tree .expression) : Tree .varargElement
  | spreadElement (range : Range) (expression : Tree .expression) : Tree .varargElement
  -- Statements
  | bodyStatement (body : Tree .body) : Tree .statement
  | branchStatement (branch : Tree .branch) : Tree .statement
  | catchStatement (clause : Tree .catchClause) : Tree .statement
  | declarationStatement (declaration : Tree .declaration) : Tree .statement
  | expressionStatement (expression : Tree .expression) : Tree .statement
  | branchNode (range : Range) (condition result : Tree .expression) : Tree .branch
  | catchNode (range : Range) (parameter : Tree .declaration)
      (result : Tree .expression) : Tree .catchClause
  | blockBody (range : Range) (statements : Tree (.list .statement)) : Tree .body
  | syntheticBody (range : Range) (kind : SyntheticBody) : Tree .body
  -- Declarations
  | declarationNode (node : Nat) (range : Range) (origin : Origin) (parent : Parent)
      (declarator : Tree .declarator) (annotations : Tree (.list .call)) :
      Tree .declaration
  | classDeclarator (symbol : Symbol) (head : ClassHead)
      (members : Tree (.list .declaration))
      (thisReceiver : Tree (.option .valueParameter))
      (typeParameters : Tree (.list .typeParameter))
      (superTypes : Tree (.list .type)) : Tree .declarator
  /-- A function; an accessor names the node of its property. -/
  | functionDeclarator (symbol : Symbol) (head : FunctionHead) (property : Option Nat)
      (signature : Tree .signature) (overridden : List Symbol) : Tree .declarator
  | constructorDeclarator (symbol : Symbol) (head : ConstructorHead)
      (signature : Tree .signature) : Tree .declarator
  | fieldDeclarator (symbol : Symbol) (head : FieldHead) (type : Tree .type)
      (initializer : Tree (.option .expression)) : Tree .declarator
  | property (head : PropertyHead)
      (backingField getter setter : Tree (.option .declaration)) : Tree .declarator
  | variableDeclarator (symbol : Symbol) (head : VariableHead) (type : Tree .type)
      (initializer : Tree (.option .expression)) : Tree .declarator
  | enumEntry (symbol : Symbol) (name : String)
      (entryClass : Tree (.option .declaration))
      (initializer : Tree (.option .expression)) : Tree .declarator
  | anonymousInitializer (symbol : Symbol) (body : Tree .body) : Tree .declarator
  /-- What stands for a declaration that trees cannot hold. -/
  | errorDeclarator : Tree .declarator
  | signatureNode (returnType : Tree .type) (body : Tree (.option .body))
      (valueParameters : Tree (.list .valueParameter))
      (dispatchReceiver extensionReceiver : Tree (.option .valueParameter))
      (typeParameters : Tree (.list .typeParameter)) : Tree .signature
  | valueParameterNode (range : Range) (origin : Origin) (symbol : Symbol) (name : String)
      (index : Int32) (type : Tree .type) (varargElementType : Tree (.option .type))
      (isCrossinline isNoinline : Bool) (defaultValue : Tree (.option .expression)) :
      Tree .valueParameter
  | typeParameterNode (range : Range) (origin : Origin) (symbol : Symbol) (name : String)
      (index : Int32) (variance : Variance) (superTypes : Tree (.list .type)) :
      Tree .typeParameter

namespace Tree

variable {c : Category}

/-! ## Lists and optional parts -/

/-- A list of trees, from a plain list. -/
def ofList : List (Tree c) → Tree (.list c)
  | [] => nil
  | head :: tail => cons head (ofList tail)

/-- The trees of a list. -/
def toList : Tree (.list c) → List (Tree c)
  | nil => []
  | cons head tail => head :: tail.toList

/-- The tree that an optional part holds. -/
def toOption : Tree (.option c) → Option (Tree c)
  | none => .none
  | some value => .some value

@[simp]
theorem toList_ofList (trees : List (Tree c)) : (ofList trees).toList = trees := by
  induction trees with
  | nil => simp [ofList, toList]
  | cons head tail inductionHypothesis => simp [ofList, toList, inductionHypothesis]

end Tree

end IrLink
