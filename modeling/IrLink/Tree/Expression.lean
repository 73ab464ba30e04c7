import IrLink.Tree

/-!
# Types, expressions and statements of trees

What can be asked of a type, and its text: the name of its classifier, its
arguments between angle brackets, and a question mark if it is nullable.
Operations and statements have names under which they are spoken of.
-/

namespace IrLink.Tree

/-! ## Types -/

/-- The type of a classifier, without arguments and not nullable. -/
def plainType (classifier : Symbol) : Tree .type :=
  simpleType classifier false nil nil

/-- The symbol that classifies a type.  Dynamic and error types have none. -/
def classifier? : Tree .type → Option Symbol
  | simpleType classifier .. => .some classifier
  | dynamicType .. | errorType .. => .none

/-- Whether a type admits null.  A dynamic type does; an error type says
nothing of it. -/
def isNullable : Tree .type → Bool
  | simpleType _ nullable .. => nullable
  | dynamicType .. => true
  | errorType .. => false

/-- Whether a type stands for one that could not be made out. -/
def isErrorType : Tree .type → Bool
  | errorType .. => true
  | _ => false

/-- The arguments of a type. -/
def typeArguments : Tree .type → Tree (.list .typeArgument)
  | simpleType _ _ arguments _ => arguments
  | dynamicType .. | errorType .. => nil

/-- The annotations of a type. -/
def typeAnnotations : Tree .type → Tree (.list .call)
  | simpleType _ _ _ annotations => annotations
  | dynamicType _ annotations => annotations
  | errorType _ annotations => annotations

/-- Whether two types are classified by the same symbol. -/
def sameClassifier (a b : Tree .type) : Bool :=
  match a.classifier?, b.classifier? with
  | .some a, .some b => a.serial == b.serial
  | _, _ => false

/-- Whether a type argument stands for any type. -/
def isStar : Tree .typeArgument → Bool
  | starArgument => true
  | projection .. => false

/-- The variance that a type argument states. -/
def argumentVariance? : Tree .typeArgument → Option Variance
  | starArgument => .none
  | projection variance _ => .some variance

/-- The text of a type or type argument, and of a list of them with `, `
between its items.  Other nodes have no such text. -/
def typeText : {c : Category} → Tree c → String
  | _, simpleType classifier nullable arguments _ =>
    let written := arguments.typeText
    classifier.name ++
      (match arguments with
        | nil => ""
        | _ => "<" ++ written ++ ">") ++
      (if nullable then "?" else "")
  | _, dynamicType .. => "dynamic"
  | _, errorType .. => "<error>"
  | _, starArgument => "*"
  | _, projection .invariant type => type.typeText
  | _, projection variance type => variance.text ++ " " ++ type.typeText
  | _, cons head tail =>
    head.typeText ++
      (match tail with
        | nil => ""
        | tail => ", " ++ tail.typeText)
  | _, _ => ""

/-! ## Operations and statements -/

/-- The name of an operation.  Loops of both kinds share one. -/
def operationName : Tree .operation → String
  | block .. => "block"
  | breakLoop .. => "break"
  | continueLoop .. => "continue"
  | callOperation .. => "call"
  | classReference .. => "class reference"
  | composite .. => "composite"
  | constant .. => "const"
  | delegatingConstructorCall .. => "delegating constructor call"
  | enumConstructorCall .. => "enum constructor call"
  | functionReference .. => "function reference"
  | getClass .. => "get class"
  | getEnumValue .. => "get enum value"
  | getField .. => "get field"
  | getObject .. => "get object"
  | getValue .. => "get value"
  | instanceInitializerCall .. => "instance initializer call"
  | propertyReference .. => "property reference"
  | returnFrom .. => "return"
  | setField .. => "set field"
  | setVariable .. => "set variable"
  | stringConcat .. => "string concat"
  | throwValue .. => "throw"
  | tryCatch .. => "try"
  | typeOperation .. => "type operator"
  | vararg .. => "vararg"
  | when .. => "when"
  | loop .. => "loop"

/-- The name of a statement. -/
def statementName : Tree .statement → String
  | bodyStatement (blockBody ..) => "block body"
  | bodyStatement (syntheticBody ..) => "synthetic body"
  | branchStatement .. => "branch"
  | catchStatement .. => "catch"
  | declarationStatement .. => "declaration"
  | expressionStatement .. => "expression"

end IrLink.Tree
