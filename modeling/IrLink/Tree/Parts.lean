import IrLink.Tree

/-!
# Parts of trees

`Tree.nodes` lists a tree and everything inside it, each node in front of its
own parts.  A node is given together with its category.
-/

namespace IrLink

/-- A tree of any category. -/
structure Node where
  {category : Category}
  tree : Tree category

namespace Tree

/-- A node in front of what is inside it. -/
def above {c : Category} (tree : Tree c) (inside : List Node) : List Node :=
  ⟨tree⟩ :: inside

/-- Everything inside a tree, without the tree itself. -/
def inside : {c : Category} → Tree c → List Node
  | _, nil => []
  | _, cons head tail => head.above head.inside ++ tail.above tail.inside
  | _, none => []
  | _, some value => value.above value.inside
  | _, simpleType _ _ arguments annotations =>
    arguments.above arguments.inside ++ annotations.above annotations.inside
  | _, dynamicType _ annotations => annotations.above annotations.inside
  | _, errorType _ annotations => annotations.above annotations.inside
  | _, starArgument => []
  | _, projection _ type => type.above type.inside
  | _, callNode _ _ _ access => access.above access.inside
  | _, accessNode valueArguments typeArguments dispatchReceiver extensionReceiver =>
    valueArguments.above valueArguments.inside ++ typeArguments.above typeArguments.inside ++
      dispatchReceiver.above dispatchReceiver.inside ++
      extensionReceiver.above extensionReceiver.inside
  | _, fieldAccessNode _ _ receiver => receiver.above receiver.inside
  | _, expressionNode _ type operation =>
    type.above type.inside ++ operation.above operation.inside
  | _, block _ statements => statements.above statements.inside
  | _, breakLoop _ => []
  | _, continueLoop _ => []
  | _, callOperation call => call.above call.inside
  | _, classReference _ type => type.above type.inside
  | _, composite statements => statements.above statements.inside
  | _, constant _ => []
  | _, delegatingConstructorCall _ access => access.above access.inside
  | _, enumConstructorCall _ access => access.above access.inside
  | _, functionReference _ typeArguments => typeArguments.above typeArguments.inside
  | _, getClass argument => argument.above argument.inside
  | _, getEnumValue _ => []
  | _, getField access => access.above access.inside
  | _, getObject _ => []
  | _, getValue _ => []
  | _, instanceInitializerCall _ => []
  | _, propertyReference _ _ _ typeArguments => typeArguments.above typeArguments.inside
  | _, returnFrom _ value => value.above value.inside
  | _, setField access value => access.above access.inside ++ value.above value.inside
  | _, setVariable _ value => value.above value.inside
  | _, stringConcat arguments => arguments.above arguments.inside
  | _, throwValue value => value.above value.inside
  | _, tryCatch result catches finalizer =>
    result.above result.inside ++ catches.above catches.inside ++
      finalizer.above finalizer.inside
  | _, typeOperation _ operand _ argument =>
    operand.above operand.inside ++ argument.above argument.inside
  | _, vararg elementType elements =>
    elementType.above elementType.inside ++ elements.above elements.inside
  | _, when branches => branches.above branches.inside
  | _, loop _ _ _ _ body condition =>
    body.above body.inside ++ condition.above condition.inside
  | _, plainElement expression => expression.above expression.inside
  | _, spreadElement _ expression => expression.above expression.inside
  | _, bodyStatement body => body.above body.inside
  | _, branchStatement branch => branch.above branch.inside
  | _, catchStatement clause => clause.above clause.inside
  | _, declarationStatement declaration => declaration.above declaration.inside
  | _, expressionStatement expression => expression.above expression.inside
  | _, branchNode _ condition result =>
    condition.above condition.inside ++ result.above result.inside
  | _, catchNode _ parameter result =>
    parameter.above parameter.inside ++ result.above result.inside
  | _, blockBody _ statements => statements.above statements.inside
  | _, syntheticBody _ _ => []
  | _, declarationNode _ _ _ _ declarator annotations =>
    declarator.above declarator.inside ++ annotations.above annotations.inside
  | _, classDeclarator _ _ members thisReceiver typeParameters superTypes =>
    members.above members.inside ++ thisReceiver.above thisReceiver.inside ++
      typeParameters.above typeParameters.inside ++ superTypes.above superTypes.inside
  | _, functionDeclarator _ _ _ signature _ => signature.above signature.inside
  | _, constructorDeclarator _ _ signature => signature.above signature.inside
  | _, fieldDeclarator _ _ type initializer =>
    type.above type.inside ++ initializer.above initializer.inside
  | _, property _ backingField getter setter =>
    backingField.above backingField.inside ++ getter.above getter.inside ++
      setter.above setter.inside
  | _, variableDeclarator _ _ type initializer =>
    type.above type.inside ++ initializer.above initializer.inside
  | _, enumEntry _ _ entryClass initializer =>
    entryClass.above entryClass.inside ++ initializer.above initializer.inside
  | _, anonymousInitializer _ body => body.above body.inside
  | _, errorDeclarator => []
  | _, signatureNode returnType body valueParameters dispatchReceiver extensionReceiver
      typeParameters =>
    returnType.above returnType.inside ++ body.above body.inside ++
      valueParameters.above valueParameters.inside ++
      dispatchReceiver.above dispatchReceiver.inside ++
      extensionReceiver.above extensionReceiver.inside ++
      typeParameters.above typeParameters.inside
  | _, valueParameterNode _ _ _ _ _ type varargElementType _ _ defaultValue =>
    type.above type.inside ++ varargElementType.above varargElementType.inside ++
      defaultValue.above defaultValue.inside
  | _, typeParameterNode _ _ _ _ _ _ superTypes => superTypes.above superTypes.inside

/-- A tree and everything inside it. -/
def nodes {c : Category} (tree : Tree c) : List Node :=
  tree.above tree.inside

end Tree

namespace Node

/-- The identity of a declaration. -/
def declaration? : Node → Option Nat
  | ⟨.declarationNode node ..⟩ => some node
  | _ => none

end Node

/-- The identities of the declarations inside a tree. -/
def Tree.declarations {c : Category} (tree : Tree c) : List Nat :=
  tree.nodes.filterMap Node.declaration?

end IrLink
