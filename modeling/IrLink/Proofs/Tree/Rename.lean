import IrLink.Tree.Expression

/-!
# Trees up to identity

Symbols, declarations and loops of a tree have identities that depend on the
session in which the tree was linked.  A `Renaming` replaces them, and leaves
everything else of a tree as it is.  `Tree.shape` is what a tree says apart
from them: of a symbol only the identifier is left, and of a link to a
declaration or loop only that there is one.
-/

namespace IrLink

/-- Replacements for the identities in a tree. -/
structure Renaming where
  symbol : Symbol → Symbol
  /-- New identities of declarations. -/
  node : Nat → Nat
  /-- New identities of loops. -/
  loop : Nat → Nat

/-- What a declaration belongs to, under a renaming. -/
def Parent.rename (names : Renaming) : Parent → Parent
  | .none => .none
  | .file name => .file name
  | .declaration node => .declaration (names.node node)

/-- A jump under a renaming. -/
def Jump.rename (names : Renaming) (jump : Jump) : Jump :=
  { jump with target := names.loop jump.target }

namespace Tree

/-- A tree under a renaming. -/
def rename (names : Renaming) : {c : Category} → Tree c → Tree c
  | _, nil => nil
  | _, cons head tail => cons (head.rename names) (tail.rename names)
  | _, none => none
  | _, some value => some (value.rename names)
  | _, simpleType classifier nullable arguments annotations =>
      simpleType (names.symbol classifier) nullable (arguments.rename names)
        (annotations.rename names)
  | _, dynamicType variance annotations =>
      dynamicType variance (annotations.rename names)
  | _, errorType variance annotations => errorType variance (annotations.rename names)
  | _, starArgument => starArgument
  | _, projection variance type => projection variance (type.rename names)
  | _, callNode symbol qualifier form access =>
      callNode (names.symbol symbol) (qualifier.map names.symbol) form
        (access.rename names)
  | _, accessNode valueArguments typeArguments dispatchReceiver extensionReceiver =>
      accessNode (valueArguments.rename names) (typeArguments.rename names)
        (dispatchReceiver.rename names) (extensionReceiver.rename names)
  | _, fieldAccessNode symbol qualifier receiver =>
      fieldAccessNode (names.symbol symbol) (qualifier.map names.symbol)
        (receiver.rename names)
  | _, expressionNode range type operation =>
      expressionNode range (type.rename names) (operation.rename names)
  | _, block isLambda statements => block isLambda (statements.rename names)
  | _, breakLoop jump => breakLoop (jump.rename names)
  | _, continueLoop jump => continueLoop (jump.rename names)
  | _, callOperation call => callOperation (call.rename names)
  | _, classReference symbol type =>
      classReference (names.symbol symbol) (type.rename names)
  | _, composite statements => composite (statements.rename names)
  | _, constant value => constant value
  | _, delegatingConstructorCall symbol access =>
      delegatingConstructorCall (names.symbol symbol) (access.rename names)
  | _, enumConstructorCall symbol access =>
      enumConstructorCall (names.symbol symbol) (access.rename names)
  | _, functionReference symbol typeArguments =>
      functionReference (names.symbol symbol) (typeArguments.rename names)
  | _, getClass argument => getClass (argument.rename names)
  | _, getEnumValue symbol => getEnumValue (names.symbol symbol)
  | _, getField access => getField (access.rename names)
  | _, getObject symbol => getObject (names.symbol symbol)
  | _, getValue symbol => getValue (names.symbol symbol)
  | _, instanceInitializerCall symbol => instanceInitializerCall (names.symbol symbol)
  | _, propertyReference field getter setter typeArguments =>
      propertyReference (field.map names.symbol) (getter.map names.symbol)
        (setter.map names.symbol) (typeArguments.rename names)
  | _, returnFrom target value =>
      returnFrom (names.symbol target) (value.rename names)
  | _, setField access value => setField (access.rename names) (value.rename names)
  | _, setVariable symbol value =>
      setVariable (names.symbol symbol) (value.rename names)
  | _, stringConcat arguments => stringConcat (arguments.rename names)
  | _, throwValue value => throwValue (value.rename names)
  | _, tryCatch result catches finalizer =>
      tryCatch (result.rename names) (catches.rename names)
        (finalizer.rename names)
  | _, typeOperation operator operand classifier argument =>
      typeOperation operator (operand.rename names) (names.symbol classifier)
        (argument.rename names)
  | _, vararg elementType elements =>
      vararg (elementType.rename names) (elements.rename names)
  | _, when branches => when (branches.rename names)
  | _, loop node kind id label body condition =>
      loop (names.loop node) kind id label (body.rename names)
        (condition.rename names)
  | _, plainElement expression => plainElement (expression.rename names)
  | _, spreadElement range expression => spreadElement range (expression.rename names)
  | _, bodyStatement body => bodyStatement (body.rename names)
  | _, branchStatement branch => branchStatement (branch.rename names)
  | _, catchStatement clause => catchStatement (clause.rename names)
  | _, declarationStatement declaration =>
      declarationStatement (declaration.rename names)
  | _, expressionStatement expression => expressionStatement (expression.rename names)
  | _, branchNode range condition result =>
      branchNode range (condition.rename names) (result.rename names)
  | _, catchNode range parameter result =>
      catchNode range (parameter.rename names) (result.rename names)
  | _, blockBody range statements => blockBody range (statements.rename names)
  | _, syntheticBody range kind => syntheticBody range kind
  | _, declarationNode node range origin parent declarator annotations =>
      declarationNode (names.node node) range origin (parent.rename names)
        (declarator.rename names) (annotations.rename names)
  | _, classDeclarator symbol head members thisReceiver typeParameters superTypes =>
      classDeclarator (names.symbol symbol) head (members.rename names)
        (thisReceiver.rename names) (typeParameters.rename names)
        (superTypes.rename names)
  | _, functionDeclarator symbol head served signature overridden =>
      functionDeclarator (names.symbol symbol) head (served.map names.node)
        (signature.rename names) (overridden.map names.symbol)
  | _, constructorDeclarator symbol head signature =>
      constructorDeclarator (names.symbol symbol) head (signature.rename names)
  | _, fieldDeclarator symbol head type initializer =>
      fieldDeclarator (names.symbol symbol) head (type.rename names)
        (initializer.rename names)
  | _, property head backingField getter setter =>
      property head (backingField.rename names) (getter.rename names)
        (setter.rename names)
  | _, variableDeclarator symbol head type initializer =>
      variableDeclarator (names.symbol symbol) head (type.rename names)
        (initializer.rename names)
  | _, enumEntry symbol name entryClass initializer =>
      enumEntry (names.symbol symbol) name (entryClass.rename names)
        (initializer.rename names)
  | _, anonymousInitializer symbol body =>
      anonymousInitializer (names.symbol symbol) (body.rename names)
  | _, errorDeclarator => errorDeclarator
  | _, signatureNode returnType body valueParameters dispatchReceiver extensionReceiver
      typeParameters =>
      signatureNode (returnType.rename names) (body.rename names)
        (valueParameters.rename names) (dispatchReceiver.rename names)
        (extensionReceiver.rename names) (typeParameters.rename names)
  | _, valueParameterNode range origin symbol name index type varargElementType
      isCrossinline isNoinline defaultValue =>
      valueParameterNode range origin (names.symbol symbol) name index
        (type.rename names) (varargElementType.rename names) isCrossinline isNoinline
        (defaultValue.rename names)
  | _, typeParameterNode range origin symbol name index variance superTypes =>
      typeParameterNode range origin (names.symbol symbol) name index variance
        (superTypes.rename names)

end Tree

/-- The renaming that changes nothing. -/
def Renaming.same : Renaming where
  symbol := id
  node := id
  loop := id

/-- One renaming and then another. -/
def Renaming.andThen (first second : Renaming) : Renaming where
  symbol := second.symbol ∘ first.symbol
  node := second.node ∘ first.node
  loop := second.loop ∘ first.loop

theorem Parent.rename_rename (first second : Renaming) (parent : Parent) :
    (parent.rename first).rename second = parent.rename (first.andThen second) := by
  cases parent <;> rfl

theorem Parent.rename_same (parent : Parent) : parent.rename .same = parent := by
  cases parent <;> rfl

namespace Tree

/-- A tree with its own identities. -/
theorem rename_same {c : Category} (tree : Tree c) : tree.rename .same = tree := by
  induction tree with
  | declarationNode _ _ _ parent _ _ declarator annotations =>
      rw [rename, declarator, annotations, Parent.rename_same]
      rfl
  | _ =>
      simp_all only [rename, Renaming.same, Jump.rename, id, Option.map_id_fun,
        List.map_id_fun]

/-- One renaming after the other. -/
theorem rename_rename (first second : Renaming) {c : Category} (tree : Tree c) :
    (tree.rename first).rename second = tree.rename (first.andThen second) := by
  induction tree with
  | declarationNode _ _ _ parent _ _ declarator annotations =>
      rw [rename, rename, rename, declarator, annotations, Parent.rename_rename]
      rfl
  | _ =>
      simp_all only [rename, Renaming.andThen, Jump.rename, Function.comp_apply,
        Option.map_map, List.map_map]

/-- A renaming acts on the classifier of a type. -/
theorem classifier?_rename (names : Renaming) (type : Tree .type) :
    (type.rename names).classifier? = type.classifier?.map names.symbol := by
  cases type <;> rfl

end Tree

/-! ## Shapes -/

/-- A symbol of which nothing but the identifier is known. -/
def Symbol.ofId (id : UInt64) : Symbol :=
  ⟨0, id, default, none⟩

/-- What is left of a symbol apart from its identity. -/
def Symbol.shape (symbol : Symbol) : Symbol :=
  .ofId symbol.id

/-- The renaming that forgets all identities. -/
def Renaming.forgetful : Renaming where
  symbol := Symbol.shape
  node := fun _ => 0
  loop := fun _ => 0

/-- What a tree says, apart from the identities of its symbols, declarations
and loops. -/
def Tree.shape {c : Category} (tree : Tree c) : Tree c :=
  tree.rename .forgetful

end IrLink
