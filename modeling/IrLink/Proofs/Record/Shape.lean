import IrLink.Decode.Build
import IrLink.Proofs.Tree.Rename

/-!
# The shape of what a record becomes

`Record.shape?` says of a record alone what its tree looks like, once the
identities of symbols, declarations and loops are forgotten.  Every part keeps
its form, its place and the data that is recorded with it, and every symbol has
the recorded identifier.  The shape adds only what no record can choose: the
types of expressions without a value of their own, the classifier of a type
operand, and the place and origin that the parts of a declaration inherit.

A record with an unset choice has no shape.
-/

namespace IrLink

/-- The shape of the symbol that a record names. -/
def SymbolRecord.shape (record : SymbolRecord) : Symbol :=
  .ofId record.uniqueId.index

/-- What is known from above, apart from identities. -/
def Context.shape : {c : Category} → Context c → Context c
  | .operation, (range, type) => (range, type.shape)
  | .declaration, parent => parent.rename .forgetful
  | .declarator, site => { site with node := 0 }
  | .signature, site => { site with node := 0 }
  | .accessor, site => { site with node := 0 }
  | .backingField, site => { site with node := 0 }
  | .valueParameter, site => { site with node := 0 }
  | .typeParameter, site => { site with node := 0 }
  | .function, (site, served) => ({ site with node := 0 }, served.map fun _ => 0)
  | .list c, context => Context.shape (c := c) context
  | .option c, context => Context.shape (c := c) context
  | .type, _ | .typeArgument, _ | .call, _ | .access, _ | .fieldAccess, _
  | .expression, _ | .varargElement, _ | .statement, _ | .branch, _ | .catchClause, _
  | .body, _ | .field, _ => ()

namespace Record

/-- The shape of the tree that a record becomes. -/
def shape? : {c : Category} → Record c → Context c → Option (Tree c.built)
  | _, nil, _ => return .nil
  | _, cons head tail, context => do
      return .cons (← head.shape? context) (← tail.shape? context)
  | _, none, _ => return .none
  | _, some value, context => return .some (← value.shape? context)
  -- Types
  | _, unsetType, _ => Option.none
  | _, simpleType annotations _ classifier nullable arguments, _ => do
      return .simpleType classifier.shape nullable (← arguments.shape? ())
        (← annotations.shape? ())
  | _, dynamicType annotations variance, _ =>
      return .dynamicType variance (← annotations.shape? ())
  | _, errorType annotations variance, _ =>
      return .errorType variance (← annotations.shape? ())
  | _, unsetArgument, _ => Option.none
  | _, starArgument, _ => return .starArgument
  | _, projection variance type, _ => return .projection variance (← type.shape? ())
  -- Calls and accesses
  | _, callNode symbol qualifier form access, _ =>
      return .callNode symbol.shape (qualifier.map (·.shape)) form (← access.shape? ())
  | _, accessNode dispatchReceiver extensionReceiver valueArguments typeArguments, _ => do
      return .accessNode (← valueArguments.shape? ()) (← typeArguments.shape? ())
        (← dispatchReceiver.shape? ()) (← extensionReceiver.shape? ())
  | _, fieldAccessNode symbol qualifier receiver, _ =>
      return .fieldAccessNode symbol.shape (qualifier.map (·.shape)) (← receiver.shape? ())
  -- Expressions of the recorded type
  | _, expressionNode range type operation, _ => do
      @shape? .operation operation (range, ← type.shape? ())
  | _, unsetOperation, _ => Option.none
  | _, block statements isLambda, (range, type) =>
      return .expressionNode range type (.block isLambda (← statements.shape? ()))
  | _, breakLoop id label, (range, type) =>
      return .expressionNode range type (.breakLoop ⟨id, label, 0⟩)
  | _, callOperation call, (range, type) =>
      return .expressionNode range type (.callOperation (← call.shape? ()))
  | _, classReference symbol referred, (range, type) => do
      return .expressionNode range type
        (.classReference symbol.shape (← referred.shape? ()))
  | _, composite statements, (range, type) =>
      return .expressionNode range type (.composite (← statements.shape? ()))
  | _, constant value, (range, type) =>
      return .expressionNode range type (.constant (← value.value?))
  | _, continueLoop id label, (range, type) =>
      return .expressionNode range type (.continueLoop ⟨id, label, 0⟩)
  | _, functionReference symbol typeArguments, (range, type) => do
      return .expressionNode range type
        (.functionReference symbol.shape (← typeArguments.shape? ()))
  | _, getClass argument, (range, type) =>
      return .expressionNode range type (.getClass (← argument.shape? ()))
  | _, getObject symbol, (range, type) =>
      return .expressionNode range type (.getObject symbol.shape)
  | _, propertyReference field getter setter typeArguments, (range, type) => do
      return .expressionNode range type
        (.propertyReference (field.map (·.shape)) (getter.map (·.shape))
          (setter.map (·.shape)) (← typeArguments.shape? ()))
  | _, stringConcat arguments, (range, type) =>
      return .expressionNode range type (.stringConcat (← arguments.shape? ()))
  | _, tryCatch result catches finalizer, (range, type) => do
      return .expressionNode range type
        (.tryCatch (← result.shape? ()) (← catches.shape? ()) (← finalizer.shape? ()))
  | _, typeOperation operator operand argument, (range, type) => do
      let operand ← operand.shape? ()
      return .expressionNode range type
        (.typeOperation operator operand (← operand.classifier?) (← argument.shape? ()))
  | _, vararg elementType elements, (range, type) => do
      return .expressionNode range type
        (.vararg (← elementType.shape? ()) (← elements.shape? ()))
  | _, when branches, (range, type) =>
      return .expressionNode range type (.when (← branches.shape? ()))
  | _, loop kind id label condition body, (range, type) => do
      return .expressionNode range type
        (.loop 0 kind id label (← body.shape? ()) (← condition.shape? ()))
  -- Expressions of the type that is recorded with what they read
  | _, getEnumValue own symbol, (range, _) =>
      return .expressionNode range (← own.shape? ()) (.getEnumValue symbol.shape)
  | _, getField access own, (range, _) => do
      return .expressionNode range (← own.shape? ()) (.getField (← access.shape? ()))
  | _, getValue symbol own, (range, _) =>
      return .expressionNode range (← own.shape? ()) (.getValue symbol.shape)
  -- Expressions of the unit type
  | _, delegatingConstructorCall symbol access, (range, _) => do
      return .expressionNode range Builtin.unitType.shape
        (.delegatingConstructorCall symbol.shape (← access.shape? ()))
  | _, enumConstructorCall symbol access, (range, _) => do
      return .expressionNode range Builtin.unitType.shape
        (.enumConstructorCall symbol.shape (← access.shape? ()))
  | _, instanceInitializerCall symbol, (range, _) =>
      return .expressionNode range Builtin.unitType.shape
        (.instanceInitializerCall symbol.shape)
  | _, setField access value, (range, _) => do
      return .expressionNode range Builtin.unitType.shape
        (.setField (← access.shape? ()) (← value.shape? ()))
  | _, setVariable symbol value, (range, _) => do
      return .expressionNode range Builtin.unitType.shape
        (.setVariable symbol.shape (← value.shape? ()))
  -- Expressions without a value
  | _, returnFrom target value, (range, _) => do
      return .expressionNode range Builtin.nothingType.shape
        (.returnFrom target.shape (← value.shape? ()))
  | _, throwValue value, (range, _) =>
      return .expressionNode range Builtin.nothingType.shape
        (.throwValue (← value.shape? ()))
  | _, unsetElement, _ => Option.none
  | _, plainElement expression, _ => return .plainElement (← expression.shape? ())
  | _, spreadElement range expression, _ =>
      return .spreadElement range (← expression.shape? ())
  -- Statements
  | _, unsetStatement _, _ => Option.none
  | _, blockBody range statements, _ =>
      return .bodyStatement (.blockBody range (← statements.shape? ()))
  | _, branchStatement range condition result, _ => do
      return .branchStatement
        (.branchNode range (← condition.shape? ()) (← result.shape? ()))
  | _, catchStatement range parameter result, _ => do
      return .catchStatement
        (.catchNode range (← parameter.shape? Parent.none) (← result.shape? ()))
  | _, declarationStatement _ declaration, _ =>
      return .declarationStatement (← declaration.shape? Parent.none)
  | _, expressionStatement _ expression, _ =>
      return .expressionStatement (← expression.shape? ())
  | _, syntheticBody range kind, _ => return .bodyStatement (.syntheticBody range kind)
  | _, asBranch statement, _ => do
      match ← statement.shape? () with
      | .branchStatement branch => return branch
      | _ => Option.none
  | _, asCatch statement, _ => do
      match ← statement.shape? () with
      | .catchStatement clause => return clause
      | _ => Option.none
  | _, asBody statement, _ => do
      match ← statement.shape? () with
      | .bodyStatement body => return body
      | _ => Option.none
  -- Declarations
  | _, declarationNode range origin annotations _ declarator, parent => do
      let origin ← Origin.ofName? origin
      return .declarationNode 0 range origin parent
        (← declarator.shape? ⟨0, range, origin⟩) (← annotations.shape? ())
  | _, unsetDeclarator, _ => Option.none
  | _, anonymousInitializer symbol statements, site =>
      return .anonymousInitializer symbol.shape
        (.blockBody site.range (← statements.shape? ()))
  | _, classDeclarator symbol name kind visibility modality flags members thisReceiver
      typeParameters superTypes, site => do
      return .classDeclarator symbol.shape
        ⟨name, kind, .ofName visibility, modality, flags⟩
        (← members.shape? (Parent.declaration 0)) (← thisReceiver.shape? site)
        (← typeParameters.shape? site) (← superTypes.shape? ())
  | _, constructorDeclarator symbol header signature isPrimary, site =>
      return .constructorDeclarator symbol.shape
        ⟨header.name, .ofName header.visibility, header.isInline, header.isExternal,
          isPrimary⟩
        (← signature.shape? site)
  | _, enumEntry symbol name entryClass initializer, _ => do
      return .enumEntry symbol.shape name
        (← entryClass.shape? (Parent.declaration 0)) (← initializer.shape? ())
  | _, fieldDeclarator field, _ => @shape? .field field ()
  | _, functionDeclarator function, site =>
      @shape? .function function (site, Option.none)
  | _, property name visibility modality flags backingField getter setter, site => do
      return .property ⟨name, .ofName visibility, modality, flags⟩
        (← backingField.shape? site) (← getter.shape? site) (← setter.shape? site)
  | _, typeAlias, _ => return .errorDeclarator
  | _, variableDeclarator symbol name type flags initializer, _ => do
      return .variableDeclarator symbol.shape ⟨name, flags⟩ (← type.shape? ())
        (← initializer.shape? ())
  | _, signatureNode returnType body valueParameters dispatchReceiver extensionReceiver
      typeParameters, site => do
      return .signatureNode (← returnType.shape? ()) (← body.shape? ())
        (← valueParameters.shape? site) (← dispatchReceiver.shape? site)
        (← extensionReceiver.shape? site) (← typeParameters.shape? site)
  | _, functionNode symbol header signature modality isTailrec isSuspend overridden,
      (site, served) =>
      return .functionDeclarator symbol.shape
        ⟨header.name, .ofName header.visibility, modality, header.isInline,
          header.isExternal, isTailrec, isSuspend⟩
        served (← signature.shape? site) (overridden.map (·.shape))
  | _, fieldNode symbol name type visibility flags initializer, _ => do
      return .fieldDeclarator symbol.shape ⟨name, .ofName visibility, flags⟩
        (← type.shape? ()) (← initializer.shape? ())
  | _, asAccessor function, site => do
      return .declarationNode 0 site.range site.origin (.declaration 0)
        (← @shape? .function function (site, Option.some 0)) .nil
  | _, asBackingField field, site => do
      return .declarationNode 0 site.range site.origin (.declaration 0)
        (← @shape? .field field ()) .nil
  | _, valueParameterNode symbol name index type varargElementType isCrossinline
      isNoinline defaultValue, site => do
      return .valueParameterNode site.range site.origin symbol.shape name index
        (← type.shape? ()) (← varargElementType.shape? ()) isCrossinline isNoinline
        (← defaultValue.shape? ())
  | _, typeParameterNode symbol name index variance superTypes, site =>
      return .typeParameterNode site.range site.origin symbol.shape name index variance
        (← superTypes.shape? ())

end Record

end IrLink
