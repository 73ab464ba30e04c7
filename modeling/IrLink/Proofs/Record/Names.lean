import Mathlib.Data.List.Basic
import IrLink.Proofs.Record.Layout

/-!
# What a record names

`Record.actions` are the steps of a record and of everything inside it, in order, without
the levels that it takes.  They tell which records of symbols occur in the record
(`Record.symbolRecords`) and which loops it begins or jumps to (`Record.loopIds`).
`Record.mapSymbols` puts other records of symbols in their places, and leaves everything
else of a record as it is.
-/

namespace IrLink

namespace LinkStep

/-- The record of the symbol that a step links. -/
def used? : LinkStep → Option SymbolRecord
  | use _ record => some record
  | _ => none

/-- The identifier of the loop that a step begins or jumps to. -/
def loopId? : LinkStep → Option Int32
  | beginLoop id | jump id => some id
  | _ => none

/-- A step that takes a level. -/
def isLevel : LinkStep → Bool
  | enter _ => true
  | _ => false

end LinkStep

namespace Record

variable {c : Category}

/-- The steps of a record and of everything inside it. -/
def actions (record : Record c) : List LinkStep :=
  record.fold (fun step => [step]) fun _ inside => inside.flatten

end Record

/-- The steps of an item. -/
def Item.actions : Item → List LinkStep
  | .step own => [own]
  | .part inner => inner.actions

namespace Record

variable {c : Category}

theorem actions_eq (record : Record c) : record.actions = record.layout.flatMap Item.actions := by
  rw [actions, fold_eq, List.flatMap_def]
  congr 2

/-- A record by itself has the steps of its layout. -/
theorem flatMap_actions_part (record : Record c) :
    [Item.part record].flatMap Item.actions = record.layout.flatMap Item.actions := by
  rw [List.flatMap_singleton, ← actions_eq]
  rfl

/-- The records of symbols that occur in a record. -/
def symbolRecords (record : Record c) : List SymbolRecord :=
  record.actions.filterMap LinkStep.used?

/-- The identifiers of symbols that occur in a record. -/
def symbolIds (record : Record c) : List UInt64 :=
  record.symbolRecords.map (·.uniqueId.index)

/-- The identifiers of the loops that a record begins or jumps to. -/
def loopIds (record : Record c) : List Int32 :=
  record.actions.filterMap LinkStep.loopId?

/-- The steps of a record are those that link it, in the same order, without the levels. -/
theorem actions_eq_trace (record : Record c) (depth : Nat) :
    record.actions = (record.trace depth).filter (!·.isLevel) := by
  induction record using layout_induction generalizing depth with
  | @node c record inside =>
      have items (inner : Nat) : record.layout.flatMap Item.actions =
          (record.layout.flatMap (Item.trace inner)).filter (!·.isLevel) := by
        rw [List.filter_flatMap]
        refine List.flatMap_congr fun item own => ?_
        cases item with
        | step step =>
            cases step with
            | enter level => exact absurd own (enter_not_mem_layout record level)
            | _ => rfl
        | part part => exact inside part own inner
      rw [actions_eq]
      cases takes : c.takesLevel with
      | true =>
          rw [trace_of_takesLevel takes]
          exact items (depth + 1)
      | false =>
          rw [trace_of_takesNoLevel takes]
          exact items depth

theorem mem_actions_of_mem_trace (record : Record c) (depth : Nat) :
    ∀ step ∈ record.trace depth, (∃ level, step = .enter level) ∨ step ∈ record.actions := by
  intro step among
  rw [record.actions_eq_trace depth]
  cases step with
  | enter level => exact .inl ⟨level, rfl⟩
  | _ => exact .inr (List.mem_filter.mpr ⟨among, rfl⟩)

theorem mem_trace_of_mem_actions (record : Record c) (depth : Nat) :
    ∀ step ∈ record.actions, step ∈ record.trace depth := by
  intro step isAction
  rw [record.actions_eq_trace depth] at isAction
  exact List.mem_of_mem_filter isAction

/-- The records of symbols inside a record are those that its steps use, in the same order. -/
theorem symbolRecords_eq_trace (record : Record c) (depth : Nat) :
    record.symbolRecords = (record.trace depth).filterMap LinkStep.used? := by
  rw [symbolRecords, record.actions_eq_trace depth, List.filterMap_filter]
  refine List.filterMap_congr fun step _ => ?_
  cases step <;> rfl

/-- A record names the symbols that its steps link. -/
theorem mem_symbolIds_iff {record : Record c} (depth : Nat) {id : UInt64} :
    id ∈ record.symbolIds ↔ ∃ requirement symbol,
      .use requirement symbol ∈ record.trace depth ∧ symbol.uniqueId.index = id := by
  constructor
  · intro named
    rcases List.mem_map.mp named with ⟨symbol, among, rfl⟩
    rcases List.mem_filterMap.mp among with ⟨step, isAction, used⟩
    cases step with
    | use requirement found =>
        cases used
        exact ⟨requirement, symbol, record.mem_trace_of_mem_actions depth _ isAction, rfl⟩
    | _ => cases used
  · rintro ⟨requirement, symbol, among, rfl⟩
    rcases record.mem_actions_of_mem_trace depth _ among with ⟨_, ⟨⟩⟩ | isAction
    exact List.mem_map.mpr ⟨symbol, List.mem_filterMap.mpr ⟨_, isAction, rfl⟩, rfl⟩

/-- A record names the loops that its steps begin. -/
theorem mem_loopIds_of_mem_trace {record : Record c} {depth : Nat} {id : Int32}
    (begun : .beginLoop id ∈ record.trace depth) : id ∈ record.loopIds := by
  rcases record.mem_actions_of_mem_trace depth _ begun with ⟨_, ⟨⟩⟩ | isAction
  exact List.mem_filterMap.mpr ⟨_, isAction, rfl⟩

/-! ## Other records of symbols -/

/-- A record with other records of symbols. -/
def mapSymbols (alter : SymbolRecord → SymbolRecord) : {c : Category} → Record c → Record c
  | _, nil => nil
  | _, cons head tail => cons (head.mapSymbols alter) (tail.mapSymbols alter)
  | _, none => none
  | _, some value => some (value.mapSymbols alter)
  -- Types
  | _, unsetType => unsetType
  | _, simpleType annotations variance classifier nullable arguments =>
      simpleType (annotations.mapSymbols alter) variance (alter classifier) nullable
        (arguments.mapSymbols alter)
  | _, dynamicType annotations variance => dynamicType (annotations.mapSymbols alter) variance
  | _, errorType annotations variance => errorType (annotations.mapSymbols alter) variance
  | _, unsetArgument => unsetArgument
  | _, starArgument => starArgument
  | _, projection variance type => projection variance (type.mapSymbols alter)
  -- Calls and accesses
  | _, callNode symbol qualifier form access =>
      callNode (alter symbol) (qualifier.map alter) form (access.mapSymbols alter)
  | _, accessNode dispatchReceiver extensionReceiver valueArguments typeArguments =>
      accessNode (dispatchReceiver.mapSymbols alter) (extensionReceiver.mapSymbols alter)
        (valueArguments.mapSymbols alter) (typeArguments.mapSymbols alter)
  | _, fieldAccessNode symbol qualifier receiver =>
      fieldAccessNode (alter symbol) (qualifier.map alter) (receiver.mapSymbols alter)
  -- Expressions
  | _, expressionNode range type operation =>
      expressionNode range (type.mapSymbols alter) (operation.mapSymbols alter)
  | _, unsetOperation => unsetOperation
  | _, block statements isLambda => block (statements.mapSymbols alter) isLambda
  | _, breakLoop id label => breakLoop id label
  | _, callOperation call => callOperation (call.mapSymbols alter)
  | _, classReference symbol type => classReference (alter symbol) (type.mapSymbols alter)
  | _, composite statements => composite (statements.mapSymbols alter)
  | _, constant value => constant value
  | _, continueLoop id label => continueLoop id label
  | _, delegatingConstructorCall symbol access =>
      delegatingConstructorCall (alter symbol) (access.mapSymbols alter)
  | _, enumConstructorCall symbol access =>
      enumConstructorCall (alter symbol) (access.mapSymbols alter)
  | _, functionReference symbol typeArguments =>
      functionReference (alter symbol) (typeArguments.mapSymbols alter)
  | _, getClass argument => getClass (argument.mapSymbols alter)
  | _, getEnumValue type symbol => getEnumValue (type.mapSymbols alter) (alter symbol)
  | _, getField access type => getField (access.mapSymbols alter) (type.mapSymbols alter)
  | _, getObject symbol => getObject (alter symbol)
  | _, getValue symbol type => getValue (alter symbol) (type.mapSymbols alter)
  | _, instanceInitializerCall symbol => instanceInitializerCall (alter symbol)
  | _, propertyReference field getter setter typeArguments =>
      propertyReference (field.map alter) (getter.map alter) (setter.map alter)
        (typeArguments.mapSymbols alter)
  | _, returnFrom target value => returnFrom (alter target) (value.mapSymbols alter)
  | _, setField access value => setField (access.mapSymbols alter) (value.mapSymbols alter)
  | _, setVariable symbol value => setVariable (alter symbol) (value.mapSymbols alter)
  | _, stringConcat arguments => stringConcat (arguments.mapSymbols alter)
  | _, throwValue value => throwValue (value.mapSymbols alter)
  | _, tryCatch result catches finalizer =>
      tryCatch (result.mapSymbols alter) (catches.mapSymbols alter)
        (finalizer.mapSymbols alter)
  | _, typeOperation operator operand argument =>
      typeOperation operator (operand.mapSymbols alter) (argument.mapSymbols alter)
  | _, vararg elementType elements =>
      vararg (elementType.mapSymbols alter) (elements.mapSymbols alter)
  | _, when branches => when (branches.mapSymbols alter)
  | _, loop kind id label condition body =>
      loop kind id label (condition.mapSymbols alter) (body.mapSymbols alter)
  | _, unsetElement => unsetElement
  | _, plainElement expression => plainElement (expression.mapSymbols alter)
  | _, spreadElement range expression => spreadElement range (expression.mapSymbols alter)
  -- Statements
  | _, unsetStatement range => unsetStatement range
  | _, blockBody range statements => blockBody range (statements.mapSymbols alter)
  | _, branchStatement range condition result =>
      branchStatement range (condition.mapSymbols alter) (result.mapSymbols alter)
  | _, catchStatement range parameter result =>
      catchStatement range (parameter.mapSymbols alter) (result.mapSymbols alter)
  | _, declarationStatement range declaration =>
      declarationStatement range (declaration.mapSymbols alter)
  | _, expressionStatement range expression =>
      expressionStatement range (expression.mapSymbols alter)
  | _, syntheticBody range kind => syntheticBody range kind
  | _, asBranch statement => asBranch (statement.mapSymbols alter)
  | _, asCatch statement => asCatch (statement.mapSymbols alter)
  | _, asBody statement => asBody (statement.mapSymbols alter)
  -- Declarations
  | _, declarationNode range origin annotations file declarator =>
      declarationNode range origin (annotations.mapSymbols alter) file
        (declarator.mapSymbols alter)
  | _, unsetDeclarator => unsetDeclarator
  | _, anonymousInitializer symbol statements =>
      anonymousInitializer (alter symbol) (statements.mapSymbols alter)
  | _, classDeclarator symbol name kind visibility modality flags members thisReceiver
      typeParameters superTypes =>
      classDeclarator (alter symbol) name kind visibility modality flags
        (members.mapSymbols alter) (thisReceiver.mapSymbols alter)
        (typeParameters.mapSymbols alter) (superTypes.mapSymbols alter)
  | _, constructorDeclarator symbol header signature isPrimary =>
      constructorDeclarator (alter symbol) header (signature.mapSymbols alter) isPrimary
  | _, enumEntry symbol name entryClass initializer =>
      enumEntry (alter symbol) name (entryClass.mapSymbols alter)
        (initializer.mapSymbols alter)
  | _, fieldDeclarator field => fieldDeclarator (field.mapSymbols alter)
  | _, functionDeclarator function => functionDeclarator (function.mapSymbols alter)
  | _, property name visibility modality flags backingField getter setter =>
      property name visibility modality flags (backingField.mapSymbols alter)
        (getter.mapSymbols alter) (setter.mapSymbols alter)
  | _, typeAlias => typeAlias
  | _, variableDeclarator symbol name type flags initializer =>
      variableDeclarator (alter symbol) name (type.mapSymbols alter) flags
        (initializer.mapSymbols alter)
  | _, signatureNode returnType body valueParameters dispatchReceiver extensionReceiver
      typeParameters =>
      signatureNode (returnType.mapSymbols alter) (body.mapSymbols alter)
        (valueParameters.mapSymbols alter) (dispatchReceiver.mapSymbols alter)
        (extensionReceiver.mapSymbols alter) (typeParameters.mapSymbols alter)
  | _, functionNode symbol header signature modality isTailrec isSuspend overridden =>
      functionNode (alter symbol) header (signature.mapSymbols alter) modality isTailrec
        isSuspend (overridden.map alter)
  | _, fieldNode symbol name type visibility flags initializer =>
      fieldNode (alter symbol) name (type.mapSymbols alter) visibility flags
        (initializer.mapSymbols alter)
  | _, asAccessor function => asAccessor (function.mapSymbols alter)
  | _, asBackingField field => asBackingField (field.mapSymbols alter)
  | _, valueParameterNode symbol name index type varargElementType isCrossinline isNoinline
      defaultValue =>
      valueParameterNode (alter symbol) name index (type.mapSymbols alter)
        (varargElementType.mapSymbols alter) isCrossinline isNoinline
        (defaultValue.mapSymbols alter)
  | _, typeParameterNode symbol name index variance superTypes =>
      typeParameterNode (alter symbol) name index variance (superTypes.mapSymbols alter)

/-- A record with its own records of symbols in their places. -/
theorem mapSymbols_id (record : Record c) : record.mapSymbols id = record := by
  induction record <;>
    simp_all only [mapSymbols, id, Option.map_id_fun, List.map_id_fun]

end Record

end IrLink
