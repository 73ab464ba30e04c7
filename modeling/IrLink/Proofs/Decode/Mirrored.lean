import IrLink.Proofs.Decode.Built
import IrLink.Proofs.Decode.Rules
import IrLink.Proofs.Record.Names

/-!
# Linking side by side

Two runs of the decoder are compared: one links a record, the other its image, where
other records of symbols stand and what is known from above has other identities.
`Mirrors` lists, for an arbitrary statement about a computation, its image and the change
of its result, one rule for each thing that the decoder can do and one for sequences.
Where these rules hold, the statement holds of linking every record
(`Decode.build_mirrored`): the tree of the image is the tree of the record under the
renaming.

The statement may depend on the items that are linked.
-/

namespace IrLink

/-! ## Renaming -/

/-- The place of a declaration under a renaming. -/
def Site.rename (names : Renaming) (site : Site) : Site :=
  { site with node := names.node site.node }

/-- What is known from above, under a renaming. -/
def Context.rename (names : Renaming) : {c : Category} → Context c → Context c
  | .operation, (range, type) => (range, type.rename names)
  | .declaration, parent => Parent.rename names parent
  | .declarator, site | .signature, site | .accessor, site | .backingField, site
  | .valueParameter, site | .typeParameter, site => Site.rename names site
  | .function, (site, served) => (site.rename names, served.map names.node)
  | .list c, context => Context.rename (c := c) names context
  | .option c, context => Context.rename (c := c) names context
  | .type, _ | .typeArgument, _ | .call, _ | .access, _ | .fieldAccess, _
  | .expression, _ | .varargElement, _ | .statement, _ | .branch, _ | .catchClause, _
  | .body, _ | .field, _ => ()

/-- The contents of a loop under a renaming. -/
def LoopContents.rename (names : Renaming) (contents : LoopContents) : LoopContents where
  label := contents.label
  body := contents.body.rename names
  condition := contents.condition.rename names

/-- A loop under a renaming. -/
def LoopNode.rename (names : Renaming) (loop : LoopNode) : LoopNode :=
  { loop with
    type := loop.type.rename names
    contents := loop.contents.map (·.rename names) }

theorem Context.rename_same : {c : Category} → (context : Context c) →
    context.rename .same = context := by
  intro c
  induction c with
  | list c inductionHypothesis => exact inductionHypothesis
  | option c inductionHypothesis => exact inductionHypothesis
  | operation => exact fun (range, type) => congrArg (range, ·) type.rename_same
  | declaration => exact Parent.rename_same
  | function =>
      exact fun (site, served) => congrArg (site, ·) (congrFun Option.map_id_fun served)
  | _ => exact fun _ => rfl

theorem LoopContents.rename_same (contents : LoopContents) :
    contents.rename .same = contents := by
  rw [rename, Tree.rename_same, Tree.rename_same]

theorem LoopNode.rename_same (loop : LoopNode) : loop.rename .same = loop := by
  rw [rename, Tree.rename_same, funext LoopContents.rename_same, Option.map_id']

/-! ### Renamings that reach everything -/

/-- A renaming that reaches all identities. -/
class Renaming.Onto (names : Renaming) : Prop where
  symbol : Function.Surjective names.symbol
  node : Function.Surjective names.node
  loop : Function.Surjective names.loop

/-- A change of results that reaches all of them. -/
class Onto {α : Type} (change : α → α) : Prop where
  surjective : Function.Surjective change

section Onto

variable {names : Renaming} [onto : names.Onto] {α : Type} {change : α → α} [part : Onto change]

instance : Renaming.same.Onto where
  symbol := Function.surjective_id
  node := Function.surjective_id
  loop := Function.surjective_id

instance : Onto (id : α → α) := ⟨Function.surjective_id⟩

instance : Onto names.symbol := ⟨onto.symbol⟩

instance : Onto names.node := ⟨onto.node⟩

instance : Onto (Option.map change) where
  surjective
    | none => ⟨none, rfl⟩
    | some result => (part.surjective result).imp' some fun _ => congrArg some

instance : Onto (List.map change) := ⟨List.map_surjective_iff.mpr part.surjective⟩

instance : Onto (Jump.rename names) :=
  ⟨fun jump =>
    let ⟨target, reached⟩ := onto.loop jump.target
    ⟨{ jump with target }, congrArg (Jump.mk jump.loopId jump.label) reached⟩⟩

/-- A renaming that reaches all identities reaches all trees. -/
instance {c : Category} : Onto (Tree.rename (c := c) names) where
  surjective := fun tree => by
    let back : Renaming := ⟨Function.surjInv onto.symbol, Function.surjInv onto.node,
      Function.surjInv onto.loop⟩
    refine ⟨tree.rename back, ?_⟩
    have same : back.andThen names = .same := by
      rw [Renaming.andThen, Renaming.same, Renaming.mk.injEq]
      exact ⟨funext (Function.surjInv_eq onto.symbol), funext (Function.surjInv_eq onto.node),
        funext (Function.surjInv_eq onto.loop)⟩
    rw [Tree.rename_rename, same, Tree.rename_same]

instance : Onto (LoopContents.rename names) where
  surjective := fun contents => by
    have ⟨body, reached⟩ : ∃ body : Tree _, body.rename names = contents.body :=
      Onto.surjective _
    have ⟨condition, alsoReached⟩ : ∃ condition : Tree _,
        condition.rename names = contents.condition := Onto.surjective _
    refine ⟨⟨contents.label, body, condition⟩, ?_⟩
    rw [LoopContents.rename, reached, alsoReached]

instance : Onto fun filled : Nat × LoopContents =>
    (names.loop filled.1, filled.2.rename names) where
  surjective := fun (node, contents) => by
    rcases onto.loop node with ⟨target, reached⟩
    have ⟨filled, alsoReached⟩ : ∃ filled : LoopContents, filled.rename names = contents :=
      Onto.surjective _
    exact ⟨(target, filled), congrArg₂ Prod.mk reached alsoReached⟩

end Onto

/-- A renaming keeps the text of a type without a classifier. -/
theorem Tree.typeText_rename (names : Renaming) {type : Tree .type}
    (unclassified : type.classifier? = .none) :
    (type.rename names).typeText = type.typeText := by
  cases type with
  | simpleType => cases unclassified
  | dynamicType => rfl
  | errorType => rfl

/-- A renaming keeps the form of a declaration. -/
theorem Tree.declarator_form_rename (names : Renaming) (declaration : Tree .declaration) :
    (declaration.rename names).declarator.form = declaration.declarator.form := by
  cases declaration with
  | declarationNode _ _ _ _ declarator _ => exact form_rename names declarator

namespace Decode

/-! ## Rules -/

/-- The rules for a statement about computations, their images and the changes of their
results. -/
structure Mirrors (names : Renaming) (alter : SymbolRecord → SymbolRecord)
    (Mirrored : {α : Type} → List Item → Decode α → Decode α → (α → α) → Prop) : Prop where
  pure {α : Type} (items : List Item) (result : α) (change : α → α) :
    Mirrored items (pure result) (pure (change result)) change
  fail {α : Type} (items : List Item) (error : DecodeError) (change : α → α) :
    Mirrored items (throw error) (throw error) change
  append {α β : Type} {items others : List Item} {computation image : Decode α}
    {rest imageRest : α → Decode β} {change : α → α} {last : β → β} [Onto change]
    (first : Mirrored items computation image change)
    (second : ∀ result, Mirrored others (rest result) (imageRest (change result)) last) :
    Mirrored (items ++ others) (computation >>= rest) (image >>= imageRest) last
  /-- A record is mirrored as its layout is. -/
  layout {α : Type} {c : Category} {record : Record c} {computation image : Decode α}
    {change : α → α} (inside : Mirrored record.layout computation image change) :
    Mirrored [.part record] computation image change
  descend {α : Type} {items : List Item} {computation image : Decode α} {change : α → α}
    (inside : Mirrored items computation image change) :
    Mirrored items (descend computation) (descend image) change
  /-- The types that the decoder puts in are those of built-ins. -/
  builtin (builtin : Builtin) (among : builtin ∈ Builtin.all) :
    names.symbol builtin.symbol = builtin.symbol
  symbol (requirement : Requirement) (record : SymbolRecord) :
    Mirrored [.use requirement record] (symbolFor requirement record)
      (symbolFor requirement (alter record)) names.symbol
  jump (id : Int32) (label : Option String) :
    Mirrored [.step (.jump id)] (jumpTo id label) (jumpTo id label) (Jump.rename names)
  loop {items : List Item} {inside image : Decode LoopContents} (shell : LoopNode)
    (empty : shell.contents = none)
    (contents : Mirrored items inside image (LoopContents.rename names)) :
    Mirrored (.step (.beginLoop shell.id) :: items) (looping shell inside)
      (looping (shell.rename names) image) fun filled =>
        (names.loop filled.1, filled.2.rename names)
  node : Mirrored [] freshNode freshNode names.node
  register (items : List Item) (declaration : Tree .declaration) :
    Mirrored items (registerDeclaration declaration)
      (registerDeclaration (declaration.rename names)) id

section Linking

variable {α β : Type} {names : Renaming} {alter : SymbolRecord → SymbolRecord}
  {Mirrored : {α : Type} → List Item → Decode α → Decode α → (α → α) → Prop}
  (rules : Mirrors names alter Mirrored)

namespace Mirrors

variable {item : Item} {items others : List Item} {computation image : Decode α}
  {rest imageRest : α → Decode β} {change : α → α} {last : β → β}

include rules

/-! ### Sequences -/

theorem bind [Onto change]
    (first : Mirrored [item] computation image change)
    (second : ∀ result, Mirrored others (rest result) (imageRest (change result)) last) :
    Mirrored (item :: others) (computation >>= rest) (image >>= imageRest) last :=
  rules.append first second

/-- What is made without the decoder. -/
theorem made {result imageResult : α} (same : imageResult = change result) :
    Mirrored items (Pure.pure result) (Pure.pure imageResult) change := by
  rw [same]
  exact rules.pure _ _ _

/-- What is made of the result of the image is what is made of the result. -/
theorem map {make imageMake : α → β} [Onto change]
    (first : Mirrored items computation image change)
    (same : ∀ result, imageMake (change result) = last (make result)) :
    Mirrored items (computation >>= fun result => Pure.pure (make result))
      (image >>= fun result => Pure.pure (imageMake result)) last := by
  rw [← List.append_nil items]
  exact rules.append first fun result => rules.made (same result)

/-- A computation without items does not show. -/
theorem silent [Onto change]
    (first : Mirrored [] computation image change)
    (second : ∀ result, Mirrored others (rest result) (imageRest (change result)) last) :
    Mirrored others (computation >>= rest) (image >>= imageRest) last :=
  rules.append first second

/-! ### Symbols -/

/-- A symbol that may be absent. -/
theorem symbol? [names.Onto] (requirement : Requirement) (record : Option SymbolRecord) :
    Mirrored (Item.uses requirement record.toList) (symbolFor? requirement record)
      (symbolFor? requirement (record.map alter)) (Option.map names.symbol) := by
  cases record with
  | none => exact rules.made rfl
  | some record => exact rules.map (rules.symbol requirement record) fun _ => rfl

/-- The symbols of a list of records. -/
theorem symbols [names.Onto] (requirement : Requirement) (records : List SymbolRecord) :
    Mirrored (Item.uses requirement records) (symbolsFor requirement records)
      (symbolsFor requirement (records.map alter)) (List.map names.symbol) := by
  induction records with
  | nil => exact rules.made rfl
  | cons record records inductionHypothesis =>
      exact rules.bind (rules.symbol requirement record) fun _ =>
        rules.map inductionHypothesis fun _ => rfl

/-- The types of built-ins are left as they are. -/
theorem unitType_rename : Builtin.unitType.rename names = Builtin.unitType := by
  have among : (⟨Builtin.symbolOf 2 "Unit" .klass, (Builtin.ofClass 2 "Unit").declaration⟩ :
      Builtin) ∈ Builtin.all := List.mem_append_left _ (List.mem_of_getElem? (i := 2) rfl)
  exact congrArg Tree.plainType (rules.builtin _ among)

theorem nothingType_rename : Builtin.nothingType.rename names = Builtin.nothingType := by
  have among : (⟨Builtin.symbolOf 1 "Nothing" .klass,
      (Builtin.ofClass 1 "Nothing").declaration⟩ : Builtin) ∈ Builtin.all :=
    List.mem_append_left _ (List.mem_of_getElem? (i := 1) rfl)
  exact congrArg Tree.plainType (rules.builtin _ among)

/-- An expression with the unit value stays one. -/
theorem ofUnit (range : Range) (operation : Tree .operation) :
    Tree.expressionNode range Builtin.unitType (operation.rename names) =
      (Tree.expressionNode range Builtin.unitType operation).rename names :=
  congrArg (Tree.expressionNode range · _) rules.unitType_rename.symm

/-- An expression without a value stays one. -/
theorem ofNothing (range : Range) (operation : Tree .operation) :
    Tree.expressionNode range Builtin.nothingType (operation.rename names) =
      (Tree.expressionNode range Builtin.nothingType operation).rename names :=
  congrArg (Tree.expressionNode range · _) rules.nothingType_rename.symm

/-- A declaration that belongs to another is mirrored by one that belongs to the image. -/
theorem child [names.Onto] (site : Site) (declarator : Tree .declarator) :
    Mirrored [] (child site declarator) (child (site.rename names) (declarator.rename names))
      (Tree.rename names) :=
  rules.map rules.node fun _ => rfl

/-! ### Checks -/

theorem originNamed (items : List Item) (name : String) :
    Mirrored items (originNamed name) (originNamed name) id := by
  unfold Decode.originNamed
  cases Origin.ofName? name with
  | none => exact rules.fail _ _ _
  | some origin => exact rules.made rfl

theorem constantOf (items : List Item) (recorded : RecordedConstant) :
    Mirrored items (constantOf recorded) (constantOf recorded) id := by
  unfold Decode.constantOf
  cases recorded.value? with
  | none => exact rules.fail _ _ _
  | some value => exact rules.made rfl

theorem operandClassifier (items : List Item) (operand : Tree .type) :
    Mirrored items (operandClassifier operand) (operandClassifier (operand.rename names))
      names.symbol := by
  unfold Decode.operandClassifier
  rw [Tree.classifier?_rename]
  cases classified : operand.classifier? with
  | none =>
      rw [Tree.typeText_rename names classified]
      exact rules.fail _ _ _
  | some classifier => exact rules.made rfl

theorem requireVariable (items : List Item) (parameter : Tree .declaration) :
    Mirrored items (requireVariable parameter) (requireVariable (parameter.rename names))
      id := by
  unfold Decode.requireVariable
  rw [Tree.declarator_form_rename]
  cases parameter.declarator.form with
  | localVariable => exact rules.made rfl
  | _ => exact rules.fail _ _ _

theorem requireClass (items : List Item) (entryClass : Tree (.option .declaration)) :
    Mirrored items (requireClass entryClass) (requireClass (entryClass.rename names)) id := by
  cases entryClass with
  | none => exact rules.made rfl
  | some declaration =>
      have forms := Tree.declarator_form_rename names declaration
      change Mirrored items (Decode.requireClass (.some declaration))
        (Decode.requireClass (.some (declaration.rename names))) id
      simp only [Decode.requireClass, Tree.toOption, forms]
      cases declaration.declarator.form with
      | klass => exact rules.made rfl
      | _ => exact rules.fail _ _ _

end Mirrors

/-! ## Records -/

variable (names alter Mirrored) in
/-- Linking a record is mirrored by linking its image. -/
def LinkMirrored {c : Category} (record : Record c) (context : Context c) : Prop :=
  Mirrored [.part record] (build record context)
    (build (record.mapSymbols alter) (context.rename names)) (Tree.rename names)

variable (names alter Mirrored) in
/-- Linking records smaller than a given size is mirrored. -/
def LinkMirroredBelow (size : Nat) : Prop :=
  ∀ {c : Category} (record : Record c) (context : Context c)
    (_ : sizeOf record < size := by simp +arith),
    LinkMirrored names alter Mirrored record context

variable [names.Onto]

include rules

/-- Linking a type is mirrored if linking its parts is. -/
theorem type_mirrored : (record : Record .type) → (context : Context .type) →
    LinkMirroredBelow names alter Mirrored (sizeOf record) →
      LinkMirrored names alter Mirrored record context
  | .unsetType, _, _ => rules.layout (rules.fail _ _ _)
  | .simpleType annotations _ classifier _ arguments, _, parts =>
      rules.layout <|
        rules.bind (parts arguments ()) fun _ =>
        rules.bind (parts annotations ()) fun _ =>
        rules.map (rules.symbol .classifier classifier) fun _ => rfl
  | .dynamicType annotations _, _, parts =>
      rules.layout <| rules.map (parts annotations ()) fun _ => rfl
  | .errorType annotations _, _, parts =>
      rules.layout <| rules.map (parts annotations ()) fun _ => rfl

/-- Linking an operation is mirrored if linking its parts is. -/
theorem operation_mirrored : (record : Record .operation) → (context : Context .operation) →
    LinkMirroredBelow names alter Mirrored (sizeOf record) →
      LinkMirrored names alter Mirrored record context
  | .unsetOperation, _, _ => rules.layout (rules.fail _ _ _)
  | .block statements _, (_, _), parts =>
      rules.layout <| rules.map (parts statements ()) fun _ => rfl
  | .breakLoop id label, (_, _), _ =>
      rules.layout <| rules.map (rules.jump id label) fun _ => rfl
  | .callOperation call, (_, _), parts =>
      rules.layout <| rules.map (parts call ()) fun _ => rfl
  | .classReference symbol referred, (_, _), parts =>
      rules.layout <|
        rules.bind (rules.symbol .classifier symbol) fun _ =>
        rules.map (parts referred ()) fun _ => rfl
  | .composite statements, (_, _), parts =>
      rules.layout <| rules.map (parts statements ()) fun _ => rfl
  | .constant value, (_, _), _ =>
      rules.layout <| rules.map (rules.constantOf _ value) fun _ => rfl
  | .continueLoop id label, (_, _), _ =>
      rules.layout <| rules.map (rules.jump id label) fun _ => rfl
  | .delegatingConstructorCall symbol access, (_, _), parts =>
      rules.layout <|
        rules.bind (rules.symbol .constructor symbol) fun symbol =>
        rules.map (parts access ()) fun access =>
          rules.ofUnit _ (.delegatingConstructorCall symbol access)
  | .enumConstructorCall symbol access, (_, _), parts =>
      rules.layout <|
        rules.bind (rules.symbol .constructor symbol) fun symbol =>
        rules.map (parts access ()) fun access =>
          rules.ofUnit _ (.enumConstructorCall symbol access)
  | .functionReference symbol typeArguments, (_, _), parts =>
      rules.layout <|
        rules.bind (rules.symbol .callee symbol) fun _ =>
        rules.map (parts typeArguments ()) fun _ => rfl
  | .getClass argument, (_, _), parts =>
      rules.layout <| rules.map (parts argument ()) fun _ => rfl
  | .getEnumValue own symbol, (_, _), parts =>
      rules.layout <|
        rules.bind (parts own ()) fun _ =>
        rules.map (rules.symbol .enumValue symbol) fun _ => rfl
  | .getField (.fieldAccessNode symbol qualifier receiver) own, (_, _), parts =>
      rules.layout <|
        rules.bind (rules.symbol .accessedField symbol) fun _ =>
        rules.bind (parts own ()) fun _ =>
        rules.append (rules.symbol? .superClass qualifier) fun _ =>
        rules.map (parts receiver ()) fun _ => rfl
  | .getObject symbol, (_, _), _ =>
      rules.layout <| rules.map (rules.symbol .objectClass symbol) fun _ => rfl
  | .getValue symbol own, (_, _), parts =>
      rules.layout <|
        rules.bind (rules.symbol .value symbol) fun _ =>
        rules.map (parts own ()) fun _ => rfl
  | .instanceInitializerCall symbol, (_, _), _ =>
      rules.layout <| rules.map (rules.symbol .objectClass symbol) fun symbol =>
        rules.ofUnit _ (.instanceInitializerCall symbol)
  | .propertyReference field getter setter typeArguments, (_, _), parts =>
      rules.layout <|
        rules.append (rules.symbol? .accessedField field) fun _ =>
        rules.append (rules.symbol? .accessor getter) fun _ =>
        rules.append (rules.symbol? .accessor setter) fun _ =>
        rules.map (parts typeArguments ()) fun _ => rfl
  | .returnFrom target value, (_, _), parts =>
      rules.layout <|
        rules.bind (rules.symbol .returnTarget target) fun target =>
        rules.map (parts value ()) fun value => rules.ofNothing _ (.returnFrom target value)
  | .setField access value, (_, _), parts =>
      rules.layout <|
        rules.bind (parts access ()) fun access =>
        rules.map (parts value ()) fun value => rules.ofUnit _ (.setField access value)
  | .setVariable symbol value, (_, _), parts =>
      rules.layout <|
        rules.bind (rules.symbol .assignedVariable symbol) fun symbol =>
        rules.map (parts value ()) fun value => rules.ofUnit _ (.setVariable symbol value)
  | .stringConcat arguments, (_, _), parts =>
      rules.layout <| rules.map (parts arguments ()) fun _ => rfl
  | .throwValue value, (_, _), parts =>
      rules.layout <| rules.map (parts value ()) fun value =>
        rules.ofNothing _ (.throwValue value)
  | .tryCatch result catches finalizer, (_, _), parts =>
      rules.layout <|
        rules.bind (parts result ()) fun _ =>
        rules.bind (parts catches ()) fun _ =>
        rules.map (parts finalizer ()) fun _ => rfl
  | .typeOperation _ operand argument, (_, _), parts =>
      rules.layout <|
        rules.bind (parts operand ()) fun operand =>
        rules.append (rules.operandClassifier _ operand) fun _ =>
        rules.map (parts argument ()) fun _ => rfl
  | .vararg elementType elements, (_, _), parts =>
      rules.layout <|
        rules.bind (parts elementType ()) fun _ =>
        rules.map (parts elements ()) fun _ => rfl
  | .when branches, (_, _), parts =>
      rules.layout <| rules.map (parts branches ()) fun _ => rfl
  | .loop kind id label condition body, (range, type), parts => by
      have contents : Mirrored [.part body, .part condition]
          (do
            let body ← build body ()
            let condition ← build condition ()
            return ⟨label, body, condition⟩)
          (do
            let body ← build (body.mapSymbols alter) ()
            let condition ← build (condition.mapSymbols alter) ()
            return ⟨label, body, condition⟩)
          (LoopContents.rename names) :=
        rules.bind (parts body ()) fun _ => rules.map (parts condition ()) fun _ => rfl
      have image := build_loop kind id label (condition.mapSymbols alter)
        (body.mapSymbols alter) range (type.rename names)
      refine rules.layout ?_
      rw [build_loop, show build (Record.mapSymbols alter (.loop kind id label condition body))
        (Context.rename names (range, type)) = _ from image]
      exact rules.map (rules.loop { id, kind, range, type } rfl contents) fun _ => rfl

/-- Linking a statement is mirrored if linking its parts is. -/
theorem statement_mirrored : (record : Record .statement) → (context : Context .statement) →
    LinkMirroredBelow names alter Mirrored (sizeOf record) →
      LinkMirrored names alter Mirrored record context
  | .unsetStatement _, _, _ => rules.layout <| rules.descend (rules.fail _ _ _)
  | .blockBody _ statements, _, parts =>
      rules.layout <| rules.descend <| rules.map (parts statements ()) fun _ => rfl
  | .branchStatement _ condition result, _, parts =>
      rules.layout <| rules.descend <|
        rules.bind (parts condition ()) fun _ =>
        rules.map (parts result ()) fun _ => rfl
  | .catchStatement _ parameter result, _, parts =>
      rules.layout <| rules.descend <|
        rules.bind (parts parameter Parent.none) fun parameter =>
        rules.append (rules.requireVariable _ parameter) fun _ =>
        rules.map (parts result ()) fun _ => rfl
  | .declarationStatement _ declaration, _, parts =>
      rules.layout <| rules.descend <|
        rules.map (parts declaration Parent.none) fun _ => rfl
  | .expressionStatement _ expression, _, parts =>
      rules.layout <| rules.descend <| rules.map (parts expression ()) fun _ => rfl
  | .syntheticBody range kind, _, _ =>
      rules.layout <| rules.descend (rules.made rfl)

/-- A statement in the place of a branch is mirrored if its parts are. -/
theorem branch_mirrored : (record : Record .branch) → (context : Context .branch) →
    LinkMirroredBelow names alter Mirrored (sizeOf record) →
      LinkMirrored names alter Mirrored record context
  | .asBranch (.branchStatement range condition result), _, parts =>
      rules.layout <| @rules.layout _ _ (.branchStatement range condition result) _ _ _ <|
        rules.descend <|
        rules.bind (parts condition () (by simp +arith)) fun _ =>
        rules.map (parts result () (by simp +arith)) fun _ => rfl
  | .asBranch (.unsetStatement _), _, _ => rules.layout (rules.fail _ _ _)
  | .asBranch (.blockBody _ _), _, _ => rules.layout (rules.fail _ _ _)
  | .asBranch (.catchStatement _ _ _), _, _ => rules.layout (rules.fail _ _ _)
  | .asBranch (.declarationStatement _ _), _, _ => rules.layout (rules.fail _ _ _)
  | .asBranch (.expressionStatement _ _), _, _ => rules.layout (rules.fail _ _ _)
  | .asBranch (.syntheticBody _ _), _, _ => rules.layout (rules.fail _ _ _)

/-- A statement in the place of a clause that catches is mirrored if its parts are. -/
theorem catchClause_mirrored : (record : Record .catchClause) →
    (context : Context .catchClause) →
    LinkMirroredBelow names alter Mirrored (sizeOf record) →
      LinkMirrored names alter Mirrored record context
  | .asCatch (.catchStatement range parameter result), _, parts =>
      rules.layout <| @rules.layout _ _ (.catchStatement range parameter result) _ _ _ <|
        rules.descend <|
        rules.bind (parts parameter Parent.none (by simp +arith)) fun parameter =>
        rules.append (rules.requireVariable _ parameter) fun _ =>
        rules.map (parts result () (by simp +arith)) fun _ => rfl
  | .asCatch (.unsetStatement _), _, _ => rules.layout (rules.fail _ _ _)
  | .asCatch (.blockBody _ _), _, _ => rules.layout (rules.fail _ _ _)
  | .asCatch (.branchStatement _ _ _), _, _ => rules.layout (rules.fail _ _ _)
  | .asCatch (.declarationStatement _ _), _, _ => rules.layout (rules.fail _ _ _)
  | .asCatch (.expressionStatement _ _), _, _ => rules.layout (rules.fail _ _ _)
  | .asCatch (.syntheticBody _ _), _, _ => rules.layout (rules.fail _ _ _)

/-- A statement in the place of a body is mirrored if its parts are. -/
theorem body_mirrored : (record : Record .body) → (context : Context .body) →
    LinkMirroredBelow names alter Mirrored (sizeOf record) →
      LinkMirrored names alter Mirrored record context
  | .asBody (.blockBody range statements), _, parts =>
      rules.layout <| @rules.layout _ _ (.blockBody range statements) _ _ _ <|
        rules.descend <| rules.map (parts statements () (by simp +arith)) fun _ => rfl
  | .asBody (.syntheticBody range kind), _, _ =>
      rules.layout (rules.made rfl)
  | .asBody (.unsetStatement _), _, _ => rules.layout (rules.fail _ _ _)
  | .asBody (.branchStatement _ _ _), _, _ => rules.layout (rules.fail _ _ _)
  | .asBody (.catchStatement _ _ _), _, _ => rules.layout (rules.fail _ _ _)
  | .asBody (.declarationStatement _ _), _, _ => rules.layout (rules.fail _ _ _)
  | .asBody (.expressionStatement _ _), _, _ => rules.layout (rules.fail _ _ _)

/-- Linking a declarator is mirrored if linking its parts is. -/
theorem declarator_mirrored : (record : Record .declarator) →
    (context : Context .declarator) →
    LinkMirroredBelow names alter Mirrored (sizeOf record) →
      LinkMirrored names alter Mirrored record context
  | .unsetDeclarator, _, _ => rules.layout (rules.fail _ _ _)
  | .anonymousInitializer symbol statements, _, parts =>
      rules.layout <|
        rules.bind (rules.symbol .declaredInitializer symbol) fun _ =>
        rules.map (parts statements ()) fun _ => rfl
  | .classDeclarator symbol _ _ _ _ _ members thisReceiver typeParameters superTypes,
      site, parts =>
      rules.layout <|
        rules.bind (rules.symbol .declaredClass symbol) fun _ =>
        rules.bind (parts members (Parent.declaration site.node)) fun _ =>
        rules.bind (parts thisReceiver site) fun _ =>
        rules.bind (parts typeParameters site) fun _ =>
        rules.map (parts superTypes ()) fun _ => rfl
  | .constructorDeclarator symbol _ signature _, site, parts =>
      rules.layout <|
        rules.bind (rules.symbol .declaredConstructor symbol) fun _ =>
        rules.map (parts signature site) fun _ => rfl
  | .enumEntry symbol _ entryClass initializer, site, parts =>
      rules.layout <|
        rules.bind (rules.symbol .declaredEnumEntry symbol) fun _ =>
        rules.bind (parts entryClass (Parent.declaration site.node)) fun entryClass =>
        rules.append (rules.requireClass _ entryClass) fun _ =>
        rules.map (parts initializer ()) fun _ => rfl
  | .fieldDeclarator field, _, parts => rules.layout <| parts (c := .field) field ()
  | .functionDeclarator function, site, parts =>
      rules.layout <| parts (c := .function) function (site, none)
  | .property _ _ _ _ backingField getter setter, site, parts =>
      rules.layout <|
        rules.bind (parts backingField site) fun _ =>
        rules.bind (parts getter site) fun _ =>
        rules.map (parts setter site) fun _ => rfl
  | .typeAlias, _, _ => rules.layout (rules.made rfl)
  | .variableDeclarator symbol _ type _ initializer, _, parts =>
      rules.layout <|
        rules.bind (parts initializer ()) fun _ =>
        rules.bind (rules.symbol .declaredVariable symbol) fun _ =>
        rules.map (parts type ()) fun _ => rfl

/-- Linking a record is mirrored if linking its parts is. -/
theorem layer_mirrored {c : Category} (record : Record c) (context : Context c)
    (parts : LinkMirroredBelow names alter Mirrored (sizeOf record)) :
    LinkMirrored names alter Mirrored record context := by
  cases c with
  | list =>
      cases record with
      | nil => exact rules.layout (rules.made rfl)
      | cons head tail =>
          exact rules.layout <|
            rules.bind (parts head context) fun _ =>
            rules.map (parts tail context) fun _ => rfl
  | option =>
      cases record with
      | none => exact rules.layout (rules.made rfl)
      | some value =>
          exact rules.layout <| rules.map (parts value context) fun _ => rfl
  | type => exact type_mirrored rules record context @parts
  | typeArgument =>
      cases record with
      | unsetArgument => exact rules.layout (rules.fail _ _ _)
      | starArgument =>
          exact rules.layout (rules.made rfl)
      | projection _ type =>
          exact rules.layout <| rules.map (parts type ()) fun _ => rfl
  | call =>
      cases record with
      | callNode symbol qualifier _ access =>
          exact rules.layout <|
            rules.bind (rules.symbol .callee symbol) fun _ =>
            rules.append (rules.symbol? .superClass qualifier) fun _ =>
            rules.map (parts access ()) fun _ => rfl
  | access =>
      cases record with
      | accessNode dispatchReceiver extensionReceiver valueArguments typeArguments =>
          exact rules.layout <|
            rules.bind (parts valueArguments ()) fun _ =>
            rules.bind (parts typeArguments ()) fun _ =>
            rules.bind (parts dispatchReceiver ()) fun _ =>
            rules.map (parts extensionReceiver ()) fun _ => rfl
  | fieldAccess =>
      cases record with
      | fieldAccessNode symbol qualifier receiver =>
          exact rules.layout <|
            rules.bind (rules.symbol .accessedField symbol) fun _ =>
            rules.append (rules.symbol? .superClass qualifier) fun _ =>
            rules.map (parts receiver ()) fun _ => rfl
  | expression =>
      cases record with
      | expressionNode range type operation =>
          exact rules.layout <| rules.descend <|
            rules.bind (parts type ()) fun type =>
            parts (c := .operation) operation (range, type)
  | operation => exact operation_mirrored rules record context @parts
  | varargElement =>
      cases record with
      | unsetElement => exact rules.layout (rules.fail _ _ _)
      | plainElement expression =>
          exact rules.layout <| rules.map (parts expression ()) fun _ => rfl
      | spreadElement _ expression =>
          exact rules.layout <| rules.map (parts expression ()) fun _ => rfl
  | statement => exact statement_mirrored rules record context @parts
  | branch => exact branch_mirrored rules record context @parts
  | catchClause => exact catchClause_mirrored rules record context @parts
  | body => exact body_mirrored rules record context @parts
  | declaration =>
      cases record with
      | declarationNode range origin annotations _ declarator =>
          exact rules.layout <| rules.descend <|
            rules.append (rules.originNamed _ origin) fun origin =>
            rules.silent rules.node fun node =>
            rules.bind (parts declarator ⟨node, range, origin⟩) fun _ =>
            rules.bind (parts annotations ()) fun _ =>
            rules.map (rules.register _ _) fun _ => rfl
  | declarator => exact declarator_mirrored rules record context @parts
  | signature =>
      cases record with
      | signatureNode returnType body valueParameters dispatchReceiver extensionReceiver
          typeParameters =>
          exact rules.layout <|
            rules.bind (parts returnType ()) fun _ =>
            rules.bind (parts body ()) fun _ =>
            rules.bind (parts valueParameters context) fun _ =>
            rules.bind (parts dispatchReceiver context) fun _ =>
            rules.bind (parts extensionReceiver context) fun _ =>
            rules.map (parts typeParameters context) fun _ => rfl
  | function =>
      cases record with
      | functionNode symbol _ signature _ _ _ overridden =>
          rcases context with ⟨site, served⟩
          exact rules.layout <|
            rules.bind (rules.symbol .declaredFunction symbol) fun _ =>
            rules.bind (parts signature site) fun _ =>
            rules.map (rules.symbols .overriddenFunction overridden) fun _ => rfl
  | field =>
      cases record with
      | fieldNode symbol _ type _ _ initializer =>
          exact rules.layout <|
            rules.bind (rules.symbol .declaredField symbol) fun _ =>
            rules.bind (parts type ()) fun _ =>
            rules.map (parts initializer ()) fun _ => rfl
  | accessor =>
      cases record with
      | asAccessor function =>
          exact rules.layout <|
            rules.bind (parts (c := .function) function (context, some context.node)) fun _ =>
            rules.silent (rules.child context _) fun _ =>
            rules.map (rules.register _ _) fun _ => rfl
  | backingField =>
      cases record with
      | asBackingField field =>
          exact rules.layout <|
            rules.bind (parts (c := .field) field ()) fun _ => rules.child context _
  | valueParameter =>
      cases record with
      | valueParameterNode symbol _ _ type varargElementType _ _ defaultValue =>
          exact rules.layout <|
            rules.bind (parts varargElementType ()) fun _ =>
            rules.bind (rules.symbol .declaredValueParameter symbol) fun _ =>
            rules.bind (parts type ()) fun _ =>
            rules.map (parts defaultValue ()) fun _ => rfl
  | typeParameter =>
      cases record with
      | typeParameterNode symbol _ _ _ superTypes =>
          exact rules.layout <|
            rules.bind (rules.symbol .declaredTypeParameter symbol) fun _ =>
            rules.map (parts superTypes ()) fun _ => rfl

/-- Linking a record is mirrored by linking its image, which gives the renamed tree. -/
theorem build_mirrored {c : Category} (record : Record c) (context : Context c) :
    Mirrored [.part record] (build record context)
      (build (record.mapSymbols alter) (context.rename names)) (Tree.rename names) := by
  induction record using Record.size_induction with
  | node record inductionHypothesis =>
      exact layer_mirrored rules record context fun inner context smaller =>
        inductionHypothesis inner smaller context

end Linking

end Decode

end IrLink
