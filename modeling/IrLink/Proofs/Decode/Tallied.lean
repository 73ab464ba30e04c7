import IrLink.Proofs.Decode.Rules

/-!
# Linking by rules

What `Rules` list for the small computations of the decoder holds of linking
every record (`Decode.build_tallied`): the effects are those of the record, the
marks of the tree are known, and the tree keeps as many declarations as the
record.  For each form of a record its parts are linked by rules if smaller
records are.
-/

namespace IrLink

/-! ## Roles of declarations -/

namespace Category

/-- How the declarations that records of a category become are marked. -/
def role : Category → Tree .declaration → Mark
  | .backingField => .backingField
  | .list c => c.role
  | .option c => c.role
  | _ => .declaration

/-- Whether records of a category become no declarations, and do not depend on
the type of an expression. -/
def isOrdinary : Category → Bool
  | .declaration | .accessor | .backingField | .operation => false
  | .list c => c.isOrdinary
  | .option c => c.isOrdinary
  | _ => true

/-- Whether records of a category depend on the type of an expression. -/
def takesType : Category → Bool
  | .operation => true
  | .list c => c.takesType
  | .option c => c.takesType
  | _ => false

end Category

/-- What is known from above is known in the session. -/
def Context.Holds (holds : Mark → Prop) : {c : Category} → Context c → Prop
  | .operation, (_, type) => ∀ mark ∈ type.allMarks, holds mark
  | .list c, context => Context.Holds (c := c) holds context
  | .option c, context => Context.Holds (c := c) holds context
  | _, _ => True

/-- The number of declarations that a tree takes over from above. -/
def Record.added (counted : UInt64 → Bool) : {c : Category} → Record c → Context c → Nat
  | .operation, operation, (_, type) =>
      if operation.replacesType then 0 else type.allMarks.countP (·.declares counted)
  | .list _, records, context =>
      (records.toList.map fun record => record.added counted context).sum
  | .option _, record, context =>
      (record.toOption.toList.map fun record => record.added counted context).sum
  | _, _, _ => 0

/-- The symbol that a record declares, if it is a declarator. -/
def Record.ownSymbol? : {c : Category} → Record c → Option SymbolRecord
  | .declarator, declarator => declarator.declaredSymbol?
  | .function, function => .some function.functionSymbol
  | .field, field => .some field.fieldSymbol
  | _, _ => .none

/-- The symbol that a tree declares, if it is a declarator. -/
def Tree.ownSymbol? : {c : Category} → Tree c → Option Symbol
  | .declarator, declarator => declarator.declaredSymbol?
  | _, _ => .none

/-- Most records depend on nothing from above. -/
theorem Record.added_eq_zero (counted : UInt64 → Bool) :
    {c : Category} → c.takesType = false → (record : Record c) → (context : Context c) →
      record.added counted context = 0
  | .list c, without, records, context => by
      rw [added, List.sum_eq_zero_iff_forall_eq_nat, List.forall_mem_map]
      exact fun record _ => record.added_eq_zero (c := c) counted without context
  | .option c, without, record, context => by
      rw [added, List.sum_eq_zero_iff_forall_eq_nat, List.forall_mem_map]
      exact fun record _ => record.added_eq_zero (c := c) counted without context
  | .type, _, _, _ | .typeArgument, _, _, _ | .call, _, _, _ | .access, _, _, _
  | .fieldAccess, _, _, _ | .expression, _, _, _ | .varargElement, _, _, _
  | .statement, _, _, _ | .branch, _, _, _ | .catchClause, _, _, _ | .body, _, _, _
  | .declaration, _, _, _ | .declarator, _, _, _ | .signature, _, _, _
  | .function, _, _, _ | .field, _, _, _ | .accessor, _, _, _ | .backingField, _, _, _
  | .valueParameter, _, _, _ | .typeParameter, _, _, _ => rfl

namespace Category

theorem takesType_of_isOrdinary : {c : Category} → c.isOrdinary = true → c.takesType = false
  | .list c, plain => takesType_of_isOrdinary (c := c) plain
  | .option c, plain => takesType_of_isOrdinary (c := c) plain
  | .type, _ | .typeArgument, _ | .call, _ | .access, _ | .fieldAccess, _
  | .expression, _ | .varargElement, _ | .statement, _ | .branch, _ | .catchClause, _
  | .body, _ | .declarator, _ | .signature, _ | .function, _ | .field, _
  | .valueParameter, _ | .typeParameter, _ => rfl

theorem built_ofDeclarations_of_isOrdinary :
    {c : Category} → c.isOrdinary = true → c.built.ofDeclarations = false
  | .list c, plain => built_ofDeclarations_of_isOrdinary (c := c) plain
  | .option c, plain => built_ofDeclarations_of_isOrdinary (c := c) plain
  | .type, _ | .typeArgument, _ | .call, _ | .access, _ | .fieldAccess, _
  | .expression, _ | .varargElement, _ | .statement, _ | .branch, _ | .catchClause, _
  | .body, _ | .declarator, _ | .signature, _ | .function, _ | .field, _
  | .valueParameter, _ | .typeParameter, _ => rfl

end Category

namespace Decode

/-- What is said of the tree that linking a record gives: it declares the
recorded symbol, its marks are known, and it keeps as many declarations as the
record. -/
structure Tallied (holds : Mark → Prop) (counted : UInt64 → Bool) {c : Category}
    (record : Record c) (context : Context c) (tree : Tree c.built) : Prop where
  own : (tree.ownSymbol?.any fun symbol => counted symbol.id) =
    record.ownSymbol?.any fun symbol => counted symbol.uniqueId.index
  tally : Tally holds counted (tree.items.map c.role ++ tree.allMarks)
    (record.kept counted + record.added counted context)

namespace Tallied

variable {holds : Mark → Prop} {counted : UInt64 → Bool} {c : Category} {record : Record c}
  {context : Context c} {tree : Tree c.built}

/-- The marks of a tree that becomes no declaration. -/
theorem marks (tallied : Tallied holds counted record context tree)
    (plain : c.isOrdinary = true := by rfl) :
    Tally holds counted tree.allMarks (record.kept counted) := by
  have tally := tallied.tally
  rw [Tree.items_eq_nil (Category.built_ofDeclarations_of_isOrdinary plain),
    Record.added_eq_zero counted (Category.takesType_of_isOrdinary plain)] at tally
  exact tally

/-- The declarations of a tree, and the marks of what is inside it. -/
theorem held (tallied : Tallied holds counted record context tree)
    (without : c.takesType = false := by rfl) :
    ∃ own inner, Tally holds counted (tree.items.map c.role) own ∧
      Tally holds counted tree.allMarks inner ∧ own + inner = record.kept counted := by
  have tally := tallied.tally
  rw [Record.added_eq_zero counted without] at tally
  exact tally.split

/-- A tree that becomes no declaration keeps what the items of its record keep. -/
theorem ofMarks {number : Nat}
    (own : (tree.ownSymbol?.any fun symbol => counted symbol.id) =
      record.ownSymbol?.any fun symbol => counted symbol.uniqueId.index)
    (tally : Tally holds counted tree.allMarks number)
    (same : number = (record.layout.map (Item.kept counted)).sum := by
      simp +arith [Record.layout])
    (plain : c.isOrdinary = true := by rfl)
    (ordinary : record.replacedType? = none := by rfl) :
    Tallied holds counted record context tree where
  own := own
  tally := by
    rw [Tree.items_eq_nil (Category.built_ofDeclarations_of_isOrdinary plain),
      Record.added_eq_zero counted (Category.takesType_of_isOrdinary plain),
      Record.kept_eq _ counted ordinary, ← same]
    exact tally

section Operations

variable {operation : Record .operation} {range : Range} {type recorded : Tree .type}
  {tree : Tree .operation} {a b : Nat}

/-- An expression of its recorded type. -/
theorem ofOperation (known : ∀ mark ∈ type.allMarks, holds mark)
    (tally : Tally holds counted tree.allMarks a)
    (own : Tally holds counted (Tree.expressionNode range type tree).marks 0 := by exact .nil)
    (same : a = (operation.layout.map (Item.kept counted)).sum := by
      simp +arith [Record.layout])
    (keeps : operation.replacesType = false := by rfl) :
    Tallied holds counted operation (range, type) (.expressionNode range type tree) where
  own := rfl
  tally := by
    have typeTally : Tally holds counted type.allMarks _ := ⟨known, rfl⟩
    refine (own.tree (.part typeTally (.part tally .noPart))).cast ?_
    rw [Record.kept_eq _ counted rfl, ← same, Record.added, keeps]
    simp +arith

/-- An expression of another type than the recorded one. -/
theorem ofReplaced (typeTally : Tally holds counted type.allMarks a)
    (tally : Tally holds counted tree.allMarks b)
    (own : Tally holds counted (Tree.expressionNode range type tree).marks 0 := by exact .nil)
    (same : a + b = (operation.layout.map (Item.kept counted)).sum := by
      simp +arith [Record.layout])
    (replaces : operation.replacesType = true := by rfl) :
    Tallied holds counted operation (range, recorded) (.expressionNode range type tree) where
  own := rfl
  tally := by
    refine (own.tree (.part typeTally (.part tally .noPart))).cast ?_
    rw [Record.kept_eq _ counted rfl, ← same, Record.added, replaces]
    simp +arith

end Operations

end Tallied

/-- The classifier of a type is marked. -/
theorem classifier_marked {type : Tree .type} {classifier : Symbol}
    (classified : type.classifier? = some classifier) :
    .symbol .classifier classifier ∈ type.allMarks := by
  cases type with
  | simpleType =>
      cases classified
      exact .head _
  | dynamicType => cases classified
  | errorType => cases classified

variable {holds : Mark → Prop} {counted : UInt64 → Bool}
  {Ensures : {α : Type} → Prop → Decode α → List LinkStep → (α → Prop) → Prop}
  {given : Prop}

/-- Records smaller than a given size are linked by rules. -/
def TalliedBelow (holds : Mark → Prop) (counted : UInt64 → Bool)
    (Ensures : {α : Type} → Prop → Decode α → List LinkStep → (α → Prop) → Prop)
    (size : Nat) : Prop :=
  ∀ {c : Category} (record : Record c) (context : Context c)
    {given : Prop} (_ : given → context.Holds holds := by exact fun _ => trivial)
    (_ : sizeOf record < size := by simp +arith),
    Ensures given (build record context) record.effects (Tallied holds counted record context)

/-! ## Statements -/

/-- Linking a statement goes by rules if linking its parts does. -/
theorem statement_tallied (rules : Rules holds counted Ensures) :
    (record : Record .statement) → (context : Context .statement) →
      TalliedBelow holds counted Ensures (sizeOf record) →
      Ensures given (build record context) record.effects (Tallied holds counted record context)
  | .unsetStatement _, _, _ => rules.descend (rules.refuse _ _ _)
  | .blockBody _ statements, _, parts => by
      rw [Record.effects_eq]
      refine rules.descend ?_
      refine rules.last (parts statements ()) fun _ => ?_
      rintro ⟨_, first⟩
      exact .ofMarks rfl (.tree .nil
        (.part (.tree .nil (.part first.marks .noPart)) .noPart))
  | .branchStatement _ condition result, _, parts => by
      rw [Record.effects_eq]
      refine rules.descend ?_
      refine rules.andThen (parts condition ()) fun _ => ?_
      refine rules.last (parts result ()) fun _ => ?_
      rintro ⟨⟨_, first⟩, second⟩
      exact .ofMarks rfl (.tree .nil
        (.part (.tree .nil (.part first.marks (.part second.marks .noPart))) .noPart))
  | .catchStatement _ parameter result, _, parts => by
      rw [Record.effects_eq]
      refine rules.descend ?_
      refine rules.andThen (parts parameter Parent.none) fun parameter => ?_
      refine rules.unseen (Record.effects_parameterCheck _) (rules.requireVariable parameter)
        fun _ => ?_
      refine rules.last (parts result ()) fun _ => ?_
      rintro ⟨⟨⟨_, first⟩, _⟩, second⟩
      rcases first.held with ⟨own, inner, ownTally, innerTally, same⟩
      exact .ofMarks rfl (.tree .nil (.part (.tree ownTally
        (.part innerTally (.part second.marks .noPart))) .noPart))
        (by simp [Record.layout]; omega)
  | .declarationStatement _ declaration, _, parts => by
      rw [Record.effects_eq]
      refine rules.descend ?_
      refine rules.last (parts declaration Parent.none) fun _ => ?_
      rintro ⟨_, first⟩
      rcases first.held with ⟨own, inner, ownTally, innerTally, same⟩
      exact .ofMarks rfl (.tree ownTally (.part innerTally .noPart))
        (by simp [Record.layout]; omega)
  | .expressionStatement _ expression, _, parts => by
      rw [Record.effects_eq]
      refine rules.descend ?_
      refine rules.last (parts expression ()) fun _ => ?_
      rintro ⟨_, first⟩
      exact .ofMarks rfl (.tree .nil (.part first.marks .noPart))
  | .syntheticBody _ _, _, _ => by
      rw [Record.effects_eq]
      refine rules.descend (rules.pure fun _ => ?_)
      exact .ofMarks rfl (.tree .nil (.part (.tree .nil .noPart) .noPart))

/-- A statement in the place of a branch is refused unless it is one. -/
theorem branch_tallied (rules : Rules holds counted Ensures) :
    (record : Record .branch) → (context : Context .branch) →
      TalliedBelow holds counted Ensures (sizeOf record) →
      Ensures given (build record context) record.effects (Tallied holds counted record context)
  | .asBranch (.branchStatement range condition result), _, parts => by
      rw [Record.effects_eq, Record.layout, List.flatMap_singleton, Item.effects,
        Record.effects_eq]
      refine rules.descend ?_
      refine rules.andThen (parts condition ()) fun _ => ?_
      refine rules.last (parts result ()) fun _ => ?_
      rintro ⟨⟨_, first⟩, second⟩
      exact .ofMarks rfl (.tree .nil (.part first.marks (.part second.marks .noPart)))
        (by simp +arith [Record.layout, Record.kept_statement])
  | .asBranch (.unsetStatement _), _, _ => rules.refuse _ _ _
  | .asBranch (.blockBody _ _), _, _ => rules.refuse _ _ _
  | .asBranch (.catchStatement _ _ _), _, _ => rules.refuse _ _ _
  | .asBranch (.declarationStatement _ _), _, _ => rules.refuse _ _ _
  | .asBranch (.expressionStatement _ _), _, _ => rules.refuse _ _ _
  | .asBranch (.syntheticBody _ _), _, _ => rules.refuse _ _ _

/-- A statement in the place of a clause that catches is refused unless it is one. -/
theorem catchClause_tallied (rules : Rules holds counted Ensures) :
    (record : Record .catchClause) → (context : Context .catchClause) →
      TalliedBelow holds counted Ensures (sizeOf record) →
      Ensures given (build record context) record.effects (Tallied holds counted record context)
  | .asCatch (.catchStatement range parameter result), _, parts => by
      rw [Record.effects_eq, Record.layout, List.flatMap_singleton, Item.effects,
        Record.effects_eq]
      refine rules.descend ?_
      refine rules.andThen (parts parameter Parent.none) fun tree => ?_
      refine rules.unseen (Record.effects_parameterCheck _) (rules.requireVariable tree)
        fun _ => ?_
      refine rules.last (parts result ()) fun _ => ?_
      rintro ⟨⟨⟨_, first⟩, _⟩, second⟩
      rcases first.held with ⟨own, inner, ownTally, innerTally, same⟩
      exact .ofMarks rfl (.tree ownTally (.part innerTally (.part second.marks .noPart)))
        (by
          simp [Record.layout, Record.kept_statement]
          omega)
  | .asCatch (.unsetStatement _), _, _ => rules.refuse _ _ _
  | .asCatch (.blockBody _ _), _, _ => rules.refuse _ _ _
  | .asCatch (.branchStatement _ _ _), _, _ => rules.refuse _ _ _
  | .asCatch (.declarationStatement _ _), _, _ => rules.refuse _ _ _
  | .asCatch (.expressionStatement _ _), _, _ => rules.refuse _ _ _
  | .asCatch (.syntheticBody _ _), _, _ => rules.refuse _ _ _

/-- A statement in the place of a body is refused unless it is one. -/
theorem body_tallied (rules : Rules holds counted Ensures) :
    (record : Record .body) → (context : Context .body) →
      TalliedBelow holds counted Ensures (sizeOf record) →
      Ensures given (build record context) record.effects (Tallied holds counted record context)
  | .asBody (.blockBody range statements), _, parts => by
      rw [Record.effects_eq, Record.layout, List.flatMap_singleton, Item.effects,
        Record.effects_eq]
      refine rules.descend ?_
      refine rules.last (parts statements ()) fun _ => ?_
      rintro ⟨_, first⟩
      exact .ofMarks rfl (.tree .nil (.part first.marks .noPart))
        (by simp +arith [Record.layout, Record.kept_statement])
  | .asBody (.syntheticBody _ _), _, _ => by
      rw [Record.effects_eq]
      exact rules.pure fun _ => .ofMarks rfl (.tree .nil .noPart)
  | .asBody (.unsetStatement _), _, _ => rules.refuse _ _ _
  | .asBody (.branchStatement _ _ _), _, _ => rules.refuse _ _ _
  | .asBody (.catchStatement _ _ _), _, _ => rules.refuse _ _ _
  | .asBody (.declarationStatement _ _), _, _ => rules.refuse _ _ _
  | .asBody (.expressionStatement _ _), _, _ => rules.refuse _ _ _

/-! ## Declarations -/

/-- What is said of the parts of a declaration before it is made known. -/
structure PartsTallied (holds : Mark → Prop) (counted : UInt64 → Bool)
    (symbol : Option SymbolRecord) (declarator annotations : Nat)
    (made : Tree .declarator × Tree (.list .call)) : Prop where
  declares : Declares holds counted symbol made
  declarator : Tally holds counted made.1.allMarks declarator
  annotations : Tally holds counted made.2.allMarks annotations

/-- A declaration that was made known, and everything inside it. -/
theorem Declares.tally {symbol : Option SymbolRecord} {made : Tree .declarator × Tree (.list .call)}
    {node : Nat} {range : Range} {origin : Origin} {parent : Parent} {number : Nat}
    (declares : Declares holds counted symbol made)
    (known : holds (.declaration (.declarationNode node range origin parent made.1 made.2)))
    (inside : Tally holds counted
      (Tree.declarationNode node range origin parent made.1 made.2).allMarks number) :
    Tally holds counted
      (Tree.declarationNode node range origin parent made.1 made.2).ownedMarks
      ((symbol.any fun record => counted record.uniqueId.index).toNat + number) := by
  rw [← declares.counts]
  exact (Tally.declaration known).append inside

/-- Linking a declarator goes by rules if linking its parts does. -/
theorem declarator_tallied (rules : Rules holds counted Ensures) :
    (record : Record .declarator) → (context : Context .declarator) →
      TalliedBelow holds counted Ensures (sizeOf record) →
      Ensures given (build record context) record.effects (Tallied holds counted record context)
  | .unsetDeclarator, _, _ => rules.refuse _ _ _
  | .anonymousInitializer symbol statements, _, parts => by
      rw [Record.effects_eq]
      refine rules.andThen (rules.symbol .declaredInitializer symbol) fun _ => ?_
      refine rules.last (parts statements ()) fun _ => ?_
      rintro ⟨⟨_, first⟩, second⟩
      exact .ofMarks first.1 (.tree (.symbol first.2)
        (.part (.tree .nil (.part second.marks .noPart)) .noPart))
  | .classDeclarator symbol _ _ _ _ _ members thisReceiver typeParameters superTypes,
      site, parts => by
      rw [Record.effects_eq]
      refine rules.andThen (rules.symbol .declaredClass symbol) fun _ => ?_
      refine rules.andThen (parts members (Parent.declaration site.node)) fun _ => ?_
      refine rules.andThen (parts thisReceiver site) fun _ => ?_
      refine rules.andThen (parts typeParameters site) fun _ => ?_
      refine rules.last (parts superTypes ()) fun _ => ?_
      rintro ⟨⟨⟨⟨⟨_, first⟩, second⟩, third⟩, fourth⟩, fifth⟩
      rcases second.held with ⟨own, inner, ownTally, innerTally, same⟩
      exact .ofMarks first.1 (.tree ((Tally.symbol first.2).append ownTally)
        (.part innerTally (.part third.marks (.part fourth.marks (.part fifth.marks .noPart)))))
        (by simp [Record.layout]; omega)
  | .constructorDeclarator symbol _ signature _, site, parts => by
      rw [Record.effects_eq]
      refine rules.andThen (rules.symbol .declaredConstructor symbol) fun _ => ?_
      refine rules.last (parts signature site) fun _ => ?_
      rintro ⟨⟨_, first⟩, second⟩
      exact .ofMarks first.1 (.tree (.symbol first.2) (.part second.marks .noPart))
  | .enumEntry symbol _ entryClass initializer, site, parts => by
      rw [Record.effects_eq]
      refine rules.andThen (rules.symbol .declaredEnumEntry symbol) fun _ => ?_
      refine rules.andThen (parts entryClass (Parent.declaration site.node)) fun tree => ?_
      refine rules.unseen (Record.effects_entryClassCheck _) (rules.requireClass tree)
        fun _ => ?_
      refine rules.last (parts initializer ()) fun _ => ?_
      rintro ⟨⟨⟨⟨_, first⟩, second⟩, _⟩, third⟩
      rcases second.held with ⟨own, inner, ownTally, innerTally, same⟩
      exact .ofMarks first.1 (.tree ((Tally.symbol first.2).append ownTally)
        (.part innerTally (.part third.marks .noPart)))
        (by simp [Record.layout]; omega)
  | .fieldDeclarator field, _, parts => by
      rw [Record.effects_eq]
      refine rules.only (parts (c := .field) field ()) fun _ => ?_
      rintro ⟨_, first⟩
      exact .ofMarks first.own first.marks
  | .functionDeclarator function, site, parts => by
      rw [Record.effects_eq]
      refine rules.only (parts (c := .function) function (site, none)) fun _ => ?_
      rintro ⟨_, first⟩
      exact .ofMarks first.own first.marks
  | .property _ _ _ _ backingField getter setter, site, parts => by
      rw [Record.effects_eq]
      refine rules.andThen (parts backingField site) fun _ => ?_
      refine rules.andThen (parts getter site) fun _ => ?_
      refine rules.last (parts setter site) fun _ => ?_
      rintro ⟨⟨⟨_, first⟩, second⟩, third⟩
      rcases first.held with ⟨a, b, storage, insideStorage, storageSame⟩
      rcases second.held with ⟨d, e, read, insideRead, readSame⟩
      rcases third.held with ⟨f, g, write, insideWrite, writeSame⟩
      exact .ofMarks rfl (.tree ((storage.append read).append write)
        (.part insideStorage (.part insideRead (.part insideWrite .noPart))))
        (by simp [Record.layout]; omega)
  | .typeAlias, _, _ => by
      rw [Record.effects_eq]
      exact rules.pure fun _ => .ofMarks rfl (.tree .nil .noPart)
  | .variableDeclarator symbol _ type _ initializer, _, parts => by
      rw [Record.effects_eq]
      refine rules.andThen (parts initializer ()) fun _ => ?_
      refine rules.andThen (rules.symbol .declaredVariable symbol) fun _ => ?_
      refine rules.last (parts type ()) fun _ => ?_
      rintro ⟨⟨⟨_, first⟩, second⟩, third⟩
      exact .ofMarks second.1 (.tree (.symbol second.2)
        (.part third.marks (.part first.marks .noPart)))

/-! ## Types and expressions -/

/-- Linking a type goes by rules if linking its parts does. -/
theorem type_tallied (rules : Rules holds counted Ensures) :
    (record : Record .type) → (context : Context .type) →
      TalliedBelow holds counted Ensures (sizeOf record) →
      Ensures given (build record context) record.effects (Tallied holds counted record context)
  | .unsetType, _, _ => rules.refuse _ _ _
  | .simpleType annotations _ classifier _ arguments, _, parts => by
      rw [Record.effects_eq]
      refine rules.andThen (parts arguments ()) fun _ => ?_
      refine rules.andThen (parts annotations ()) fun _ => ?_
      refine rules.last (rules.symbol .classifier classifier) fun _ => ?_
      rintro ⟨⟨⟨_, first⟩, second⟩, third⟩
      exact .ofMarks rfl (.tree (.symbol third.2)
        (.part first.marks (.part second.marks .noPart)))
  | .dynamicType annotations _, _, parts => by
      rw [Record.effects_eq]
      refine rules.last (parts annotations ()) fun _ => ?_
      rintro ⟨_, first⟩
      exact .ofMarks rfl (.tree .nil (.part first.marks .noPart))
  | .errorType annotations _, _, parts => by
      rw [Record.effects_eq]
      refine rules.last (parts annotations ()) fun _ => ?_
      rintro ⟨_, first⟩
      exact .ofMarks rfl (.tree .nil (.part first.marks .noPart))

/-- The types that the decoder puts in are those of built-ins. -/
theorem plainType_tally (rules : Rules holds counted Ensures) {builtin : Builtin}
    (among : builtin ∈ Builtin.all)
    (accepted : Requirement.classifier.accepts builtin.symbol.kind = true) :
    Tally holds counted (Tree.plainType builtin.symbol).allMarks 0 :=
  Tally.symbol (rules.builtin builtin among accepted)

theorem unitType_tally (rules : Rules holds counted Ensures) :
    Tally holds counted Builtin.unitType.allMarks 0 :=
  plainType_tally rules (List.mem_of_getElem? (i := 2) rfl) rfl

theorem nothingType_tally (rules : Rules holds counted Ensures) :
    Tally holds counted Builtin.nothingType.allMarks 0 :=
  plainType_tally rules (List.mem_of_getElem? (i := 1) rfl) rfl

/-- Linking an operation goes by rules if linking its parts does. -/
theorem operation_tallied (rules : Rules holds counted Ensures) :
    (record : Record .operation) → (range : Range) → (type : Tree .type) →
      (given → ∀ mark ∈ type.allMarks, holds mark) →
      TalliedBelow holds counted Ensures (sizeOf record) →
      Ensures given (build record (c := .operation) (range, type)) record.effects
        (Tallied (c := .operation) holds counted record (range, type))
  | .unsetOperation, _, _, _, _ => rules.refuse _ _ _
  | .block statements _, _, _, known, parts => by
      rw [Record.effects_eq]
      refine rules.last (parts statements ()) fun _ => ?_
      rintro ⟨start, first⟩
      exact .ofOperation (known start) (.tree .nil (.part first.marks .noPart))
  | .breakLoop id label, _, _, known, _ => by
      rw [Record.effects_eq]
      refine rules.map (rules.jump id label) fun _ => ?_
      rintro ⟨start, first⟩
      exact .ofOperation (known start) (.tree (.jump first) .noPart)
  | .callOperation call, _, _, known, parts => by
      rw [Record.effects_eq]
      refine rules.last (parts call ()) fun _ => ?_
      rintro ⟨start, first⟩
      exact .ofOperation (known start) (.tree .nil (.part first.marks .noPart))
  | .classReference symbol referred, _, _, known, parts => by
      rw [Record.effects_eq]
      refine rules.andThen (rules.symbol .classifier symbol) fun _ => ?_
      refine rules.last (parts referred ()) fun _ => ?_
      rintro ⟨⟨start, first⟩, second⟩
      exact .ofOperation (known start) (.tree (.symbol first.2) (.part second.marks .noPart))
  | .composite statements, _, _, known, parts => by
      rw [Record.effects_eq]
      refine rules.last (parts statements ()) fun _ => ?_
      rintro ⟨start, first⟩
      exact .ofOperation (known start) (.tree .nil (.part first.marks .noPart))
  | .constant value, _, _, known, _ => by
      rw [Record.effects_eq, Record.layout, Record.effects_constantCheck]
      refine rules.map (rules.constantOf value) fun _ => ?_
      rintro ⟨start, _⟩
      exact .ofOperation (known start) (.tree .nil .noPart)
  | .continueLoop id label, _, _, known, _ => by
      rw [Record.effects_eq]
      refine rules.map (rules.jump id label) fun _ => ?_
      rintro ⟨start, first⟩
      exact .ofOperation (known start) (.tree (.jump first) .noPart)
  | .delegatingConstructorCall symbol access, _, _, _, parts => by
      rw [Record.effects_eq]
      refine rules.andThen (rules.symbol .constructor symbol) fun _ => ?_
      refine rules.last (parts access ()) fun _ => ?_
      rintro ⟨⟨_, first⟩, second⟩
      exact .ofReplaced (unitType_tally rules)
        (.tree (.symbol first.2) (.part second.marks .noPart))
  | .enumConstructorCall symbol access, _, _, _, parts => by
      rw [Record.effects_eq]
      refine rules.andThen (rules.symbol .constructor symbol) fun _ => ?_
      refine rules.last (parts access ()) fun _ => ?_
      rintro ⟨⟨_, first⟩, second⟩
      exact .ofReplaced (unitType_tally rules)
        (.tree (.symbol first.2) (.part second.marks .noPart))
  | .functionReference symbol typeArguments, _, _, known, parts => by
      rw [Record.effects_eq]
      refine rules.andThen (rules.symbol .callee symbol) fun _ => ?_
      refine rules.last (parts typeArguments ()) fun _ => ?_
      rintro ⟨⟨start, first⟩, second⟩
      exact .ofOperation (known start) (.tree (.symbol first.2) (.part second.marks .noPart))
  | .getClass argument, _, _, known, parts => by
      rw [Record.effects_eq]
      refine rules.last (parts argument ()) fun _ => ?_
      rintro ⟨start, first⟩
      exact .ofOperation (known start) (.tree .nil (.part first.marks .noPart))
  | .getEnumValue own symbol, _, _, _, parts => by
      rw [Record.effects_eq]
      refine rules.andThen (parts own ()) fun _ => ?_
      refine rules.last (rules.symbol .enumValue symbol) fun _ => ?_
      rintro ⟨⟨_, first⟩, second⟩
      exact .ofReplaced first.marks (.tree (.symbol second.2) .noPart)
  | .getField (.fieldAccessNode symbol qualifier receiver) own, _, _, _, parts => by
      rw [Record.effects_eq]
      refine rules.andThen (rules.symbol .accessedField symbol) fun _ => ?_
      refine rules.andThen (parts own ()) fun _ => ?_
      refine rules.unseen (Item.effects_uses _ _) (rules.symbol? .superClass qualifier)
        fun _ => ?_
      refine rules.last (parts receiver ()) fun _ => ?_
      rintro ⟨⟨⟨⟨_, first⟩, second⟩, third⟩, fourth⟩
      exact .ofReplaced second.marks (.tree .nil (.part (.tree
        ((Tally.symbol first.2).append third) (.part fourth.marks .noPart)) .noPart))
  | .getObject symbol, _, _, known, _ => by
      rw [Record.effects_eq]
      refine rules.last (rules.symbol .objectClass symbol) fun _ => ?_
      rintro ⟨start, first⟩
      exact .ofOperation (known start) (.tree (.symbol first.2) .noPart)
  | .getValue symbol own, _, _, _, parts => by
      rw [Record.effects_eq]
      refine rules.andThen (rules.symbol .value symbol) fun _ => ?_
      refine rules.last (parts own ()) fun _ => ?_
      rintro ⟨⟨_, first⟩, second⟩
      exact .ofReplaced second.marks (.tree (.symbol first.2) .noPart)
  | .instanceInitializerCall symbol, _, _, _, _ => by
      rw [Record.effects_eq]
      refine rules.last (rules.symbol .objectClass symbol) fun _ => ?_
      rintro ⟨_, first⟩
      exact .ofReplaced (unitType_tally rules) (.tree (.symbol first.2) .noPart)
  | .propertyReference field getter setter typeArguments, _, _, known, parts => by
      rw [Record.effects_eq]
      refine rules.unseen (Item.effects_uses _ _) (rules.symbol? .accessedField field)
        fun _ => ?_
      refine rules.unseen (Item.effects_uses _ _) (rules.symbol? .accessor getter)
        fun _ => ?_
      refine rules.unseen (Item.effects_uses _ _) (rules.symbol? .accessor setter)
        fun _ => ?_
      refine rules.last (parts typeArguments ()) fun _ => ?_
      rintro ⟨⟨⟨⟨start, first⟩, second⟩, third⟩, fourth⟩
      exact .ofOperation (known start) (.tree ((first.append second).append third)
        (.part fourth.marks .noPart))
  | .returnFrom target value, _, _, _, parts => by
      rw [Record.effects_eq]
      refine rules.andThen (rules.symbol .returnTarget target) fun _ => ?_
      refine rules.last (parts value ()) fun _ => ?_
      rintro ⟨⟨_, first⟩, second⟩
      exact .ofReplaced (nothingType_tally rules)
        (.tree (.symbol first.2) (.part second.marks .noPart))
  | .setField access value, _, _, _, parts => by
      rw [Record.effects_eq]
      refine rules.andThen (parts access ()) fun _ => ?_
      refine rules.last (parts value ()) fun _ => ?_
      rintro ⟨⟨_, first⟩, second⟩
      exact .ofReplaced (unitType_tally rules)
        (.tree .nil (.part first.marks (.part second.marks .noPart)))
  | .setVariable symbol value, _, _, _, parts => by
      rw [Record.effects_eq]
      refine rules.andThen (rules.symbol .assignedVariable symbol) fun _ => ?_
      refine rules.last (parts value ()) fun _ => ?_
      rintro ⟨⟨_, first⟩, second⟩
      exact .ofReplaced (unitType_tally rules)
        (.tree (.symbol first.2) (.part second.marks .noPart))
  | .stringConcat arguments, _, _, known, parts => by
      rw [Record.effects_eq]
      refine rules.last (parts arguments ()) fun _ => ?_
      rintro ⟨start, first⟩
      exact .ofOperation (known start) (.tree .nil (.part first.marks .noPart))
  | .throwValue value, _, _, _, parts => by
      rw [Record.effects_eq]
      refine rules.last (parts value ()) fun _ => ?_
      rintro ⟨_, first⟩
      exact .ofReplaced (nothingType_tally rules)
        (.tree .nil (.part first.marks .noPart))
  | .tryCatch result catches finalizer, _, _, known, parts => by
      rw [Record.effects_eq]
      refine rules.andThen (parts result ()) fun _ => ?_
      refine rules.andThen (parts catches ()) fun _ => ?_
      refine rules.last (parts finalizer ()) fun _ => ?_
      rintro ⟨⟨⟨start, first⟩, second⟩, third⟩
      exact .ofOperation (known start) (.tree .nil
        (.part first.marks (.part second.marks (.part third.marks .noPart))))
  | .typeOperation _ operand argument, _, _, known, parts => by
      rw [Record.effects_eq]
      refine rules.andThen (parts operand ()) fun operand => ?_
      refine rules.unseen (Record.effects_operandCheck _) (rules.operandClassifier operand)
        fun _ => ?_
      refine rules.last (parts argument ()) fun _ => ?_
      rintro ⟨⟨⟨start, first⟩, second⟩, third⟩
      have classifier := first.marks.holds _ (classifier_marked second)
      exact .ofOperation (known start) (.tree (.symbol classifier)
        (.part first.marks (.part third.marks .noPart)))
  | .vararg elementType elements, _, _, known, parts => by
      rw [Record.effects_eq]
      refine rules.andThen (parts elementType ()) fun _ => ?_
      refine rules.last (parts elements ()) fun _ => ?_
      rintro ⟨⟨start, first⟩, second⟩
      exact .ofOperation (known start) (.tree .nil (.part first.marks (.part second.marks .noPart)))
  | .when branches, _, _, known, parts => by
      rw [Record.effects_eq]
      refine rules.last (parts branches ()) fun _ => ?_
      rintro ⟨start, first⟩
      exact .ofOperation (known start) (.tree .nil (.part first.marks .noPart))
  | .loop kind id label condition body, range, type, known, parts => by
      rw [Record.effects_eq, build_loop]
      have inside : Ensures given (do
            let body ← build body ()
            let condition ← build condition ()
            return ⟨label, body, condition⟩ : Decode LoopContents)
          ([Item.part body, .part condition].flatMap Item.effects) fun contents =>
            contents.label = label ∧
            Tally holds counted contents.body.allMarks (body.kept counted) ∧
              Tally holds counted contents.condition.allMarks (condition.kept counted) := by
        refine rules.andThen (parts body ()) fun _ => ?_
        refine rules.last (parts condition ()) fun _ => ?_
        rintro ⟨⟨_, first⟩, second⟩
        exact ⟨rfl, first.marks, second.marks⟩
      refine rules.map (rules.loop { id, kind, range, type } rfl inside) fun filled => ?_
      rcases filled with ⟨node, contents⟩
      rintro ⟨start, ⟨rfl, body, condition⟩, marked⟩
      exact .ofOperation (known start)
        (.tree .nil (.part body (.part condition .noPart))) (.loop marked)

/-! ## All records -/

/-- Linking a record goes by rules if linking its parts does. -/
theorem layer_tallied (rules : Rules holds counted Ensures) {c : Category}
    (record : Record c) (context : Context c) (known : given → context.Holds holds)
    (parts : TalliedBelow holds counted Ensures (sizeOf record)) :
    Ensures given (build record context) record.effects (Tallied holds counted record context) := by
  cases c with
  | list item =>
      cases record with
      | nil =>
          rw [Record.effects_eq]
          refine rules.pure fun _ => ⟨rfl, ?_⟩
          have inside : Tally holds counted (Tree.nil (c := item.built)).allMarks _ :=
            .tree .nil .noPart
          rw [Tree.items_nil, Record.kept_eq _ counted rfl, Record.added]
          exact inside.cast (by simp [Record.layout, Record.toList])
      | cons head tail =>
          rw [Record.effects_eq]
          refine rules.andThen (parts head context known) fun headTree => ?_
          refine rules.last (parts tail context fun facts => known facts.1)
            fun tailTree => ?_
          rintro ⟨⟨_, first⟩, second⟩
          refine ⟨rfl, ?_⟩
          rcases first.tally.split with ⟨_, _, headOwn, headInner, headSame⟩
          rcases second.tally.split with ⟨_, _, tailOwn, tailInner, tailSame⟩
          have inside : Tally holds counted (headTree.cons tailTree).allMarks _ :=
            .tree .nil (.part headInner (.part tailInner .noPart))
          rw [Tree.items_cons, List.map_append]
          refine ((headOwn.append tailOwn).append inside).cast ?_
          rw [Record.kept_eq _ counted rfl, Record.added, Record.toList, List.map_cons,
            List.sum_cons, ← Record.added]
          simp [Record.layout]
          omega
  | option =>
      cases record with
      | none =>
          rw [Record.effects_eq]
          refine rules.pure fun _ => ⟨rfl, ?_⟩
          rw [Record.kept_eq _ counted rfl]
          exact .nil
      | some value =>
          rw [Record.effects_eq]
          refine rules.last (parts value context known) fun tree => ?_
          rintro ⟨_, first⟩
          refine ⟨rfl, ?_⟩
          rcases first.tally.split with ⟨_, _, own, inner, same⟩
          have inside : Tally holds counted tree.some.allMarks _ :=
            .tree .nil (.part inner .noPart)
          rw [Tree.items_some]
          refine (own.append inside).cast ?_
          rw [Record.kept_eq _ counted rfl, Record.added, Record.toOption, Option.toList_some,
            List.map_singleton, List.sum_singleton]
          simp [Record.layout]
          omega
  | type => exact type_tallied rules record context @parts
  | typeArgument =>
      cases record with
      | unsetArgument => exact rules.refuse _ _ _
      | starArgument =>
          rw [Record.effects_eq]
          exact rules.pure fun _ => .ofMarks rfl (.tree .nil .noPart)
      | projection _ type =>
          rw [Record.effects_eq]
          refine rules.last (parts type ()) fun _ => ?_
          rintro ⟨_, first⟩
          exact .ofMarks rfl (.tree .nil (.part first.marks .noPart))
  | call =>
      cases record with
      | callNode symbol qualifier _ access =>
          rw [Record.effects_eq]
          refine rules.andThen (rules.symbol .callee symbol) fun _ => ?_
          refine rules.unseen (Item.effects_uses _ _) (rules.symbol? .superClass qualifier)
            fun _ => ?_
          refine rules.last (parts access ()) fun _ => ?_
          rintro ⟨⟨⟨_, first⟩, second⟩, third⟩
          exact .ofMarks rfl (.tree ((Tally.symbol first.2).append second)
            (.part third.marks .noPart))
  | access =>
      cases record with
      | accessNode dispatchReceiver extensionReceiver valueArguments typeArguments =>
          rw [Record.effects_eq]
          refine rules.andThen (parts valueArguments ()) fun _ => ?_
          refine rules.andThen (parts typeArguments ()) fun _ => ?_
          refine rules.andThen (parts dispatchReceiver ()) fun _ => ?_
          refine rules.last (parts extensionReceiver ()) fun _ => ?_
          rintro ⟨⟨⟨⟨_, first⟩, second⟩, third⟩, fourth⟩
          exact .ofMarks rfl (.tree .nil (.part first.marks (.part second.marks
            (.part third.marks (.part fourth.marks .noPart)))))
  | fieldAccess =>
      cases record with
      | fieldAccessNode symbol qualifier receiver =>
          rw [Record.effects_eq]
          refine rules.andThen (rules.symbol .accessedField symbol) fun _ => ?_
          refine rules.unseen (Item.effects_uses _ _) (rules.symbol? .superClass qualifier)
            fun _ => ?_
          refine rules.last (parts receiver ()) fun _ => ?_
          rintro ⟨⟨⟨_, first⟩, second⟩, third⟩
          exact .ofMarks rfl (.tree ((Tally.symbol first.2).append second)
            (.part third.marks .noPart))
  | expression =>
      cases record with
      | expressionNode range type operation =>
          rw [Record.effects_eq]
          refine rules.descend ?_
          refine rules.andThen (parts type ()) fun tree => ?_
          refine rules.only (parts (c := .operation) operation (range, tree)
            fun facts => facts.2.marks.holds) fun _ => ?_
          rintro ⟨⟨_, first⟩, second⟩
          refine ⟨rfl, second.tally.cast ?_⟩
          rw [Record.added]
          cases replaces : operation.replacesType with
          | true =>
              rw [Record.kept_eq_of_replaced counted replaces]
              rfl
          | false =>
              rw [Record.kept_eq_of_keeps counted replaces, ← first.marks.number]
              exact Nat.add_comm _ _
  | operation =>
      rcases context with ⟨range, type⟩
      exact operation_tallied rules record range type known @parts
  | varargElement =>
      cases record with
      | unsetElement => exact rules.refuse _ _ _
      | plainElement expression =>
          rw [Record.effects_eq]
          refine rules.last (parts expression ()) fun _ => ?_
          rintro ⟨_, first⟩
          exact .ofMarks rfl (.tree .nil (.part first.marks .noPart))
      | spreadElement _ expression =>
          rw [Record.effects_eq]
          refine rules.last (parts expression ()) fun _ => ?_
          rintro ⟨_, first⟩
          exact .ofMarks rfl (.tree .nil (.part first.marks .noPart))
  | statement => exact statement_tallied rules record context @parts
  | branch => exact branch_tallied rules record context @parts
  | catchClause => exact catchClause_tallied rules record context @parts
  | body => exact body_tallied rules record context @parts
  | declaration =>
      cases record with
      | declarationNode range origin annotations file declarator =>
          rw [build_declarationNode, Record.effects_eq]
          refine rules.descend ?_
          refine rules.unseen (Record.effects_originCheck _) (rules.originNamed origin)
            fun origin => ?_
          have steps : (Item.part declarator :: .part annotations ::
                Item.steps (Record.declareStep declarator.declaredSymbol?)).flatMap
                  Item.effects =
              [.part declarator, .part annotations].flatMap Item.effects ++
                Record.declareStep declarator.declaredSymbol? := by
            simp [Record.effects_declareStep]
          rw [steps]
          have made (node : Nat) : Ensures (given ∧ True) (do
                let declarator ← build declarator ⟨node, range, origin⟩
                let annotations ← build annotations ()
                return (declarator, annotations))
              ([Item.part declarator, .part annotations].flatMap Item.effects)
              (PartsTallied holds counted declarator.declaredSymbol?
                (declarator.kept counted) (annotations.kept counted)) := by
            refine rules.andThen (parts declarator ⟨node, range, origin⟩) fun _ => ?_
            refine rules.last (parts annotations ()) fun _ => ?_
            rintro ⟨⟨_, first⟩, second⟩
            exact ⟨⟨first.marks.holds, second.marks.holds, first.own⟩, first.marks, second.marks⟩
          refine rules.weaken (rules.declaration range origin context declarator.declaredSymbol?
            (fun _ made => made.declares) made) fun _ => ?_
          rintro ⟨_, node, made, rfl, facts, known⟩
          refine ⟨rfl, (facts.declares.tally known (.tree .nil (.part facts.declarator
            (.part facts.annotations .noPart)))).cast ?_⟩
          rw [(Record.declarationNode range _ annotations file declarator).kept_eq counted rfl]
          simp +arith [Record.layout, Record.added]
  | declarator => exact declarator_tallied rules record context @parts
  | signature =>
      cases record with
      | signatureNode returnType body valueParameters dispatchReceiver extensionReceiver
          typeParameters =>
          rw [Record.effects_eq]
          refine rules.andThen (parts returnType ()) fun _ => ?_
          refine rules.andThen (parts body ()) fun _ => ?_
          refine rules.andThen (parts valueParameters context) fun _ => ?_
          refine rules.andThen (parts dispatchReceiver context) fun _ => ?_
          refine rules.andThen (parts extensionReceiver context) fun _ => ?_
          refine rules.last (parts typeParameters context) fun _ => ?_
          rintro ⟨⟨⟨⟨⟨⟨_, first⟩, second⟩, third⟩, fourth⟩, fifth⟩, sixth⟩
          exact .ofMarks rfl (.tree .nil (.part first.marks (.part second.marks
            (.part third.marks (.part fourth.marks (.part fifth.marks
              (.part sixth.marks .noPart)))))))
  | function =>
      cases record with
      | functionNode symbol _ signature _ _ _ overridden =>
          rcases context with ⟨site, _⟩
          rw [Record.effects_eq]
          refine rules.andThen (rules.symbol .declaredFunction symbol) fun _ => ?_
          refine rules.andThen (parts signature site) fun _ => ?_
          rw [Item.effects_uses]
          refine rules.map (rules.symbols .overriddenFunction overridden) fun _ => ?_
          rintro ⟨⟨⟨_, first⟩, second⟩, third⟩
          exact .ofMarks first.1 (.tree ((Tally.symbol first.2).append (.symbols third))
            (.part second.marks .noPart))
  | field =>
      cases record with
      | fieldNode symbol _ type _ _ initializer =>
          rw [Record.effects_eq]
          refine rules.andThen (rules.symbol .declaredField symbol) fun _ => ?_
          refine rules.andThen (parts type ()) fun _ => ?_
          refine rules.last (parts initializer ()) fun _ => ?_
          rintro ⟨⟨⟨_, first⟩, second⟩, third⟩
          exact .ofMarks first.1 (.tree (.symbol first.2)
            (.part second.marks (.part third.marks .noPart)))
  | accessor =>
      cases record with
      | asAccessor function =>
          rw [build_asAccessor, Record.effects_eq]
          refine rules.andThen (parts (c := .function) function (context, some context.node))
            fun declarator => ?_
          rw [Record.effects_declareStep]
          have annotations : Tally holds counted (Tree.nil (c := .call)).allMarks _ :=
            .tree .nil .noPart
          have made (_ : Nat) : Ensures (given ∧ Tallied holds counted function
                (context, some context.node) declarator)
              (Pure.pure (declarator, (Tree.nil : Tree (.list .call)))) []
              (PartsTallied holds counted (some function.functionSymbol)
                (function.kept counted) 0) := by
            refine rules.pure ?_
            rintro ⟨_, first⟩
            exact ⟨⟨first.marks.holds, annotations.holds, first.own⟩, first.marks, annotations⟩
          refine rules.weaken (rules.declaration context.range context.origin _
            (some function.functionSymbol) (fun _ made => made.declares) made) fun _ => ?_
          rintro ⟨_, node, made, rfl, facts, known⟩
          refine ⟨rfl, (facts.declares.tally known (.tree .nil (.part facts.declarator
            (.part facts.annotations .noPart)))).cast ?_⟩
          rw [(Record.asAccessor function).kept_eq counted rfl]
          simp +arith [Record.layout, Record.added]
  | backingField =>
      cases record with
      | asBackingField field =>
          rw [Record.effects_eq]
          refine rules.andThen (parts (c := .field) field ()) fun declarator => ?_
          refine rules.weaken (rules.child context declarator) fun tree => ?_
          rintro ⟨⟨_, first⟩, ⟨node, rfl⟩, known⟩
          refine ⟨rfl, ?_⟩
          have annotations : Tally holds counted (Tree.nil (c := .call)).allMarks _ :=
            .tree .nil .noPart
          have inside : Tally holds counted (Tree.declarationNode node context.range
              context.origin (.declaration context.node) declarator .nil).allMarks _ :=
            .tree .nil (.part first.marks (.part annotations .noPart))
          refine ((Tally.backingField known).append inside).cast ?_
          rw [(Record.asBackingField field).kept_eq counted rfl]
          simp +arith [Record.layout, Record.added]
  | valueParameter =>
      cases record with
      | valueParameterNode symbol _ _ type varargElementType _ _ defaultValue =>
          rw [Record.effects_eq]
          refine rules.andThen (parts varargElementType ()) fun _ => ?_
          refine rules.andThen (rules.symbol .declaredValueParameter symbol) fun _ => ?_
          refine rules.andThen (parts type ()) fun _ => ?_
          refine rules.last (parts defaultValue ()) fun _ => ?_
          rintro ⟨⟨⟨⟨_, first⟩, second⟩, third⟩, fourth⟩
          exact .ofMarks rfl (.tree (.symbol second.2)
            (.part third.marks (.part first.marks (.part fourth.marks .noPart))))
  | typeParameter =>
      cases record with
      | typeParameterNode symbol _ _ _ superTypes =>
          rw [Record.effects_eq]
          refine rules.andThen (rules.symbol .declaredTypeParameter symbol) fun _ => ?_
          refine rules.last (parts superTypes ()) fun _ => ?_
          rintro ⟨⟨_, first⟩, second⟩
          exact .ofMarks rfl (.tree (.symbol first.2) (.part second.marks .noPart))

/-- Linking a record has its effects, and gives a tree of which all marks are
known and which keeps the declarations of the record. -/
theorem build_tallied (rules : Rules holds counted Ensures) {c : Category}
    (record : Record c) (context : Context c) (known : given → context.Holds holds) :
    Ensures given (build record context) record.effects
      (Tallied holds counted record context) := by
  induction record using Record.size_induction generalizing given with
  | node record inductionHypothesis =>
      exact layer_tallied rules record context known fun inner context _ known smaller =>
        inductionHypothesis inner smaller context known

end Decode

end IrLink
