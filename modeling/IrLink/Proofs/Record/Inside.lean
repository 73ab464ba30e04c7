import IrLink.Proofs.Record.Announced

/-!
# What is inside a record

`Record.parts` lists the records of which a record consists, in the order of its fields,
and `Record.Inside` are all records that occur in it, however deep.  Linking goes through
a record in another order and unwraps some of its parts, but it comes to exactly what is
inside: the symbols of all records there are linked, their loops begun, and their
declarations made known (`Record.names_iff`, `Record.begins_iff`, `Record.declares_iff`).
-/

namespace IrLink

/-- A record of any category. -/
structure RecordNode where
  {category : Category}
  record : Record category

namespace Record

variable {c d e : Category}

/-- The records of which a record consists. -/
def parts : {c : Category} → Record c → List RecordNode
  | _, cons head tail => [⟨head⟩, ⟨tail⟩]
  | _, some value => [⟨value⟩]
  -- Types
  | _, simpleType annotations _ _ _ arguments => [⟨annotations⟩, ⟨arguments⟩]
  | _, dynamicType annotations _ => [⟨annotations⟩]
  | _, errorType annotations _ => [⟨annotations⟩]
  | _, projection _ type => [⟨type⟩]
  -- Calls and accesses
  | _, callNode _ _ _ access => [⟨access⟩]
  | _, accessNode dispatchReceiver extensionReceiver valueArguments typeArguments =>
      [⟨dispatchReceiver⟩, ⟨extensionReceiver⟩, ⟨valueArguments⟩, ⟨typeArguments⟩]
  | _, fieldAccessNode _ _ receiver => [⟨receiver⟩]
  -- Expressions
  | _, expressionNode _ type operation => [⟨type⟩, ⟨operation⟩]
  | _, block statements _ => [⟨statements⟩]
  | _, callOperation call => [⟨call⟩]
  | _, classReference _ type => [⟨type⟩]
  | _, composite statements => [⟨statements⟩]
  | _, delegatingConstructorCall _ access => [⟨access⟩]
  | _, enumConstructorCall _ access => [⟨access⟩]
  | _, functionReference _ typeArguments => [⟨typeArguments⟩]
  | _, getClass argument => [⟨argument⟩]
  | _, getEnumValue type _ => [⟨type⟩]
  | _, getField access type => [⟨access⟩, ⟨type⟩]
  | _, getValue _ type => [⟨type⟩]
  | _, propertyReference _ _ _ typeArguments => [⟨typeArguments⟩]
  | _, returnFrom _ value => [⟨value⟩]
  | _, setField access value => [⟨access⟩, ⟨value⟩]
  | _, setVariable _ value => [⟨value⟩]
  | _, stringConcat arguments => [⟨arguments⟩]
  | _, throwValue value => [⟨value⟩]
  | _, tryCatch result catches finalizer => [⟨result⟩, ⟨catches⟩, ⟨finalizer⟩]
  | _, typeOperation _ operand argument => [⟨operand⟩, ⟨argument⟩]
  | _, vararg elementType elements => [⟨elementType⟩, ⟨elements⟩]
  | _, when branches => [⟨branches⟩]
  | _, loop _ _ _ condition body => [⟨condition⟩, ⟨body⟩]
  | _, plainElement expression => [⟨expression⟩]
  | _, spreadElement _ expression => [⟨expression⟩]
  -- Statements
  | _, blockBody _ statements => [⟨statements⟩]
  | _, branchStatement _ condition result => [⟨condition⟩, ⟨result⟩]
  | _, catchStatement _ parameter result => [⟨parameter⟩, ⟨result⟩]
  | _, declarationStatement _ declaration => [⟨declaration⟩]
  | _, expressionStatement _ expression => [⟨expression⟩]
  | _, asBranch statement => [⟨statement⟩]
  | _, asCatch statement => [⟨statement⟩]
  | _, asBody statement => [⟨statement⟩]
  -- Declarations
  | _, declarationNode _ _ annotations _ declarator => [⟨annotations⟩, ⟨declarator⟩]
  | _, anonymousInitializer _ statements => [⟨statements⟩]
  | _, classDeclarator _ _ _ _ _ _ members thisReceiver typeParameters superTypes =>
      [⟨members⟩, ⟨thisReceiver⟩, ⟨typeParameters⟩, ⟨superTypes⟩]
  | _, constructorDeclarator _ _ signature _ => [⟨signature⟩]
  | _, enumEntry _ _ entryClass initializer => [⟨entryClass⟩, ⟨initializer⟩]
  | _, fieldDeclarator field => [⟨field⟩]
  | _, functionDeclarator function => [⟨function⟩]
  | _, property _ _ _ _ backingField getter setter => [⟨backingField⟩, ⟨getter⟩, ⟨setter⟩]
  | _, variableDeclarator _ _ type _ initializer => [⟨type⟩, ⟨initializer⟩]
  | _, signatureNode returnType body valueParameters dispatchReceiver extensionReceiver
      typeParameters =>
      [⟨returnType⟩, ⟨body⟩, ⟨valueParameters⟩, ⟨dispatchReceiver⟩, ⟨extensionReceiver⟩,
        ⟨typeParameters⟩]
  | _, functionNode _ _ signature _ _ _ _ => [⟨signature⟩]
  | _, fieldNode _ _ type _ _ initializer => [⟨type⟩, ⟨initializer⟩]
  | _, asAccessor function => [⟨function⟩]
  | _, asBackingField field => [⟨field⟩]
  | _, valueParameterNode _ _ _ type varargElementType _ _ defaultValue =>
      [⟨type⟩, ⟨varargElementType⟩, ⟨defaultValue⟩]
  | _, typeParameterNode _ _ _ _ superTypes => [⟨superTypes⟩]
  | _, _ => []

/-- A record is another one or occurs in it, however deep. -/
inductive Inside : {d c : Category} → Record d → Record c → Prop
  | self {c : Category} (record : Record c) : Inside record record
  | part {d c : Category} {inner : Record d} {record : Record c} {part : RecordNode}
      (among : part ∈ record.parts) (inside : Inside inner part.record) : Inside inner record

theorem Inside.trans {inner : Record e} {middle : Record d} {record : Record c}
    (first : inner.Inside middle) (second : middle.Inside record) : inner.Inside record := by
  induction second with
  | self => exact first
  | part among _ inductionHypothesis => exact .part among (inductionHypothesis first)

/-- What holds of a record if it holds of its parts holds of every record. -/
theorem parts_induction {P : {c : Category} → Record c → Prop}
    (node : ∀ {c : Category} (record : Record c),
      (∀ part ∈ record.parts, P part.record) → P record) (record : Record c) : P record := by
  induction record
  all_goals
    refine node _ ?_
    repeat refine List.forall_mem_cons.mpr ⟨by assumption, ?_⟩
    exact List.forall_mem_nil _

/-- The symbols that a record names itself. -/
def ownSymbols : {c : Category} → Record c → List SymbolRecord
  | _, simpleType _ _ classifier _ _ => [classifier]
  | _, callNode symbol qualifier _ _ => symbol :: qualifier.toList
  | _, fieldAccessNode symbol qualifier _ => symbol :: qualifier.toList
  | _, classReference symbol _ => [symbol]
  | _, delegatingConstructorCall symbol _ => [symbol]
  | _, enumConstructorCall symbol _ => [symbol]
  | _, functionReference symbol _ => [symbol]
  | _, getEnumValue _ symbol => [symbol]
  | _, getObject symbol => [symbol]
  | _, getValue symbol _ => [symbol]
  | _, instanceInitializerCall symbol => [symbol]
  | _, propertyReference field getter setter _ =>
      field.toList ++ getter.toList ++ setter.toList
  | _, returnFrom target _ => [target]
  | _, setVariable symbol _ => [symbol]
  | _, anonymousInitializer symbol _ => [symbol]
  | _, classDeclarator symbol .. => [symbol]
  | _, constructorDeclarator symbol .. => [symbol]
  | _, enumEntry symbol .. => [symbol]
  | _, variableDeclarator symbol .. => [symbol]
  | _, functionNode symbol _ _ _ _ _ overridden => symbol :: overridden
  | _, fieldNode symbol .. => [symbol]
  | _, valueParameterNode symbol .. => [symbol]
  | _, typeParameterNode symbol .. => [symbol]
  | _, _ => []

/-- The loop that a record is. -/
def ownLoop? : {c : Category} → Record c → Option Int32
  | _, loop _ id .. => .some id
  | _, _ => .none

/-- The symbol of the declaration that a record is, unless it stores a property. -/
def ownDeclared? : {c : Category} → Record c → Option SymbolRecord
  | _, declarationNode _ _ _ _ declarator => declarator.declaredSymbol?
  | _, asAccessor function => .some function.functionSymbol
  | _, _ => .none

end Record

/-! ## What linking comes to -/

/-- Every part among the items of a record is inside it. -/
def Item.Within {c : Category} (record : Record c) : Item → Prop
  | .step _ => True
  | .part inner => inner.Inside record

namespace Record

variable {c d : Category}

@[simp]
theorem within_step (record : Record c) (step : LinkStep) : (Item.step step).Within record :=
  trivial

@[simp]
theorem within_use (record : Record c) (requirement : Requirement) (symbol : SymbolRecord) :
    (Item.use requirement symbol).Within record :=
  trivial

@[simp]
theorem within_refuse (record : Record c) (what : Unsupported) :
    (Item.refuse what).Within record :=
  trivial

@[simp]
theorem within_part {record : Record c} {part : Record d} :
    (Item.part part).Within record ↔ part.Inside record :=
  Iff.rfl

/-- What a record consists of is inside it. -/
theorem inside_of_parts {record : Record c} {part : Record d} (place : Nat)
    (there : record.parts[place]? = .some ⟨part⟩) : part.Inside record :=
  .part (List.mem_of_getElem? there) (.self part)

/-- Linking comes to no part but those inside a record. -/
theorem within_of_mem_layout (record : Record c) :
    ∀ item ∈ record.layout, item.Within record := by
  cases record
  case asBranch statement | asCatch statement | asBody statement =>
    cases statement <;> simp [layout]
    all_goals exact inside_of_parts 0 rfl
  case getField access type =>
    cases access with
    | fieldAccessNode symbol qualifier receiver =>
        -- Linking unwraps the access.
        have unwrapped : receiver.Inside (fieldAccessNode symbol qualifier receiver) :=
          inside_of_parts 0 rfl
        have inside : receiver.Inside (getField (fieldAccessNode symbol qualifier receiver) type) :=
          unwrapped.trans (inside_of_parts 0 rfl)
        simp [layout, or_imp, forall_and, Item.uses, Item.steps, inside]
        exact inside_of_parts 1 rfl
  all_goals simp [layout, or_imp, forall_and, Item.uses, Item.steps]
  all_goals repeat' apply And.intro
  all_goals
    first
    | exact inside_of_parts 0 rfl
    | exact inside_of_parts 1 rfl
    | exact inside_of_parts 2 rfl
    | exact inside_of_parts 3 rfl
    | exact inside_of_parts 4 rfl
    | exact inside_of_parts 5 rfl

theorem actions_of_mem_layout {record : Record c} {item : Item} (own : item ∈ record.layout) :
    item.actions ⊆ record.actions := by
  rw [actions_eq]
  exact fun step among => List.mem_flatMap.mpr ⟨item, own, among⟩

/-- What linking does inside a part of a record, it does inside the record. -/
theorem actions_of_mem_parts (record : Record c) :
    ∀ part ∈ record.parts, part.record.actions ⊆ record.actions := by
  have listed {d : Category} (part : Record d) (own : .part part ∈ record.layout) :
      part.actions ⊆ record.actions := by
    have among := actions_of_mem_layout own
    exact among
  cases record
  case asBody statement =>
    cases statement
    case syntheticBody range kind =>
      refine List.forall_mem_singleton.mpr ?_
      rw [actions_eq (syntheticBody range kind)]
      exact List.nil_subset _
    all_goals exact List.forall_mem_singleton.mpr (listed _ (by simp [layout]))
  case asBranch statement | asCatch statement =>
    refine List.forall_mem_singleton.mpr (listed _ ?_)
    cases statement <;> simp [layout]
  case getField access type =>
    cases access with
    | fieldAccessNode symbol qualifier receiver =>
        refine List.forall_mem_cons.mpr
          ⟨?_, List.forall_mem_singleton.mpr (listed _ (by simp [layout]))⟩
        have items : (fieldAccessNode symbol qualifier receiver).layout ⊆
            (getField (fieldAccessNode symbol qualifier receiver) type).layout :=
          List.cons_subset_cons _ (List.subset_cons_self _ _)
        intro step among
        rw [actions_eq] at among
        rcases List.mem_flatMap.mp among with ⟨item, own, isAction⟩
        exact actions_of_mem_layout (items own) isAction
  all_goals
    repeat refine List.forall_mem_cons.mpr ⟨listed _ (by simp [layout]), ?_⟩
    exact List.forall_mem_nil _

/-- Linking a record does what the layouts of the records inside it say. -/
theorem mem_actions_iff {record : Record c} {step : LinkStep} :
    step ∈ record.actions ↔
      ∃ (d : Category) (inner : Record d), inner.Inside record ∧ .step step ∈ inner.layout := by
  constructor
  · induction record using layout_induction with
    | node record parts =>
        intro isAction
        rw [actions_eq] at isAction
        rcases List.mem_flatMap.mp isAction with ⟨item, own, isAction⟩
        cases item with
        | step single =>
            cases List.mem_singleton.mp isAction
            exact ⟨_, record, .self record, own⟩
        | part part =>
            rcases parts part own isAction with ⟨d, inner, inside, own'⟩
            exact ⟨d, inner, inside.trans (within_of_mem_layout record _ own), own'⟩
  · rintro ⟨d, inner, inside, own⟩
    induction inside with
    | self record => exact actions_of_mem_layout own (List.mem_singleton_self step)
    | part among _ inductionHypothesis =>
        exact actions_of_mem_parts _ _ among (inductionHypothesis own)

/-- Apart from the levels, linking a record takes the steps of the records inside it. -/
theorem mem_trace_iff {record : Record c} (step : LinkStep) (depth : Nat)
    (noLevel : ∀ level, step ≠ .enter level) :
    step ∈ record.trace depth ↔
      ∃ (d : Category) (inner : Record d), inner.Inside record ∧ .step step ∈ inner.layout := by
  rw [← mem_actions_iff]
  constructor
  · intro among
    rcases record.mem_actions_of_mem_trace depth step among with ⟨level, isLevel⟩ | isAction
    · exact absurd isLevel (noLevel level)
    · exact isAction
  · exact record.mem_trace_of_mem_actions depth step

/-! ## What records do by themselves -/

/-- The checks of a record do nothing but fail. -/
theorem not_mem_checks (step : LinkStep) (other : ∀ error, step ≠ .fail error) :
    (∀ name, step ∉ originCheck name) ∧ (∀ value, step ∉ constantCheck value) ∧
      (∀ operand, step ∉ operandCheck operand) ∧ (∀ parameter, step ∉ parameterCheck parameter) ∧
      ∀ entryClass, step ∉ entryClassCheck entryClass := by
  refine ⟨fun name => ?_, fun value => ?_, fun operand => ?_, fun parameter => ?_,
    fun entryClass => ?_⟩
  · unfold originCheck
    split <;> simp [other]
  · unfold constantCheck
    split <;> simp [other]
  · cases operand <;> simp [operandCheck, other]
  · unfold parameterCheck
    split <;> simp [other]
  · cases entryClass with
    | none => simp [entryClassCheck]
    | some declaration =>
        rw [entryClassCheck]
        split <;> simp [other]

/-- The symbols that linking a record links by itself are those that the record names itself,
or those of the access in it that linking unwraps. -/
theorem ownSymbols_of_use {record : Record c} {requirement : Requirement} {symbol : SymbolRecord}
    (own : .step (.use requirement symbol) ∈ record.layout) :
    ∃ (d : Category) (inner : Record d), inner.Inside record ∧ symbol ∈ inner.ownSymbols := by
  have unchecked := not_mem_checks (.use requirement symbol) fun _ => nofun
  cases record
  case asBranch statement | asCatch statement | asBody statement =>
    cases statement <;> simp [layout, Item.refuse] at own
  case getField access type =>
    cases access with
    | fieldAccessNode field qualifier receiver =>
        refine ⟨_, fieldAccessNode field qualifier receiver, inside_of_parts 0 rfl, ?_⟩
        simp [layout, Item.use, Item.uses, Item.steps] at own
        exact List.mem_cons.mpr (own.imp (·.2) fun found => Option.mem_toList.mpr found.1)
  all_goals
    refine ⟨_, _, .self _, ?_⟩
    simp [layout, Item.use, Item.uses, Item.steps, Item.refuse, declareStep, unchecked] at own
  all_goals simp [ownSymbols]
  all_goals grind

/-- Linking a record links the symbols that it names itself. -/
theorem use_of_ownSymbols {record : Record c} {symbol : SymbolRecord}
    (own : symbol ∈ record.ownSymbols) :
    ∃ requirement, .step (.use requirement symbol) ∈ record.layout := by
  cases record
  all_goals simp [ownSymbols] at own
  all_goals simp [layout, Item.use, Item.uses, Item.steps]
  all_goals grind

/-- Linking a record begins a loop by itself if the record is that loop. -/
theorem mem_layout_beginLoop_iff {record : Record c} {id : Int32} :
    .step (.beginLoop id) ∈ record.layout ↔ record.ownLoop? = .some id := by
  have unchecked := not_mem_checks (.beginLoop id) fun _ => nofun
  cases record
  case asBranch statement | asCatch statement | asBody statement =>
    cases statement <;> simp [layout, Item.refuse, ownLoop?]
  case getField access type =>
    cases access
    simp [layout, Item.use, Item.uses, Item.steps, ownLoop?]
  all_goals
    simp [layout, Item.use, Item.uses, Item.steps, Item.refuse, declareStep, ownLoop?, unchecked,
      eq_comm]

/-- Linking a record makes a declaration known by itself if the record is that declaration. -/
theorem mem_layout_declare_iff {record : Record c} {id : UInt64} :
    .step (.declare id) ∈ record.layout ↔
      ∃ symbol, record.ownDeclared? = .some symbol ∧ symbol.uniqueId.index = id := by
  have unchecked := not_mem_checks (.declare id) fun _ => nofun
  cases record
  case asBranch statement | asCatch statement | asBody statement =>
    cases statement <;> simp [layout, Item.refuse, ownDeclared?]
  case getField access type =>
    cases access
    simp [layout, Item.use, Item.uses, Item.steps, ownDeclared?]
  all_goals
    simp [layout, Item.use, Item.uses, Item.steps, Item.refuse, declareStep, ownDeclared?,
      unchecked]
  all_goals exact eq_comm

/-! ## What a record names -/

/-- A record names a symbol if a record inside it does. -/
def Names (record : Record c) (id : UInt64) : Prop :=
  ∃ (d : Category) (inner : Record d), inner.Inside record ∧
    ∃ symbol ∈ inner.ownSymbols, symbol.uniqueId.index = id

/-- A record begins a loop if a record inside it is that loop. -/
def Begins (record : Record c) (id : Int32) : Prop :=
  ∃ (d : Category) (inner : Record d), inner.Inside record ∧ inner.ownLoop? = .some id

/-- A record declares what a record inside it declares. -/
def Declares (record : Record c) (symbol : SymbolRecord) : Prop :=
  ∃ (d : Category) (inner : Record d), inner.Inside record ∧ inner.ownDeclared? = .some symbol

/-- The symbols that a record names are those that linking it links. -/
theorem names_iff {record : Record c} (depth : Nat) {id : UInt64} :
    record.Names id ↔ Uses (record.trace depth) id := by
  constructor
  · intro names
    rcases names with ⟨d, inner, inside, symbol, own, rfl⟩
    rcases use_of_ownSymbols own with ⟨requirement, own⟩
    exact ⟨requirement, symbol, (mem_trace_iff _ depth (by simp)).mpr ⟨d, inner, inside, own⟩, rfl⟩
  · rintro ⟨requirement, symbol, among, rfl⟩
    rcases (mem_trace_iff _ depth (by simp)).mp among with ⟨d, middle, outside, own⟩
    rcases ownSymbols_of_use own with ⟨e, inner, inside, own⟩
    exact ⟨e, inner, inside.trans outside, symbol, own, rfl⟩

/-- The loops that a record begins are those that linking it begins. -/
theorem begins_iff {record : Record c} (depth : Nat) {id : Int32} :
    record.Begins id ↔ .beginLoop id ∈ record.trace depth := by
  rw [mem_trace_iff (.beginLoop id) depth fun _ => nofun]
  simp only [mem_layout_beginLoop_iff, Begins]

/-- The symbols of what a record declares are those of what linking it makes known. -/
theorem declares_iff {record : Record c} (depth : Nat) {id : UInt64} :
    (∃ symbol, record.Declares symbol ∧ symbol.uniqueId.index = id) ↔
      .declare id ∈ record.trace depth := by
  rw [mem_trace_iff (.declare id) depth fun _ => nofun]
  simp only [mem_layout_declare_iff, Declares]
  constructor
  · rintro ⟨symbol, ⟨d, inner, inside, own⟩, same⟩
    exact ⟨d, inner, inside, symbol, own, same⟩
  · rintro ⟨d, inner, inside, symbol, own, same⟩
    exact ⟨symbol, ⟨d, inner, inside, own⟩, same⟩

/-- What a record declares has a symbol that the record names. -/
theorem names_of_declares {record : Record c} {symbol : SymbolRecord}
    (declares : record.Declares symbol) : record.Names symbol.uniqueId.index := by
  have among : .declare symbol.uniqueId.index ∈ record.trace 0 :=
    (declares_iff 0).mp ⟨symbol, declares, rfl⟩
  rcases List.append_of_mem among with ⟨before, after, parted⟩
  have uses := record.announced_trace 0 before symbol.uniqueId.index after parted
  exact (names_iff 0).mpr (uses.mono (parted ▸ List.subset_append_left before _))

end Record

end IrLink
