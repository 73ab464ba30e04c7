import IrLink.Proofs.Record.Effects
import IrLink.Proofs.Tree.Marks
import IrLink.Decode.Build

/-!
# Rules for computations of the decoder

Several things are said of every computation of the decoder: what it leaves of a
session, which loops it begins, what it does where kinds are checked and where
they are not.  They are proved in the same way, one rule for each thing that the
decoder can do and one for sequences; `Rules` lists these rules for an arbitrary
statement about a computation, the effects of its steps and its result.

The results that the rules speak of are marks of trees: `holds` says what is
known of a mark, and `counted` for the symbols of which identifiers declarations
are counted.
-/

namespace IrLink.Decode

variable {α β : Type}

/-! ## Declarations and loops as a whole -/

/-- A declaration with a new identity that is made known when its declarator and
its annotations are built. -/
def declaring (range : Range) (origin : Origin) (parent : Parent)
    (make : Nat → Decode (Tree .declarator × Tree (.list .call))) :
    Decode (Tree .declaration) := do
  let node ← freshNode
  let made ← make node
  let declaration : Tree .declaration :=
    .declarationNode node range origin parent made.1 made.2
  registerDeclaration declaration
  return declaration

/-- A loop that is begun before its contents are built. -/
def looping (shell : LoopNode) (inside : Decode LoopContents) :
    Decode (Nat × LoopContents) := do
  let node ← beginLoop shell
  let contents ← inside
  fillLoop node contents
  return (node, contents)

theorem build_declarationNode (range : Range) (origin : String)
    (annotations : Record (.list .call)) (file : String) (declarator : Record .declarator)
    (parent : Parent) :
    build (.declarationNode range origin annotations file declarator) parent =
      descend (do
        let origin ← originNamed origin
        declaring range origin parent fun node => do
          let declarator ← build declarator ⟨node, range, origin⟩
          let annotations ← build annotations ()
          return (declarator, annotations)) := by
  simp only [declaring, bind_assoc, pure_bind]
  rfl

theorem build_asAccessor (function : Record .function) (site : Site) :
    build (.asAccessor function) site = (do
      let declarator ← @build .function function (site, some site.node)
      declaring site.range site.origin (.declaration site.node) fun _ =>
        return (declarator, .nil)) := by
  simp only [declaring, pure_bind]
  rfl

theorem build_loop (kind : LoopKind) (id : Int32) (label : Option String)
    (condition : Record .expression) (body : Record (.option .expression)) (range : Range)
    (type : Tree .type) :
    @build .operation (.loop kind id label condition body) (range, type) = (do
      let filled ← looping { id, kind, range, type } do
        let body ← build body ()
        let condition ← build condition ()
        return ⟨label, body, condition⟩
      return .expressionNode range type
        (.loop filled.1 kind id label filled.2.body filled.2.condition)) := by
  simp only [looping, bind_assoc, pure_bind]
  rfl

/-! ## Rules -/

/-- The parts of a declaration that can be made known: their marks are known,
and the declarator has a symbol that counts if the given one does. -/
structure Declares (holds : Mark → Prop) (counted : UInt64 → Bool)
    (symbol : Option SymbolRecord) (made : Tree .declarator × Tree (.list .call)) :
    Prop where
  declarator : ∀ mark ∈ made.1.allMarks, holds mark
  annotations : ∀ mark ∈ made.2.allMarks, holds mark
  counts : (made.1.declaredSymbol?.any fun symbol => counted symbol.id) =
    symbol.any fun record => counted record.uniqueId.index

/-- The rules for a statement about computations, the effects of their steps and
a property of their results.  What is said of a result may depend on what is
given from before. -/
structure Rules (holds : Mark → Prop) (counted : UInt64 → Bool)
    (Ensures : {α : Type} → Prop → Decode α → List LinkStep → (α → Prop) → Prop) :
    Prop where
  pure {α : Type} {given : Prop} {result : α} {post : α → Prop}
    (holds : given → post result) : Ensures given (pure result) [] post
  /-- What does not go on has no effects.  Checks of kinds are no such failures. -/
  fail {α : Type} {given : Prop} {error : DecodeError} (effects : List LinkStep)
    (post : α → Prop) (unrelated : ∀ id misfit, error ≠ .symbolKindMismatch id misfit) :
    Ensures given (throw error) effects post
  bind {α β : Type} {given : Prop} {computation : Decode α} {rest : α → Decode β}
    {effects others : List LinkStep} {post : α → Prop} {last : β → Prop}
    (first : Ensures given computation effects post)
    (second : ∀ result, Ensures (given ∧ post result) (rest result) others last) :
    Ensures given (computation >>= rest) (effects ++ others) last
  descend {α : Type} {given : Prop} {computation : Decode α} {effects : List LinkStep}
    {post : α → Prop} (inside : Ensures given computation effects post) :
    Ensures given (descend computation) effects post
  symbol {given : Prop} (requirement : Requirement) (record : SymbolRecord) :
    Ensures given (symbolFor requirement record) [] fun symbol =>
      counted symbol.id = counted record.uniqueId.index ∧ holds (.symbol requirement symbol)
  /-- The types that the decoder puts in are those of built-ins. -/
  builtin (builtin : Builtin) (among : builtin ∈ Builtin.all)
    (accepted : Requirement.classifier.accepts builtin.symbol.kind = true) :
    holds (.symbol .classifier builtin.symbol)
  jump {given : Prop} (id : Int32) (label : Option String) :
    Ensures given (jumpTo id label) [] fun jump => holds (.jump jump)
  loop {given : Prop} (shell : LoopNode) {inside : Decode LoopContents}
    {effects : List LinkStep} {post : LoopContents → Prop} (empty : shell.isPopulated = false)
    (contents : Ensures given inside effects post) :
    Ensures given (looping shell inside) (.beginLoop shell.id :: effects) fun filled =>
      post filled.2 ∧ holds (.loop filled.1 { shell with contents := some filled.2 })
  declaration {given : Prop} (range : Range) (origin : Origin) (parent : Parent)
    {make : Nat → Decode (Tree .declarator × Tree (.list .call))}
    {effects : List LinkStep} {post : Tree .declarator × Tree (.list .call) → Prop}
    (symbol : Option SymbolRecord)
    (declares : ∀ made, post made → Declares holds counted symbol made)
    (made : ∀ node, Ensures given (make node) effects post) :
    Ensures given (declaring range origin parent make)
      (effects ++ Record.declareStep symbol) fun declaration =>
        ∃ node made, declaration = .declarationNode node range origin parent made.1 made.2 ∧
          post made ∧ holds (.declaration declaration)
  /-- A declaration that belongs to another and is not made known. -/
  child {given : Prop} (site : Site) (declarator : Tree .declarator) :
    Ensures given (child site declarator) [] fun declaration =>
      (∃ node, declaration = .declarationNode node site.range site.origin
        (.declaration site.node) declarator .nil) ∧ holds (.backingField declaration)

namespace Rules

variable {holds : Mark → Prop} {counted : UInt64 → Bool}
  {Ensures : {α : Type} → Prop → Decode α → List LinkStep → (α → Prop) → Prop}
  (rules : Rules holds counted Ensures)
  {given : Prop} {computation : Decode α} {rest : α → Decode β}
  {effects others : List LinkStep} {post : α → Prop} {final : β → Prop}

include rules

/-! ### Sequences -/

/-- A computation without effects does not show. -/
theorem silent (first : Ensures given computation [] post)
    (second : ∀ result, Ensures (given ∧ post result) (rest result) effects final) :
    Ensures given (computation >>= rest) effects final :=
  rules.bind first second

/-- What is made of the result does not show. -/
theorem map {make : α → β} (first : Ensures given computation effects post)
    (made : ∀ result, given ∧ post result → final (make result)) :
    Ensures given (computation >>= fun result => Pure.pure (make result)) effects final := by
  rw [← List.append_nil effects]
  exact rules.bind first fun result => rules.pure (made result)

/-- A property of the result may be weakened. -/
theorem weaken {weaker : α → Prop} (ensures : Ensures given computation effects post)
    (implies : ∀ result, given ∧ post result → weaker result) :
    Ensures given computation effects weaker := by
  rw [← bind_pure computation]
  exact rules.map ensures implies

/-- What follows an item has the effects of the other items. -/
theorem andThen {item : Item} {items : List Item}
    (first : Ensures given computation item.effects post)
    (second : ∀ result, Ensures (given ∧ post result) (rest result)
      (items.flatMap Item.effects) final) :
    Ensures given (computation >>= rest) ((item :: items).flatMap Item.effects) final :=
  rules.bind first second

/-- The last item of several. -/
theorem last {item : Item} {make : α → β}
    (first : Ensures given computation item.effects post)
    (made : ∀ result, given ∧ post result → final (make result)) :
    Ensures given (computation >>= fun result => Pure.pure (make result))
      ([item].flatMap Item.effects) final :=
  rules.andThen first fun result => rules.pure (made result)

/-- The only item. -/
theorem only {item : Item} {weaker : α → Prop}
    (first : Ensures given computation item.effects post)
    (implies : ∀ result, given ∧ post result → weaker result) :
    Ensures given computation ([item].flatMap Item.effects) weaker := by
  rw [← bind_pure computation]
  exact rules.last first implies

/-- What follows items without effects has the effects of the other items. -/
theorem unseen {items others : List Item} (none : items.flatMap Item.effects = [])
    (first : Ensures given computation [] post)
    (second : ∀ result, Ensures (given ∧ post result) (rest result)
      (others.flatMap Item.effects) final) :
    Ensures given (computation >>= rest) ((items ++ others).flatMap Item.effects) final := by
  rw [List.flatMap_append, none]
  exact rules.bind first second

/-! ### Symbols -/

/-- A symbol that may be absent. -/
theorem symbol? (requirement : Requirement) (record : Option SymbolRecord) :
    Ensures given (symbolFor? requirement record) [] fun symbol =>
      Tally holds counted (Tree.optionalSymbol requirement symbol) 0 := by
  cases record with
  | none => exact rules.pure fun _ => .nil
  | some record =>
      exact rules.map (rules.symbol requirement record) fun _ known => .symbol known.2.2

/-- The symbols of a list of records. -/
theorem symbols (requirement : Requirement) (records : List SymbolRecord) :
    Ensures given (symbolsFor requirement records) [] fun symbols =>
      ∀ symbol ∈ symbols, holds (.symbol requirement symbol) := by
  induction records generalizing given with
  | nil => exact rules.pure fun _ => List.forall_mem_nil _
  | cons record records inductionHypothesis =>
      refine rules.silent (rules.symbol requirement record) fun symbol => ?_
      refine rules.map inductionHypothesis fun symbols known => ?_
      exact List.forall_mem_cons.mpr ⟨known.1.2.2, known.2⟩

/-! ### Checks -/

theorem refuse (what : Unsupported) (effects : List LinkStep) (post : α → Prop) :
    Ensures given (Decode.refuse what) effects post :=
  rules.fail effects post fun _ _ => by rintro ⟨⟩

theorem originNamed (name : String) :
    Ensures given (Decode.originNamed name) [] fun _ => True := by
  unfold Decode.originNamed
  cases Origin.ofName? name with
  | none => exact rules.fail _ _ fun _ _ => by rintro ⟨⟩
  | some origin => exact rules.pure fun _ => trivial

theorem constantOf (recorded : RecordedConstant) :
    Ensures given (Decode.constantOf recorded) [] fun _ => True := by
  unfold Decode.constantOf
  cases recorded.value? with
  | none => exact rules.fail _ _ fun _ _ => by rintro ⟨⟩
  | some value => exact rules.pure fun _ => trivial

theorem operandClassifier (operand : Tree .type) :
    Ensures given (Decode.operandClassifier operand) [] fun classifier =>
      operand.classifier? = some classifier := by
  unfold Decode.operandClassifier
  cases operand.classifier? with
  | none => exact rules.refuse _ _ _
  | some classifier => exact rules.pure fun _ => rfl

theorem requireVariable (parameter : Tree .declaration) :
    Ensures given (Decode.requireVariable parameter) [] fun _ => True := by
  unfold Decode.requireVariable
  cases parameter.declarator.form with
  | localVariable => exact rules.pure fun _ => trivial
  | _ => exact rules.refuse _ _ _

theorem requireClass (entryClass : Tree (.option .declaration)) :
    Ensures given (Decode.requireClass entryClass) [] fun _ => True := by
  unfold Decode.requireClass
  cases entryClass.toOption with
  | none => exact rules.pure fun _ => trivial
  | some declaration =>
      cases form : declaration.declarator.form with
      | klass =>
          simp only [form]
          exact rules.pure fun _ => trivial
      | _ =>
          simp only [form]
          exact rules.refuse _ _ _

end Rules

end IrLink.Decode
