import IrLink.Proofs.Decode.Walk
import IrLink.Proofs.Tree.Formed
import IrLink.Proofs.Tree.Links

/-!
# Trees that linking makes

The checks of the decoder make what is inside a tree agree (`Tree.Formed`).  A declaration
gets its number before its parts are linked, and hands it down to them; so what it holds is
linked back to it (`Tree.LinkedBack`).  Numbers are drawn one after another, and the parts of
a record are linked one after another: what each part draws lies in a range of its own, so
that no number is given twice.  All this is shown at once, for one number that is counted: a
record gives a sound tree, in which the number occurs at most as often as it was drawn
(`Decode.build_draws`).
-/

namespace IrLink

/-! ## Sound trees -/

namespace Tree

variable {c : Category} {number a b : Nat} {tree : Tree c} {parts : List Node}

theorem declarations_eq_parts (tree : Tree c) :
    tree.declarations = (Node.declaration? ⟨tree⟩).toList ++
      tree.parts.flatMap fun part => part.tree.declarations := by
  unfold declarations nodes above
  rw [inside_eq, List.filterMap_cons, List.filterMap_flatMap]
  cases Node.declaration? ⟨tree⟩ <;> rfl

/-- A formed tree that is linked back, in which a number occurs at most so often. -/
structure Sound (number : Nat) (tree : Tree c) (most : Nat) : Prop where
  formed : tree.Formed
  linked : tree.LinkedBack
  count : tree.declarations.count number ≤ most

/-- Some formed trees that are linked back, in which a number occurs at most so often. -/
structure AllSound (number : Nat) (parts : List Node) (most : Nat) : Prop where
  formed : AllFormed parts
  linked : ∀ part ∈ parts, part.tree.LinkedBack
  count : (parts.flatMap fun part => part.tree.declarations).count number ≤ most

namespace AllSound

variable {others : List Node}

theorem nil : AllSound number [] 0 :=
  ⟨.nil, List.forall_mem_nil _, Nat.le_refl 0⟩

theorem cons (first : tree.Sound number a) (rest : AllSound number parts b) :
    AllSound number (⟨tree⟩ :: parts) (a + b) where
  formed := .cons first.formed rest.formed
  linked := List.forall_mem_cons.mpr ⟨first.linked, rest.linked⟩
  count := by
    rw [List.flatMap_cons, List.count_append]
    exact Nat.add_le_add first.count rest.count

theorem one (sound : tree.Sound number a) : AllSound number [⟨tree⟩] a :=
  .cons sound .nil

theorem append (first : AllSound number parts a) (rest : AllSound number others b) :
    AllSound number (parts ++ others) (a + b) where
  formed := List.forall_mem_append.mpr ⟨first.formed, rest.formed⟩
  linked := List.forall_mem_append.mpr ⟨first.linked, rest.linked⟩
  count := by
    rw [List.flatMap_append, List.count_append]
    exact Nat.add_le_add first.count rest.count

end AllSound

namespace Sound

theorem mono (sound : tree.Sound number a) (more : a ≤ b) : tree.Sound number b :=
  ⟨sound.formed, sound.linked, Nat.le_trans sound.count more⟩

/-- A tree that is no declaration has the numbers of its parts. -/
theorem node (parts : AllSound number tree.parts a) (most : a ≤ b)
    (agrees : tree.Agrees := by exact trivial) (own : tree.LinksBack := by exact trivial)
    (plain : Node.declaration? ⟨tree⟩ = .none := by exact rfl) : tree.Sound number b where
  formed := .ofParts agrees parts.formed
  linked := .node own parts.linked
  count := by
    rw [declarations_eq_parts, plain]
    exact Nat.le_trans parts.count most

/-- An expression has the numbers of its type and of the parts of its operation. -/
theorem expression {range : Range} {type : Tree .type} {operation : Tree .operation} {most : Nat}
    (first : type.Sound number a) (parts : AllSound number operation.parts b)
    (bound : a + b ≤ most) (agrees : operation.Agrees) (own : operation.LinksBack)
    (plain : Node.declaration? ⟨operation⟩ = .none) :
    (expressionNode range type operation).Sound number most :=
  .node (.cons first (.cons (.node parts (Nat.le_refl b) agrees own plain) .nil)) bound

/-- A declaration has its own number besides those of its parts. -/
theorem declaration {node : Nat} {range : Range} {origin : Origin} {parent : Parent}
    {declarator : Tree .declarator} {annotations : Tree (.list .call)}
    (heldBy : declarator.HeldBy node) (first : declarator.Sound number a)
    (second : annotations.Sound number b) :
    (declarationNode node range origin parent declarator annotations).Sound number
      ((if node = number then 1 else 0) + (a + b)) where
  formed := .ofParts trivial (.cons first.formed (.cons second.formed .nil))
  linked := .node heldBy (List.forall_mem_cons.mpr
    ⟨first.linked, List.forall_mem_singleton.mpr second.linked⟩)
  count := by
    have both := (AllSound.cons first (.cons second .nil)).count
    have parts : (declarationNode node range origin parent declarator annotations).declarations =
        [node] ++ [(⟨declarator⟩ : Node), ⟨annotations⟩].flatMap fun part =>
          part.tree.declarations :=
      declarations_eq_parts _
    rw [Nat.add_zero] at both
    rw [parts, List.count_append, List.count_singleton]
    simp only [beq_iff_eq]
    exact Nat.add_le_add_left both _

theorem nil : (Tree.nil : Tree (.list c)).Sound number 0 :=
  .node .nil (Nat.le_refl 0)

theorem plainType (symbol : Symbol) : (plainType symbol).Sound number 0 :=
  .node (.cons nil (.cons nil .nil)) (Nat.le_refl 0)

end Sound

/-- A declarator that holds nothing is held by every declaration. -/
theorem HeldBy.ofNothing {declarator : Tree .declarator} (nothing : declarator.held = [])
    (node : Nat) : declarator.HeldBy node := by
  obtain ⟨noOwned, noAccessors⟩ := List.append_eq_nil_iff.mp nothing
  constructor
  · rw [noOwned]
    exact List.forall_mem_nil _
  · rw [noAccessors]
    exact List.forall_mem_nil _

end Tree

/-! ## What is known from above -/

/-- The type that is known from above is sound. -/
def Context.Sound (number : Nat) : {c : Category} → Context c → Nat → Prop
  | .operation, (_, type), most => type.Sound number most
  -- The context of a list is used for each of its items.
  | .list c, context, _ => Context.Sound number (c := c) context 0
  | .option c, context, most => Context.Sound number (c := c) context most
  | _, _, _ => True

/-- A tree is linked to what is known from above. -/
def Placed : {c : Category} → Context c → Tree c.built → Prop
  | .declaration, parent, declaration => declaration.BelongsTo parent none
  | .accessor, site, declaration =>
    declaration.BelongsTo (.declaration site.node) (some site.node)
  | .backingField, site, declaration => declaration.BelongsTo (.declaration site.node) none
  | .declarator, site, declarator => declarator.served? = none ∧ declarator.HeldBy site.node
  | .function, (_, property), declarator =>
    declarator.served? = property ∧ declarator.held = []
  | .field, _, declarator => declarator.served? = none ∧ declarator.held = []
  | .list c, context, trees => ∀ tree ∈ trees.toList, Placed (c := c) context tree
  | .option c, context, tree => ∀ value ∈ tree.toOption.toList, Placed (c := c) context value
  | _, _, _ => True

/-- How often a number is drawn between two states. -/
def State.drawn (number : Nat) (before after : State) : Nat :=
  if before.nextNode ≤ number ∧ number < after.nextNode then 1 else 0

theorem State.drawn_add {number : Nat} {before middle after : State}
    (first : before.nextNode ≤ middle.nextNode) (second : middle.nextNode ≤ after.nextNode) :
    before.drawn number after = before.drawn number middle + middle.drawn number after := by
  unfold drawn
  split <;> split <;> split <;> omega

namespace Decode

variable {α β : Type} {number : Nat}

/-! ## Rules -/

/-- A computation draws numbers upwards, and what it gives is as told for as many
times as the number was drawn. -/
def Draws (number : Nat) (computation : Decode α) (post : α → Nat → Prop) : Prop :=
  ∀ (environment : Environment) (state after : State) (result : α),
    computation environment state = .ok result after →
      state.nextNode ≤ after.nextNode ∧ post result (state.drawn number after)

/-- A computation that draws no number, with what is told of its result. -/
def Level (computation : Decode α) (told : α → Prop) : Prop :=
  ∀ (environment : Environment) (state after : State) (result : α),
    computation environment state = .ok result after →
      after.nextNode = state.nextNode ∧ told result

namespace Level

variable {computation : Decode α} {rest : α → Decode β} {told : α → Prop} {last : β → Prop}

theorem pure {result : α} (holds : told result) : Level (Pure.pure result) told := by
  rintro _ _ _ _ ⟨⟩
  exact ⟨rfl, holds⟩

theorem refuse (what : Unsupported) : Level (refuse what) told := by
  rintro _ _ _ _ ⟨⟩

theorem bind (first : Level computation told) (second : ∀ result, Level (rest result) last) :
    Level (computation >>= rest) last := by
  intro environment state after result run
  rcases bind_ok_iff.mp run with ⟨between, middle, early, late⟩
  have ends := second between _ _ _ _ late
  exact ⟨ends.1.trans (first _ _ _ _ early).1, ends.2⟩

theorem stateless (stateless : Stateless computation) : Level computation fun _ => True := by
  intro environment state after result run
  obtain ⟨outcome, ends⟩ := stateless environment
  rw [ends] at run
  cases outcome with
  | ok _ =>
    cases run
    exact ⟨rfl, trivial⟩
  | error _ => cases run

/-! Linking a symbol may make it, but draws no number. -/

theorem resolveSymbol (record : SymbolRecord) : Level (resolveSymbol record) fun _ => True := by
  intro environment state after result run
  obtain ⟨outcome, symbols, links⟩ := resolveSymbol_links record environment state.symbols
  rw [links.runs state rfl] at run
  cases outcome with
  | ok _ =>
    cases run
    exact ⟨rfl, trivial⟩
  | error _ => cases run

theorem symbolFor (requirement : Requirement) (record : SymbolRecord) :
    Level (symbolFor requirement record) fun _ => True :=
  .bind (.resolveSymbol record) fun _ =>
    .bind (.stateless (stateless_checkKind _ _ _)) fun _ => .pure trivial

theorem symbolFor? (requirement : Requirement) (record : Option SymbolRecord) :
    Level (symbolFor? requirement record) fun _ => True := by
  cases record with
  | none => exact .pure trivial
  | some record => exact .bind (.symbolFor requirement record) fun _ => .pure trivial

theorem symbolsFor (requirement : Requirement) (records : List SymbolRecord) :
    Level (symbolsFor requirement records) fun _ => True := by
  induction records with
  | nil => exact .pure trivial
  | cons record records inductionHypothesis =>
    exact .bind (.symbolFor requirement record) fun _ =>
      .bind inductionHypothesis fun _ => .pure trivial

/-! Loops have numbers of their own. -/

theorem jumpTo (id : Int32) (label : Option String) :
    Level (jumpTo id label) fun _ => True := by
  intro environment state after result run
  rw [(jumpTo_ok run).1]
  exact ⟨rfl, trivial⟩

theorem beginLoop (shell : LoopNode) : Level (beginLoop shell) fun _ => True := by
  rintro _ _ _ _ ⟨⟩
  exact ⟨rfl, trivial⟩

theorem fillLoop (node : Nat) (contents : LoopContents) :
    Level (fillLoop node contents) fun _ => True := by
  rintro _ _ _ _ ⟨⟩
  exact ⟨rfl, trivial⟩

theorem registerDeclaration (declaration : Tree .declaration) :
    Level (registerDeclaration declaration) fun _ => True := by
  intro environment state after result run
  rcases registerDeclaration_cases environment state declaration with
    ⟨-, ends⟩ | ⟨_, ends⟩ | ⟨_, -, -, ends⟩
  · cases ends.symm.trans run
    exact ⟨rfl, trivial⟩
  · cases ends.symm.trans run
  · cases ends.symm.trans run
    exact ⟨rfl, trivial⟩

/-! The checks of the decoder make a tree agree with its parts. -/

theorem operandClassifier (operand : Tree .type) :
    Level (operandClassifier operand) fun classifier =>
      operand.classifier? = some classifier := by
  unfold Decode.operandClassifier
  cases operand.classifier? with
  | none => exact .refuse _
  | some classifier => exact .pure rfl

theorem requireVariable (parameter : Tree .declaration) :
    Level (requireVariable parameter) fun _ =>
      parameter.declarator.form = .localVariable := by
  unfold Decode.requireVariable
  cases parameter.declarator.form with
  | localVariable => exact .pure rfl
  | _ => exact .refuse _

theorem requireClass (entryClass : Tree (.option .declaration)) :
    Level (requireClass entryClass) fun _ =>
      ∀ declaration, entryClass.toOption = some declaration →
        declaration.declarator.form = .klass := by
  unfold Decode.requireClass
  cases entryClass.toOption with
  | none => exact .pure fun _ => nofun
  | some declaration =>
    cases form : declaration.declarator.form with
    | klass =>
      simp only [form]
      refine .pure ?_
      rintro _ ⟨⟩
      exact form
    | _ =>
      simp only [form]
      exact .refuse _

end Level

namespace Draws

variable {computation : Decode α} {rest : α → Decode β} {post weaker : α → Nat → Prop}
  {last : β → Nat → Prop}

theorem imp (draws : Draws number computation post)
    (weaken : ∀ result used, post result used → weaker result used) :
    Draws number computation weaker := by
  intro environment state after result run
  exact (draws environment state after result run).imp_right (weaken _ _)

theorem pure {result : α} (holds : post result 0) : Draws number (Pure.pure result) post := by
  rintro environment state _ _ ⟨⟩
  have none : state.drawn number state = 0 := if_neg (by omega)
  exact ⟨Nat.le_refl _, none ▸ holds⟩

theorem fail (error : DecodeError) : Draws number (throw error) post := by
  rintro _ _ _ _ ⟨⟩

theorem refuse (what : Unsupported) : Draws number (refuse what) post :=
  fail _

/-- What is drawn by parts is drawn by the whole. -/
theorem bind (first : Draws number computation post)
    (second : ∀ result used, post result used →
      Draws number (rest result) fun other more => last other (used + more)) :
    Draws number (computation >>= rest) last := by
  intro environment state after result run
  rcases bind_ok_iff.mp run with ⟨between, middle, early, late⟩
  rcases first _ _ _ _ early with ⟨below, holds⟩
  rcases second between _ holds _ _ _ _ late with ⟨above, holds⟩
  exact ⟨Nat.le_trans below above, State.drawn_add below above ▸ holds⟩

theorem descend (inside : Draws number computation post) :
    Draws number (descend computation) post := by
  intro environment state after result run
  rcases descend_ok run with ⟨middle, deeper, rfl⟩
  exact inside environment { state with depth := state.depth + 1 } middle result deeper

/-- What draws no number leaves everything to the rest. -/
theorem level {told : α → Prop} (first : Level computation told)
    (second : ∀ result, told result → Draws number (rest result) last) :
    Draws number (computation >>= rest) last := by
  intro environment state after result run
  rcases bind_ok_iff.mp run with ⟨between, middle, early, late⟩
  rcases first _ _ _ _ early with ⟨same, holds⟩
  have drawn := second between holds _ _ _ _ late
  unfold State.drawn at drawn ⊢
  rwa [same] at drawn

theorem freshNode : Draws number freshNode fun node used =>
    (if node = number then 1 else 0) ≤ used := by
  rintro environment state _ _ ⟨⟩
  refine ⟨Nat.le_succ _, ?_⟩
  unfold State.drawn
  split <;> split <;> simp_all

end Draws

/-! ## Records -/

/-- What is said of the tree that linking a record gives. -/
structure Fits {c : Category} (number : Nat) (context : Context c) (given : Nat)
    (tree : Tree c.built) (used : Nat) : Prop where
  placed : Placed context tree
  sound : tree.Sound number (given + used)

namespace Fits

variable {c : Category} {context : Context c} {given used : Nat}

/-- A tree that is no declaration has the numbers that were drawn for its parts. -/
theorem node {tree : Tree c.built} (parts : Tree.AllSound number tree.parts used)
    (placed : Placed context tree := by exact trivial)
    (agrees : tree.Agrees := by exact trivial) (own : tree.LinksBack := by exact trivial)
    (plain : Node.declaration? ⟨tree⟩ = .none := by exact rfl) :
    Fits number context given tree used :=
  ⟨placed, .node parts (Nat.le_add_left used given) agrees own plain⟩

section Operations

variable {context : Range × Tree .type} {range : Range} {type : Tree .type}
  {operation : Tree .operation} {a b : Nat}

/-- An expression of the type that is known from above. -/
theorem expression (known : type.Sound number given)
    (parts : Tree.AllSound number operation.parts used)
    (agrees : operation.Agrees := by exact trivial)
    (own : operation.LinksBack := by exact trivial)
    (plain : Node.declaration? ⟨operation⟩ = .none := by exact rfl) :
    Fits (c := .operation) number context given (.expressionNode range type operation) used :=
  ⟨trivial, .expression known parts (Nat.le_refl _) agrees own plain⟩

/-- An expression of a type that its operation has. -/
theorem typed (first : type.Sound number a) (parts : Tree.AllSound number operation.parts b)
    (agrees : operation.Agrees := by exact trivial)
    (own : operation.LinksBack := by exact trivial)
    (plain : Node.declaration? ⟨operation⟩ = .none := by exact rfl) :
    Fits (c := .operation) number context given (.expressionNode range type operation)
      (a + b) :=
  ⟨trivial, .expression first parts (Nat.le_add_left _ given) agrees own plain⟩

/-- An expression of a type that the decoder puts in. -/
theorem plainlyTyped {symbol : Symbol} (parts : Tree.AllSound number operation.parts used)
    (agrees : operation.Agrees := by exact trivial)
    (own : operation.LinksBack := by exact trivial)
    (plain : Node.declaration? ⟨operation⟩ = .none := by exact rfl) :
    Fits (c := .operation) number context given
      (.expressionNode range (Tree.plainType symbol) operation) used :=
  Nat.zero_add used ▸ typed (.plainType symbol) parts agrees own plain

end Operations

end Fits

/-- A tree that belongs to another one goes into it with its numbers. -/
theorem Draws.placed {c : Category} {context : Context c} {computation : Decode (Tree c.built)}
    {rest : Tree c.built → Decode β} {last : β → Nat → Prop}
    (first : Draws number computation (Fits number context 0))
    (second : ∀ tree used, Placed context tree → tree.Sound number used →
      Draws number (rest tree) fun other more => last other (used + more)) :
    Draws number (computation >>= rest) last :=
  bind first fun tree used fits =>
    second tree used fits.placed (fits.sound.mono (Nat.le_of_eq (Nat.zero_add used)))

/-- A tree goes into another one with its numbers. -/
theorem Draws.part {c : Category} {context : Context c} {computation : Decode (Tree c.built)}
    {rest : Tree c.built → Decode β} {last : β → Nat → Prop}
    (first : Draws number computation (Fits number context 0))
    (second : ∀ tree used, tree.Sound number used →
      Draws number (rest tree) fun other more => last other (used + more)) :
    Draws number (computation >>= rest) last :=
  first.placed fun tree used _ => second tree used

/-- A declaration that belongs to another one draws its number after its declarator. -/
theorem Draws.child {site : Site} {declarator : Tree .declarator} {drawn : Nat}
    (nothing : declarator.held = []) (sound : declarator.Sound number drawn) :
    Draws number (child site declarator) fun tree used =>
      tree.BelongsTo (.declaration site.node) declarator.served? ∧
        tree.Sound number (drawn + used) := by
  refine .bind .freshNode fun node used own => .pure ⟨⟨rfl, rfl⟩, ?_⟩
  refine (Tree.Sound.declaration (.ofNothing nothing node) sound .nil).mono ?_
  exact Nat.add_comm used drawn ▸ Nat.add_le_add_right own drawn

/-- Linking records smaller than a given size draws the numbers of their trees. -/
def DrawnBelow (number size : Nat) : Prop :=
  ∀ {c : Category} (record : Record c) (context : Context c) {given : Nat}
    (_ : context.Sound number given := by exact trivial)
    (_ : sizeOf record < size := by simp +arith),
    Draws number (build record context) (Fits number context given)

variable {given : Nat}

/-- Linking an operation draws the numbers of its parts besides those of the type that is
known from above. -/
theorem operation_draws (record : Record .operation) (range : Range) (type : Tree .type)
    (known : type.Sound number given) (parts : DrawnBelow number (sizeOf record)) :
    Draws number (build record (c := .operation) (range, type))
      (Fits (c := .operation) number (range, type) given) := by
  cases record with
  | unsetOperation => exact .refuse _
  | block statements _ =>
    refine .part (parts statements ()) fun _ _ first => .pure ?_
    exact .expression known (.one first)
  | breakLoop id label =>
    refine .level (.jumpTo id label) fun _ _ => .pure ?_
    exact .expression known .nil
  | callOperation call =>
    refine .part (parts call ()) fun _ _ first => .pure ?_
    exact .expression known (.one first)
  | classReference symbol referred =>
    refine .level (.symbolFor _ symbol) fun _ _ => ?_
    refine .part (parts referred ()) fun _ _ first => .pure ?_
    exact .expression known (.one first)
  | composite statements =>
    refine .part (parts statements ()) fun _ _ first => .pure ?_
    exact .expression known (.one first)
  | constant value =>
    refine .level (.stateless (stateless_constantOf value)) fun _ _ => .pure ?_
    exact .expression known .nil
  | continueLoop id label =>
    refine .level (.jumpTo id label) fun _ _ => .pure ?_
    exact .expression known .nil
  | delegatingConstructorCall symbol access =>
    refine .level (.symbolFor _ symbol) fun _ _ => ?_
    refine .part (parts access ()) fun _ _ first => .pure ?_
    exact .plainlyTyped (.one first)
  | enumConstructorCall symbol access =>
    refine .level (.symbolFor _ symbol) fun _ _ => ?_
    refine .part (parts access ()) fun _ _ first => .pure ?_
    exact .plainlyTyped (.one first)
  | functionReference symbol typeArguments =>
    refine .level (.symbolFor _ symbol) fun _ _ => ?_
    refine .part (parts typeArguments ()) fun _ _ first => .pure ?_
    exact .expression known (.one first)
  | getClass argument =>
    refine .part (parts argument ()) fun _ _ first => .pure ?_
    exact .expression known (.one first)
  | getEnumValue own symbol =>
    refine .part (parts own ()) fun _ _ first => ?_
    refine .level (.symbolFor _ symbol) fun _ _ => .pure ?_
    exact .typed first .nil
  | getField access own =>
    cases access with
    | fieldAccessNode symbol qualifier receiver =>
      -- Linking unwraps the access.
      refine .level (.symbolFor _ symbol) fun _ _ => ?_
      refine .part (parts own ()) fun _ _ first => ?_
      refine .level (.symbolFor? _ qualifier) fun _ _ => ?_
      refine .part (parts receiver ()) fun _ _ second => .pure ?_
      exact .typed first (.one (.node (.one second) (Nat.le_refl _)))
  | getObject symbol =>
    refine .level (.symbolFor _ symbol) fun _ _ => .pure ?_
    exact .expression known .nil
  | getValue symbol own =>
    refine .level (.symbolFor _ symbol) fun _ _ => ?_
    refine .part (parts own ()) fun _ _ first => .pure ?_
    exact .typed first .nil
  | instanceInitializerCall symbol =>
    refine .level (.symbolFor _ symbol) fun _ _ => .pure ?_
    exact .plainlyTyped .nil
  | propertyReference field getter setter typeArguments =>
    refine .level (.symbolFor? _ field) fun _ _ => ?_
    refine .level (.symbolFor? _ getter) fun _ _ => ?_
    refine .level (.symbolFor? _ setter) fun _ _ => ?_
    refine .part (parts typeArguments ()) fun _ _ first => .pure ?_
    exact .expression known (.one first)
  | returnFrom target value =>
    refine .level (.symbolFor _ target) fun _ _ => ?_
    refine .part (parts value ()) fun _ _ first => .pure ?_
    exact .plainlyTyped (.one first)
  | setField access value =>
    refine .part (parts access ()) fun _ _ first => ?_
    refine .part (parts value ()) fun _ _ second => .pure ?_
    exact .plainlyTyped (.cons first (.one second))
  | setVariable symbol value =>
    refine .level (.symbolFor _ symbol) fun _ _ => ?_
    refine .part (parts value ()) fun _ _ first => .pure ?_
    exact .plainlyTyped (.one first)
  | stringConcat arguments =>
    refine .part (parts arguments ()) fun _ _ first => .pure ?_
    exact .expression known (.one first)
  | throwValue value =>
    refine .part (parts value ()) fun _ _ first => .pure ?_
    exact .plainlyTyped (.one first)
  | tryCatch result catches finalizer =>
    refine .part (parts result ()) fun _ _ first => ?_
    refine .part (parts catches ()) fun _ _ second => ?_
    refine .part (parts finalizer ()) fun _ _ third => .pure ?_
    exact .expression known (.cons first (.cons second (.one third)))
  | typeOperation _ operand argument =>
    refine .part (parts operand ()) fun operand _ first => ?_
    refine .level (.operandClassifier operand) fun _ same => ?_
    refine .part (parts argument ()) fun _ _ second => .pure ?_
    exact .expression known (.cons first (.one second)) same
  | vararg elementType elements =>
    refine .part (parts elementType ()) fun _ _ first => ?_
    refine .part (parts elements ()) fun _ _ second => .pure ?_
    exact .expression known (.cons first (.one second))
  | when branches =>
    refine .part (parts branches ()) fun _ _ first => .pure ?_
    exact .expression known (.one first)
  | loop _ _ _ condition body =>
    refine .level (.beginLoop _) fun _ _ => ?_
    refine .part (parts body ()) fun _ _ first => ?_
    refine .part (parts condition ()) fun _ _ second => ?_
    refine .level (.fillLoop _ _) fun _ _ => .pure ?_
    exact .expression known (.cons first (.one second))

/-- Statements hold what they are recorded with, and local declarations belong to nothing. -/
theorem statement_draws (record : Record .statement) (context : Context .statement)
    (parts : DrawnBelow number (sizeOf record)) :
    Draws number (build record context) (Fits number context given) := by
  cases record with
  | unsetStatement _ => exact .descend (.refuse _)
  | blockBody _ statements =>
    refine .descend <| .part (parts statements ()) fun _ _ first => .pure ?_
    exact .node (.one (.node (.one first) (Nat.le_refl _)))
  | branchStatement _ condition result =>
    refine .descend <| .part (parts condition ()) fun _ _ first => ?_
    refine .part (parts result ()) fun _ _ second => .pure ?_
    exact .node (.one (.node (.cons first (.one second)) (Nat.le_refl _)))
  | catchStatement _ parameter result =>
    refine .descend <| .placed (parts parameter Parent.none) fun parameter _ belongs first => ?_
    refine .level (.requireVariable parameter) fun _ isVariable => ?_
    refine .part (parts result ()) fun _ _ second => .pure ?_
    exact .node (.one (.node (.cons first (.one second)) (Nat.le_refl _) isVariable belongs))
  | declarationStatement _ declaration =>
    refine .descend <| .placed (parts declaration Parent.none) fun _ _ belongs first => .pure ?_
    exact .node (.one first) trivial trivial belongs
  | expressionStatement _ expression =>
    refine .descend <| .part (parts expression ()) fun _ _ first => .pure ?_
    exact .node (.one first)
  | syntheticBody _ _ =>
    refine .descend <| .pure ?_
    exact .node (.one (.node .nil (Nat.le_refl _)))

/-- A declarator is held by the declaration whose number is handed down to it. -/
theorem declarator_draws (record : Record .declarator) (context : Context .declarator)
    (parts : DrawnBelow number (sizeOf record)) :
    Draws number (build record context) (Fits number context given) := by
  cases record with
  | unsetDeclarator => exact .refuse _
  | anonymousInitializer symbol statements =>
    refine .level (.symbolFor _ symbol) fun _ _ => ?_
    refine .part (parts statements ()) fun _ _ first => .pure ?_
    exact .node (.one (.node (.one first) (Nat.le_refl _))) ⟨rfl, .ofNothing rfl _⟩
  | classDeclarator symbol _ _ _ _ _ members thisReceiver typeParameters superTypes =>
    refine .level (.symbolFor _ symbol) fun _ _ => ?_
    refine .placed (parts members (Parent.declaration context.node)) fun _ _ belong first => ?_
    refine .part (parts thisReceiver context) fun _ _ second => ?_
    refine .part (parts typeParameters context) fun _ _ third => ?_
    refine .part (parts superTypes ()) fun _ _ fourth => .pure ?_
    exact .node (.cons first (.cons second (.cons third (.one fourth))))
      ⟨rfl, belong, List.forall_mem_nil _⟩
  | constructorDeclarator symbol _ signature _ =>
    refine .level (.symbolFor _ symbol) fun _ _ => ?_
    refine .part (parts signature context) fun _ _ first => .pure ?_
    exact .node (.one first) ⟨rfl, .ofNothing rfl _⟩
  | enumEntry symbol _ entryClass initializer =>
    refine .level (.symbolFor _ symbol) fun _ _ => ?_
    refine .placed (parts entryClass (Parent.declaration context.node))
      fun entryClass _ belongs first => ?_
    refine .level (.requireClass entryClass) fun _ isClass => ?_
    refine .part (parts initializer ()) fun _ _ second => .pure ?_
    exact .node (.cons first (.one second)) ⟨rfl, belongs, List.forall_mem_nil _⟩ isClass
  | fieldDeclarator field =>
    refine Draws.imp (parts (c := .field) field ()) fun _ used fits => ⟨?_, fits.sound⟩
    exact ⟨fits.placed.1, .ofNothing fits.placed.2 _⟩
  | functionDeclarator function =>
    refine Draws.imp (parts (c := .function) function (context, none)) fun _ used fits =>
      ⟨?_, fits.sound⟩
    exact ⟨fits.placed.1, .ofNothing fits.placed.2 _⟩
  | property _ _ _ _ backingField getter setter =>
    refine .placed (parts backingField context) fun _ _ storage first => ?_
    refine .placed (parts getter context) fun _ _ gets second => ?_
    refine .placed (parts setter context) fun _ _ sets third => .pure ?_
    exact .node (.cons first (.cons second (.one third)))
      ⟨rfl, storage, List.forall_mem_append.mpr ⟨gets, sets⟩⟩
  | typeAlias => exact .pure (.node .nil ⟨rfl, .ofNothing rfl _⟩)
  | variableDeclarator symbol _ type _ initializer =>
    refine .part (parts initializer ()) fun _ _ first => ?_
    refine .level (.symbolFor _ symbol) fun _ _ => ?_
    refine .part (parts type ()) fun _ _ second => .pure ?_
    -- The initializer is linked before the type that stands in front of it.
    have both := Tree.AllSound.cons second (.one first)
    exact .node (Nat.add_left_comm _ _ _ ▸ both) ⟨rfl, .ofNothing rfl _⟩

/-- Linking a record draws the numbers of its tree if linking its parts does. -/
theorem layer_draws {c : Category} (record : Record c) (context : Context c)
    (known : context.Sound number given) (parts : DrawnBelow number (sizeOf record)) :
    Draws number (build record context) (Fits number context given) := by
  cases c with
  -- Lists and optional parts hand their context down.
  | list item =>
    cases record with
    | nil =>
      refine .pure (.node .nil ?_)
      unfold Placed
      rw [Tree.toList]
      exact List.forall_mem_nil _
    | cons head tail =>
      refine .placed (parts head context known) fun _ _ first firstSound => ?_
      refine .placed (parts (c := .list item) tail context known) fun _ _ rest restSound => ?_
      refine .pure (.node (.cons firstSound (.one restSound)) ?_)
      unfold Placed at rest ⊢
      rw [Tree.toList]
      exact List.forall_mem_cons.mpr ⟨first, rest⟩
  | option =>
    cases record with
    | none =>
      refine .pure (.node .nil ?_)
      rintro _ ⟨⟩
    | some value =>
      refine .bind (parts value context known) fun tree used fits => .pure ⟨?_, ?_⟩
      · rintro _ (_ | ⟨_, ⟨⟩⟩)
        exact fits.placed
      · exact .node (.one fits.sound) (Nat.le_refl _)
  | type =>
    cases record with
    | unsetType => exact .refuse _
    | simpleType annotations _ classifier _ arguments =>
      refine .part (parts arguments ()) fun _ _ first => ?_
      refine .part (parts annotations ()) fun _ _ second => ?_
      refine .level (.symbolFor _ classifier) fun _ _ => .pure ?_
      exact .node (.cons first (.one second))
    | dynamicType annotations _ =>
      refine .part (parts annotations ()) fun _ _ first => .pure ?_
      exact .node (.one first)
    | errorType annotations _ =>
      refine .part (parts annotations ()) fun _ _ first => .pure ?_
      exact .node (.one first)
  | typeArgument =>
    cases record with
    | unsetArgument => exact .refuse _
    | starArgument => exact .pure (.node .nil)
    | projection _ type =>
      refine .part (parts type ()) fun _ _ first => .pure ?_
      exact .node (.one first)
  | call =>
    cases record with
    | callNode symbol qualifier _ access =>
      refine .level (.symbolFor _ symbol) fun _ _ => ?_
      refine .level (.symbolFor? _ qualifier) fun _ _ => ?_
      refine .part (parts access ()) fun _ _ first => .pure ?_
      exact .node (.one first)
  | access =>
    cases record with
    | accessNode dispatchReceiver extensionReceiver valueArguments typeArguments =>
      refine .part (parts valueArguments ()) fun _ _ first => ?_
      refine .part (parts typeArguments ()) fun _ _ second => ?_
      refine .part (parts dispatchReceiver ()) fun _ _ third => ?_
      refine .part (parts extensionReceiver ()) fun _ _ fourth => .pure ?_
      exact .node (.cons first (.cons second (.cons third (.one fourth))))
  | fieldAccess =>
    cases record with
    | fieldAccessNode symbol qualifier receiver =>
      refine .level (.symbolFor _ symbol) fun _ _ => ?_
      refine .level (.symbolFor? _ qualifier) fun _ _ => ?_
      refine .part (parts receiver ()) fun _ _ first => .pure ?_
      exact .node (.one first)
  | expression =>
    cases record with
    | expressionNode range type operation =>
      -- The type of an expression goes into its operation.
      refine .descend <| .part (parts type ()) fun tree used sound => ?_
      refine Draws.imp (parts (c := .operation) operation (range, tree) sound)
        fun _ more fits => ⟨trivial, fits.sound.mono (Nat.le_add_left _ _)⟩
  | operation =>
    rcases context with ⟨range, type⟩
    exact operation_draws record range type known @parts
  | varargElement =>
    cases record with
    | unsetElement => exact .refuse _
    | plainElement expression =>
      refine .part (parts expression ()) fun _ _ first => .pure ?_
      exact .node (.one first)
    | spreadElement _ expression =>
      refine .part (parts expression ()) fun _ _ first => .pure ?_
      exact .node (.one first)
  | statement => exact statement_draws record context @parts
  -- Linking unwraps statements in special places.
  | branch =>
    cases record with
    | asBranch statement =>
      cases statement with
      | branchStatement _ condition result =>
        refine .descend <| .part (parts condition ()) fun _ _ first => ?_
        refine .part (parts result ()) fun _ _ second => .pure ?_
        exact .node (.cons first (.one second))
      | _ => exact .refuse _
  | catchClause =>
    cases record with
    | asCatch statement =>
      cases statement with
      | catchStatement _ parameter result =>
        refine .descend <| .placed (parts parameter Parent.none) fun parameter _ belongs first => ?_
        refine .level (.requireVariable parameter) fun _ isVariable => ?_
        refine .part (parts result ()) fun _ _ second => .pure ?_
        exact .node (.cons first (.one second)) trivial isVariable belongs
      | _ => exact .refuse _
  | body =>
    cases record with
    | asBody statement =>
      cases statement with
      | blockBody _ statements =>
        refine .descend <| .part (parts statements ()) fun _ _ first => .pure ?_
        exact .node (.one first)
      | syntheticBody _ _ => exact .pure (.node .nil)
      | _ => exact .refuse _
  | declaration =>
    cases record with
    | declarationNode range origin annotations file declarator =>
      -- A declaration hands its number down to its parts.
      refine .descend <| .level (.stateless (stateless_originNamed _)) fun origin _ => ?_
      refine .bind .freshNode fun node _ own => ?_
      refine .placed (parts declarator ⟨node, range, origin⟩) fun tree _ belongs first => ?_
      have heldBy : tree.HeldBy node := belongs.2
      refine .part (parts annotations ()) fun _ _ second => ?_
      refine .level (.registerDeclaration _) fun _ _ => .pure ⟨⟨rfl, belongs.1⟩, ?_⟩
      exact (Tree.Sound.declaration heldBy first second).mono
        (Nat.le_trans (Nat.add_le_add_right own _) (Nat.le_add_left _ given))
  | declarator => exact declarator_draws record context @parts
  | signature =>
    cases record with
    | signatureNode returnType body valueParameters dispatchReceiver extensionReceiver
        typeParameters =>
      refine .part (parts returnType ()) fun _ _ first => ?_
      refine .part (parts body ()) fun _ _ second => ?_
      refine .part (parts valueParameters context) fun _ _ third => ?_
      refine .part (parts dispatchReceiver context) fun _ _ fourth => ?_
      refine .part (parts extensionReceiver context) fun _ _ fifth => ?_
      refine .part (parts typeParameters context) fun _ _ sixth => .pure ?_
      exact .node (.cons first (.cons second (.cons third (.cons fourth (.cons fifth
        (.one sixth))))))
  | function =>
    cases record with
    | functionNode symbol _ signature _ _ _ overridden =>
      rcases context with ⟨site, property⟩
      refine .level (.symbolFor _ symbol) fun _ _ => ?_
      refine .part (parts signature site) fun _ _ first => ?_
      refine .level (.symbolsFor _ overridden) fun _ _ => .pure ?_
      exact .node (.one first) ⟨rfl, rfl⟩
  | field =>
    cases record with
    | fieldNode symbol _ type _ _ initializer =>
      refine .level (.symbolFor _ symbol) fun _ _ => ?_
      refine .part (parts type ()) fun _ _ first => ?_
      refine .part (parts initializer ()) fun _ _ second => .pure ?_
      exact .node (.cons first (.one second)) ⟨rfl, rfl⟩
  | accessor =>
    cases record with
    | asAccessor function =>
      refine .placed (parts (c := .function) function (context, some context.node))
        fun _ _ serves first => ?_
      refine .bind (.child serves.2 first) fun _ _ second => ?_
      refine .level (.registerDeclaration _) fun _ _ =>
        .pure ⟨?_, second.2.mono (Nat.le_add_left _ _)⟩
      exact ⟨second.1.1, second.1.2.trans serves.1⟩
  | backingField =>
    cases record with
    | asBackingField field =>
      refine .placed (parts (c := .field) field ()) fun _ _ serves first => ?_
      refine (Draws.child serves.2 first).imp fun _ _ second =>
        ⟨?_, second.2.mono (Nat.le_add_left _ _)⟩
      exact ⟨second.1.1, second.1.2.trans serves.1⟩
  | valueParameter =>
    cases record with
    | valueParameterNode symbol _ _ type varargElementType _ _ defaultValue =>
      refine .part (parts varargElementType ()) fun _ _ first => ?_
      refine .level (.symbolFor _ symbol) fun _ _ => ?_
      refine .part (parts type ()) fun _ _ second => ?_
      refine .part (parts defaultValue ()) fun _ _ third => .pure ?_
      -- The type of the elements is linked before the type that stands in front of it.
      have all := Tree.AllSound.cons second (.cons first (.one third))
      exact .node (Nat.add_left_comm _ _ _ ▸ all)
  | typeParameter =>
    cases record with
    | typeParameterNode symbol _ _ _ superTypes =>
      refine .level (.symbolFor _ symbol) fun _ _ => ?_
      refine .part (parts superTypes ()) fun _ _ first => .pure ?_
      exact .node (.one first)

/-- Linking a record draws the numbers of its tree besides those that are given. -/
theorem build_fits {c : Category} (record : Record c) (context : Context c)
    (known : context.Sound number given) :
    Draws number (build record context) (Fits number context given) := by
  induction record using Record.size_induction generalizing given with
  | node record inductionHypothesis =>
    exact layer_draws record context known fun inner context _ known smaller =>
      inductionHypothesis inner smaller context known

/-- Linking a record draws the numbers of its tree. -/
theorem build_draws {c : Category} (record : Record c) (context : Context c)
    (known : context.Sound number 0) :
    Draws number (build record context) fun tree used =>
      Placed context tree ∧ tree.Sound number used :=
  (build_fits record context known).imp fun _ used fits =>
    ⟨fits.placed, fits.sound.mono (Nat.le_of_eq (Nat.zero_add used))⟩

/-- Linking a record gives a formed tree. -/
theorem formed_of_build {c : Category} {record : Record c} {context : Context c}
    {environment : Environment} {state after : State} {tree : Tree c.built}
    (known : context.Sound 0 0) (run : build record context environment state = .ok tree after) :
    tree.Formed :=
  (build_draws record context known environment state after tree run).2.2.formed

end Decode

end IrLink
