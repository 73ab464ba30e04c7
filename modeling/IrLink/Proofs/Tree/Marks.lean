import Mathlib.Data.List.Perm.Basic
import IrLink.Loop
import IrLink.Proofs.Tree.Parts
import IrLink.Tree.Declaration

/-!
# Marks of trees

A mark is something in a tree that has an identity in the session: a symbol in
its place, a jump, a loop, or a declaration that a tree holds.  `Tree.marks`
lists the marks of a node itself, and `Tree.allMarks` those of everything inside
it.  The storage of a property is marked apart from all other declarations; no
declaration inside a tree is left out (`Tree.declared_perm`).

A `Tally` says of some marks that each of them has a property, and how many
declarations there are among them.
-/

namespace IrLink

/-- Something in a tree that has an identity in the session. -/
inductive Mark where
  /-- A symbol, in a place with a requirement. -/
  | symbol (requirement : Requirement) (symbol : Symbol)
  | jump (jump : Jump)
  /-- A loop of a tree, as the table of loops holds it. -/
  | loop (node : Nat) (loop : LoopNode)
  /-- A declaration, unless it stores a property. -/
  | declaration (declaration : Tree .declaration)
  /-- A declaration that stores a property. -/
  | backingField (declaration : Tree .declaration)

namespace Mark

/-- The symbol that is marked. -/
def symbol? : Mark → Option Symbol
  | .symbol _ found => some found
  | _ => none

/-- The declaration that is marked, unless it stores a property. -/
def declaration? : Mark → Option (Tree .declaration)
  | .declaration found => some found
  | _ => none

/-- The storage that is marked. -/
def backingField? : Mark → Option (Tree .declaration)
  | .backingField found => some found
  | _ => none

/-- The declaration that is marked, even if it stores a property. -/
def held? : Mark → Option (Tree .declaration)
  | .declaration found => some found
  | .backingField found => some found
  | _ => none

end Mark

/-- The declaration that a node is. -/
def Node.asDeclaration? : Node → Option (Tree .declaration)
  | @Node.mk .declaration declaration => some declaration
  | _ => none

theorem Node.eq_of_asDeclaration? {node : Node} {declaration : Tree .declaration}
    (same : node.asDeclaration? = some declaration) : node = ⟨declaration⟩ := by
  rcases node with @⟨category, tree⟩
  cases category with
  | declaration =>
      cases same
      rfl
  | _ => cases same

namespace Tree

variable {c : Category}

/-- A symbol that may be absent. -/
def optionalSymbol (requirement : Requirement) (symbol : Option Symbol) : List Mark :=
  symbol.toList.map (.symbol requirement)

/-- The marks of a node itself. -/
def marks : {c : Category} → Tree c → List Mark
  | _, simpleType classifier .. => [.symbol .classifier classifier]
  | _, callNode symbol qualifier .. =>
      .symbol .callee symbol :: optionalSymbol .superClass qualifier
  | _, fieldAccessNode symbol qualifier _ =>
      .symbol .accessedField symbol :: optionalSymbol .superClass qualifier
  -- The range and the type of a loop are those of its expression.
  | _, expressionNode range type (.loop node kind id label body condition) =>
      [.loop node ⟨id, kind, range, type, .some ⟨label, body, condition⟩⟩]
  | _, breakLoop jump => [.jump jump]
  | _, continueLoop jump => [.jump jump]
  | _, classReference symbol _ => [.symbol .classifier symbol]
  | _, delegatingConstructorCall symbol _ => [.symbol .constructor symbol]
  | _, enumConstructorCall symbol _ => [.symbol .constructor symbol]
  | _, functionReference symbol _ => [.symbol .callee symbol]
  | _, getEnumValue symbol => [.symbol .enumValue symbol]
  | _, getObject symbol => [.symbol .objectClass symbol]
  | _, getValue symbol => [.symbol .value symbol]
  | _, instanceInitializerCall symbol => [.symbol .objectClass symbol]
  | _, propertyReference field getter setter _ =>
      optionalSymbol .accessedField field ++ optionalSymbol .accessor getter ++
        optionalSymbol .accessor setter
  | _, returnFrom target _ => [.symbol .returnTarget target]
  | _, setVariable symbol _ => [.symbol .assignedVariable symbol]
  | _, typeOperation _ _ classifier _ => [.symbol .classifier classifier]
  | _, declarationStatement declaration => [.declaration declaration]
  | _, catchNode _ parameter _ => [.declaration parameter]
  | _, classDeclarator symbol _ members .. =>
      .symbol .declaredClass symbol :: members.items.map .declaration
  | _, functionDeclarator symbol _ _ _ overridden =>
      .symbol .declaredFunction symbol :: overridden.map (.symbol .overriddenFunction)
  | _, constructorDeclarator symbol .. => [.symbol .declaredConstructor symbol]
  | _, fieldDeclarator symbol .. => [.symbol .declaredField symbol]
  | _, property _ backingField getter setter =>
      backingField.items.map .backingField ++ getter.items.map .declaration ++
        setter.items.map .declaration
  | _, variableDeclarator symbol .. => [.symbol .declaredVariable symbol]
  | _, enumEntry symbol _ entryClass _ =>
      .symbol .declaredEnumEntry symbol :: entryClass.items.map .declaration
  | _, anonymousInitializer symbol _ => [.symbol .declaredInitializer symbol]
  | _, valueParameterNode _ _ symbol .. => [.symbol .declaredValueParameter symbol]
  | _, typeParameterNode _ _ symbol .. => [.symbol .declaredTypeParameter symbol]
  | _, _ => []

/-- The marks of some nodes. -/
def marksOf (nodes : List Node) : List Mark :=
  nodes.flatMap fun node => node.tree.marks

/-- The marks of a tree and of everything inside it. -/
def allMarks (tree : Tree c) : List Mark :=
  marksOf tree.nodes

/-- The marks of a tree that stands for itself. -/
def ownedMarks (tree : Tree c) : List Mark :=
  tree.items.map .declaration ++ tree.allMarks

/-- The symbols of a tree in all places, those of the expressions that its
annotations stand for included. -/
def symbols (tree : Tree c) : List Symbol :=
  (marksOf tree.shown).filterMap Mark.symbol?

/-- The declarations of a tree that stands for itself, without the storage of
properties. -/
def declared (tree : Tree c) : List (Tree .declaration) :=
  tree.ownedMarks.filterMap Mark.declaration?

/-- The declarations inside a tree that store properties. -/
def backingFields (tree : Tree c) : List (Tree .declaration) :=
  tree.allMarks.filterMap Mark.backingField?

/-! ## Marks of parts -/

/-- The marks of the trees of which a tree consists. -/
def partMarks (parts : List Node) : List Mark :=
  parts.flatMap fun part => part.tree.allMarks

theorem allMarks_eq (tree : Tree c) : tree.allMarks = tree.marks ++ partMarks tree.parts := by
  unfold allMarks marksOf nodes above
  rw [inside_eq, List.flatMap_cons, List.flatMap_assoc]
  rfl

theorem mem_allMarks_iff {mark : Mark} {tree : Tree c} :
    mark ∈ tree.allMarks ↔
      mark ∈ tree.marks ∨ ∃ part ∈ tree.parts, mark ∈ part.tree.allMarks := by
  rw [allMarks_eq, List.mem_append, partMarks, List.mem_flatMap]

/-- The marks of what is inside a tree are marks of the tree. -/
theorem mem_allMarks_of_mem_nodes {mark : Mark} {tree : Tree c} {node : Node}
    (inside : node ∈ tree.nodes) (marked : mark ∈ node.tree.allMarks) :
    mark ∈ tree.allMarks := by
  rcases List.mem_flatMap.mp marked with ⟨inner, innerInside, marked⟩
  exact List.mem_flatMap.mpr ⟨inner, mem_nodes_trans inside innerInside, marked⟩

/-! ## Marks of annotations -/

/-- The expression of an annotation is of the unit type, and else the annotation. -/
theorem allMarks_callExpression (call : Tree .call) :
    call.callExpression.allMarks =
      .symbol .classifier (Builtin.symbolOf 2 "Unit" .klass) :: call.allMarks :=
  rfl

/-- The marks that are shown of a tree are its own, or that of the unit type. -/
theorem mem_marksOf_shown {mark : Mark} {tree : Tree c} (shown : mark ∈ marksOf tree.shown) :
    mark ∈ tree.allMarks ∨ mark = .symbol .classifier (Builtin.symbolOf 2 "Unit" .klass) := by
  rcases List.mem_flatMap.mp shown with ⟨node, shown, marked⟩
  rcases mem_shown_iff.mp shown with inside | ⟨holder, isHolder, call, annotates, inside⟩
  · exact .inl (List.mem_flatMap.mpr ⟨node, inside, marked⟩)
  · have within : mark ∈ call.callExpression.allMarks :=
      List.mem_flatMap.mpr ⟨node, inside, marked⟩
    rw [allMarks_callExpression, List.mem_cons] at within
    refine within.symm.imp_left fun within => ?_
    exact mem_allMarks_of_mem_nodes isHolder
      (mem_allMarks_of_mem_nodes (mem_nodes_of_mem_annotations annotates) within)

/-- A symbol that is marked in a tree is a symbol of the tree. -/
theorem mem_symbols_of_marked {requirement : Requirement} {symbol : Symbol} {tree : Tree c}
    (marked : .symbol requirement symbol ∈ tree.allMarks) : symbol ∈ tree.symbols := by
  rw [symbols, shown, marksOf, List.flatMap_append]
  exact List.mem_filterMap.mpr ⟨_, List.mem_append_left _ marked, rfl⟩

/-- A symbol in the expression of an annotation inside a tree is a symbol of the tree. -/
theorem mem_symbols_of_annotates {requirement : Requirement} {symbol : Symbol} {tree : Tree c}
    {holder : Node} {call : Tree .call} (isHolder : holder ∈ tree.nodes)
    (annotates : call ∈ holder.tree.annotations)
    (marked : .symbol requirement symbol ∈ call.callExpression.allMarks) :
    symbol ∈ tree.symbols := by
  rcases List.mem_flatMap.mp marked with ⟨node, inside, marked⟩
  have shown : node ∈ tree.shown :=
    mem_shown_iff.mpr (.inr ⟨holder, isHolder, call, annotates, inside⟩)
  exact List.mem_filterMap.mpr ⟨_, List.mem_flatMap.mpr ⟨node, shown, marked⟩, rfl⟩

/-! ## Declarations are marked -/

/-- The declarations that a tree is or has inside it, those that store properties
included. -/
def declarationNodes (tree : Tree c) : List (Tree .declaration) :=
  tree.nodes.filterMap Node.asDeclaration?

theorem declarationNodes_eq (tree : Tree c) :
    tree.declarationNodes =
      (Node.asDeclaration? ⟨tree⟩).toList ++
        tree.parts.flatMap fun part => part.tree.declarationNodes := by
  unfold declarationNodes nodes above
  rw [inside_eq, List.filterMap_cons, List.filterMap_flatMap]
  cases Node.asDeclaration? ⟨tree⟩ <;> rfl

theorem held_declarations (declarations : List (Tree .declaration)) :
    (declarations.map Mark.declaration).filterMap Mark.held? = declarations := by
  rw [List.filterMap_map]
  exact List.filterMap_some

theorem held_backingFields (declarations : List (Tree .declaration)) :
    (declarations.map Mark.backingField).filterMap Mark.held? = declarations := by
  rw [List.filterMap_map]
  exact List.filterMap_some

theorem held_symbols (requirement : Requirement) (symbols : List Symbol) :
    (symbols.map (Mark.symbol requirement)).filterMap Mark.held? = [] := by
  rw [List.filterMap_map, List.filterMap_eq_nil_iff]
  exact fun _ _ => rfl

/-- The declarations that make up the parts of a tree make up the tree or are
marked. -/
theorem items_of_parts (tree : Tree c) :
    (Node.asDeclaration? ⟨tree⟩).toList ++ tree.parts.flatMap (fun part => part.tree.items) =
      tree.items ++ tree.marks.filterMap Mark.held? := by
  cases tree
  case nil =>
    rw [items_nil]
    rfl
  case cons head tail =>
    rw [items_cons]
    exact (List.append_assoc head.items tail.items []).symm
  case some =>
    rw [items_some]
    rfl
  case declarationNode => exact congrArg (_ :: ·) (flatMap_items_eq_nil rfl)
  case declarationStatement => rfl
  case catchNode => rfl
  case callNode => exact (flatMap_items_eq_nil rfl).trans (held_symbols _ _).symm
  case fieldAccessNode => exact (flatMap_items_eq_nil rfl).trans (held_symbols _ _).symm
  case functionDeclarator => exact (flatMap_items_eq_nil rfl).trans (held_symbols _ _).symm
  case propertyReference field getter setter typeArguments =>
    cases field <;> cases getter <;> cases setter <;> exact flatMap_items_eq_nil rfl
  case expressionNode range type operation =>
    cases operation <;> exact flatMap_items_eq_nil rfl
  case classDeclarator symbol head members thisReceiver typeParameters superTypes =>
    have rest : [(⟨thisReceiver⟩ : Node), ⟨typeParameters⟩, ⟨superTypes⟩].flatMap
        (fun part => part.tree.items) = [] := flatMap_items_eq_nil rfl
    refine (congrArg (members.items ++ ·) rest).trans ?_
    exact (List.append_nil _).trans (held_declarations _).symm
  case enumEntry symbol name entryClass initializer =>
    have rest : [(⟨initializer⟩ : Node)].flatMap (fun part => part.tree.items) = [] :=
      flatMap_items_eq_nil rfl
    refine (congrArg (entryClass.items ++ ·) rest).trans ?_
    exact (List.append_nil _).trans (held_declarations _).symm
  case property head backingField getter setter =>
    have marked : (backingField.items.map Mark.backingField ++
        getter.items.map Mark.declaration ++
          setter.items.map Mark.declaration).filterMap Mark.held? =
        backingField.items ++ (getter.items ++ (setter.items ++ [])) := by
      rw [List.filterMap_append, List.filterMap_append, held_backingFields,
        held_declarations, held_declarations, List.append_nil, List.append_assoc]
    exact marked.symm
  all_goals exact flatMap_items_eq_nil rfl

/-- The declarations inside a tree make up the tree or are marked. -/
theorem declarationNodes_perm (tree : Tree c) :
    tree.declarationNodes.Perm (tree.items ++ tree.allMarks.filterMap Mark.held?) := by
  induction tree using parts_induction with
  | node tree inductionHypothesis =>
      rw [declarationNodes_eq, allMarks_eq, partMarks, List.filterMap_append,
        List.filterMap_flatMap, ← List.append_assoc, ← items_of_parts, List.append_assoc]
      refine List.Perm.append_left _ ?_
      refine (List.Perm.flatMap_left _ inductionHypothesis).trans ?_
      exact (List.flatMap_append_perm _ _ _).symm

/-- The declarations among some marks either store properties or do not. -/
theorem held_perm (marks : List Mark) :
    (marks.filterMap Mark.held?).Perm
      (marks.filterMap Mark.declaration? ++ marks.filterMap Mark.backingField?) := by
  induction marks with
  | nil => exact .nil
  | cons mark marks inductionHypothesis =>
      cases mark with
      | declaration found => exact inductionHypothesis.cons found
      | backingField found => exact (inductionHypothesis.cons found).trans List.perm_middle.symm
      | _ => exact inductionHypothesis

/-- The declarations of a tree are those that it declares and the storage of
properties. -/
theorem declared_perm (tree : Tree c) :
    tree.declarationNodes.Perm (tree.declared ++ tree.backingFields) := by
  have own : (tree.items.map Mark.declaration).filterMap Mark.declaration? = tree.items := by
    rw [List.filterMap_map]
    exact List.filterMap_some
  refine (declarationNodes_perm tree).trans ?_
  refine ((held_perm tree.allMarks).append_left tree.items).trans ?_
  rw [declared, ownedMarks, List.filterMap_append, own, backingFields, List.append_assoc]

/-- What a tree declares is inside it. -/
theorem mem_nodes_of_mem_declared {tree : Tree c} {declaration : Tree .declaration}
    (among : declaration ∈ tree.declared) : ⟨declaration⟩ ∈ tree.nodes := by
  have inside : declaration ∈ tree.declarationNodes :=
    tree.declared_perm.mem_iff.mpr (List.mem_append_left _ among)
  rcases List.mem_filterMap.mp inside with ⟨node, nodeInside, same⟩
  exact Node.eq_of_asDeclaration? same ▸ nodeInside

end Tree

/-! ## Tallies -/

/-- Whether a mark is a declaration with a symbol that counts. -/
def Mark.declares (counted : UInt64 → Bool) : Mark → Bool
  | .declaration found => found.declarator.declaredSymbol?.any fun symbol => counted symbol.id
  | _ => false

/-- Marks that have a property, and a number of declarations among them. -/
structure Tally (holds : Mark → Prop) (counted : UInt64 → Bool) (marks : List Mark)
    (number : Nat) : Prop where
  holds : ∀ mark ∈ marks, holds mark
  number : marks.countP (·.declares counted) = number

namespace Tally

variable {c : Category} {holds : Mark → Prop} {counted : UInt64 → Bool} {a b : Nat}
  {marks others : List Mark}

theorem nil : Tally holds counted [] 0 :=
  ⟨List.forall_mem_nil _, rfl⟩

theorem append (first : Tally holds counted marks a) (second : Tally holds counted others b) :
    Tally holds counted (marks ++ others) (a + b) where
  holds := fun mark among =>
    (List.mem_append.mp among).elim (first.holds mark) (second.holds mark)
  number := by rw [List.countP_append, first.number, second.number]

/-- A tally of some marks after others counts them apart. -/
theorem split (both : Tally holds counted (marks ++ others) a) :
    ∃ first second, Tally holds counted marks first ∧ Tally holds counted others second ∧
      first + second = a := by
  refine ⟨_, _, ⟨fun mark among => ?_, rfl⟩, ⟨fun mark among => ?_, rfl⟩, ?_⟩
  · exact both.holds mark (List.mem_append_left others among)
  · exact both.holds mark (List.mem_append_right marks among)
  · rw [← List.countP_append, both.number]

theorem cast (tally : Tally holds counted marks a) (same : a = b) :
    Tally holds counted marks b :=
  same ▸ tally

theorem symbol {requirement : Requirement} {symbol : Symbol}
    (known : holds (.symbol requirement symbol)) :
    Tally holds counted [.symbol requirement symbol] 0 :=
  ⟨List.forall_mem_singleton.mpr known, rfl⟩

theorem symbols {requirement : Requirement} {symbols : List Symbol}
    (known : ∀ symbol ∈ symbols, holds (.symbol requirement symbol)) :
    Tally holds counted (symbols.map (.symbol requirement)) 0 where
  holds := List.forall_mem_map.mpr known
  number := by
    rw [List.countP_eq_zero]
    exact List.forall_mem_map.mpr fun _ _ => Bool.false_ne_true

theorem jump {jump : Jump} (known : holds (.jump jump)) :
    Tally holds counted [.jump jump] 0 :=
  ⟨List.forall_mem_singleton.mpr known, rfl⟩

theorem loop {node : Nat} {loop : LoopNode} (known : holds (.loop node loop)) :
    Tally holds counted [.loop node loop] 0 :=
  ⟨List.forall_mem_singleton.mpr known, rfl⟩

theorem declaration {declaration : Tree .declaration}
    (known : holds (.declaration declaration)) :
    Tally holds counted [.declaration declaration]
      (declaration.declarator.declaredSymbol?.any fun symbol => counted symbol.id).toNat where
  holds := List.forall_mem_singleton.mpr known
  number := by
    rw [List.countP_singleton, Mark.declares]
    cases declaration.declarator.declaredSymbol?.any fun symbol => counted symbol.id <;> rfl

theorem backingField {declaration : Tree .declaration}
    (known : holds (.backingField declaration)) :
    Tally holds counted [.backingField declaration] 0 :=
  ⟨List.forall_mem_singleton.mpr known, rfl⟩

/-! ### Trees -/

theorem noPart : Tally holds counted (Tree.partMarks []) 0 :=
  nil

theorem part {tree : Tree c} {parts : List Node}
    (first : Tally holds counted tree.allMarks a)
    (rest : Tally holds counted (Tree.partMarks parts) b) :
    Tally holds counted (Tree.partMarks (⟨tree⟩ :: parts)) (a + b) :=
  first.append rest

theorem tree {tree : Tree c} (own : Tally holds counted tree.marks a)
    (parts : Tally holds counted (Tree.partMarks tree.parts) b) :
    Tally holds counted tree.allMarks (a + b) :=
  Tree.allMarks_eq tree ▸ own.append parts

end Tally

end IrLink
