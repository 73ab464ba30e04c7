import IrLink.Tree.Annotations

/-!
# What trees consist of

`Tree.parts` lists the trees of which a tree consists, and `Tree.inside` is what
these are and hold.  An argument about everything inside a tree goes by
`Tree.parts_induction` from the parts of a tree to the tree.

`Tree.items` are the declarations that a tree is: a declaration is itself, and
lists and optional parts are what they list or hold.
-/

namespace IrLink

/-- Whether a tree of a category is a declaration or is made up of them. -/
def Category.ofDeclarations : Category → Bool
  | .declaration => true
  | .list c => c.ofDeclarations
  | .option c => c.ofDeclarations
  | _ => false

namespace Tree

variable {c : Category}

/-- The trees of which a tree consists. -/
def parts : {c : Category} → Tree c → List Node
  | _, cons head tail => [⟨head⟩, ⟨tail⟩]
  | _, some value => [⟨value⟩]
  | _, simpleType _ _ arguments annotations => [⟨arguments⟩, ⟨annotations⟩]
  | _, dynamicType _ annotations => [⟨annotations⟩]
  | _, errorType _ annotations => [⟨annotations⟩]
  | _, projection _ type => [⟨type⟩]
  | _, callNode _ _ _ access => [⟨access⟩]
  | _, accessNode valueArguments typeArguments dispatchReceiver extensionReceiver =>
      [⟨valueArguments⟩, ⟨typeArguments⟩, ⟨dispatchReceiver⟩, ⟨extensionReceiver⟩]
  | _, fieldAccessNode _ _ receiver => [⟨receiver⟩]
  | _, expressionNode _ type operation => [⟨type⟩, ⟨operation⟩]
  | _, block _ statements => [⟨statements⟩]
  | _, callOperation call => [⟨call⟩]
  | _, classReference _ type => [⟨type⟩]
  | _, composite statements => [⟨statements⟩]
  | _, delegatingConstructorCall _ access => [⟨access⟩]
  | _, enumConstructorCall _ access => [⟨access⟩]
  | _, functionReference _ typeArguments => [⟨typeArguments⟩]
  | _, getClass argument => [⟨argument⟩]
  | _, getField access => [⟨access⟩]
  | _, propertyReference _ _ _ typeArguments => [⟨typeArguments⟩]
  | _, returnFrom _ value => [⟨value⟩]
  | _, setField access value => [⟨access⟩, ⟨value⟩]
  | _, setVariable _ value => [⟨value⟩]
  | _, stringConcat arguments => [⟨arguments⟩]
  | _, throwValue value => [⟨value⟩]
  | _, tryCatch result catches finalizer => [⟨result⟩, ⟨catches⟩, ⟨finalizer⟩]
  | _, typeOperation _ operand _ argument => [⟨operand⟩, ⟨argument⟩]
  | _, vararg elementType elements => [⟨elementType⟩, ⟨elements⟩]
  | _, when branches => [⟨branches⟩]
  | _, loop _ _ _ _ body condition => [⟨body⟩, ⟨condition⟩]
  | _, plainElement expression => [⟨expression⟩]
  | _, spreadElement _ expression => [⟨expression⟩]
  | _, bodyStatement body => [⟨body⟩]
  | _, branchStatement branch => [⟨branch⟩]
  | _, catchStatement clause => [⟨clause⟩]
  | _, declarationStatement declaration => [⟨declaration⟩]
  | _, expressionStatement expression => [⟨expression⟩]
  | _, branchNode _ condition result => [⟨condition⟩, ⟨result⟩]
  | _, catchNode _ parameter result => [⟨parameter⟩, ⟨result⟩]
  | _, blockBody _ statements => [⟨statements⟩]
  | _, declarationNode _ _ _ _ declarator annotations => [⟨declarator⟩, ⟨annotations⟩]
  | _, classDeclarator _ _ members thisReceiver typeParameters superTypes =>
      [⟨members⟩, ⟨thisReceiver⟩, ⟨typeParameters⟩, ⟨superTypes⟩]
  | _, functionDeclarator _ _ _ signature _ => [⟨signature⟩]
  | _, constructorDeclarator _ _ signature => [⟨signature⟩]
  | _, fieldDeclarator _ _ type initializer => [⟨type⟩, ⟨initializer⟩]
  | _, property _ backingField getter setter => [⟨backingField⟩, ⟨getter⟩, ⟨setter⟩]
  | _, variableDeclarator _ _ type initializer => [⟨type⟩, ⟨initializer⟩]
  | _, enumEntry _ _ entryClass initializer => [⟨entryClass⟩, ⟨initializer⟩]
  | _, anonymousInitializer _ body => [⟨body⟩]
  | _, signatureNode returnType body valueParameters dispatchReceiver extensionReceiver
      typeParameters =>
      [⟨returnType⟩, ⟨body⟩, ⟨valueParameters⟩, ⟨dispatchReceiver⟩, ⟨extensionReceiver⟩,
        ⟨typeParameters⟩]
  | _, valueParameterNode _ _ _ _ _ type varargElementType _ _ defaultValue =>
      [⟨type⟩, ⟨varargElementType⟩, ⟨defaultValue⟩]
  | _, typeParameterNode _ _ _ _ _ _ superTypes => [⟨superTypes⟩]
  | _, _ => []

/-- The declarations that a tree is made up of. -/
def items : {c : Category} → Tree c → List (Tree .declaration)
  | .declaration, declaration => [declaration]
  | .list _, trees => trees.toList.flatMap items
  | .option _, tree => tree.toOption.toList.flatMap items
  | _, _ => []

@[simp]
theorem items_nil : (nil : Tree (.list c)).items = [] := by
  rw [items, toList, List.flatMap_nil]

@[simp]
theorem items_cons (head : Tree c) (tail : Tree (.list c)) :
    (cons head tail).items = head.items ++ tail.items := by
  rw [items, toList, List.flatMap_cons, ← items]

@[simp]
theorem items_some (value : Tree c) : (some value).items = value.items := by
  rw [items, toOption, Option.toList_some, List.flatMap_singleton]

/-! ## Everything inside a tree -/

private theorem append_nested_two {α : Type} (a b : List α) : a ++ b = a ++ (b ++ []) := by
  simp

private theorem append_nested_three {α : Type} (a b c : List α) :
    a ++ b ++ c = a ++ (b ++ (c ++ [])) := by
  simp

private theorem append_nested_four {α : Type} (a b c d : List α) :
    a ++ b ++ c ++ d = a ++ (b ++ (c ++ (d ++ []))) := by
  simp

private theorem append_nested_six {α : Type} (a b c d e f : List α) :
    a ++ b ++ c ++ d ++ e ++ f = a ++ (b ++ (c ++ (d ++ (e ++ (f ++ []))))) := by
  simp

/-- Inside a tree are its parts, with everything inside them. -/
theorem inside_eq (tree : Tree c) :
    tree.inside = tree.parts.flatMap fun part => part.tree.nodes := by
  cases tree
  -- The sides differ only in how they are nested.
  all_goals
    first
    | rfl
    | exact (List.append_nil _).symm
    | exact append_nested_two _ _
    | exact append_nested_three _ _ _
    | exact append_nested_four _ _ _ _
    | exact append_nested_six _ _ _ _ _ _

theorem mem_nodes_iff {node : Node} {tree : Tree c} :
    node ∈ tree.nodes ↔ node = ⟨tree⟩ ∨ ∃ part ∈ tree.parts, node ∈ part.tree.nodes := by
  rw [nodes, above, List.mem_cons, inside_eq, List.mem_flatMap]

/-- What holds of a tree if it holds of its parts holds of every tree. -/
theorem parts_induction {P : {c : Category} → Tree c → Prop}
    (node : ∀ {c : Category} (tree : Tree c), (∀ part ∈ tree.parts, P part.tree) → P tree)
    (tree : Tree c) : P tree := by
  induction tree
  all_goals
    refine node _ ?_
    repeat refine List.forall_mem_cons.mpr ⟨by assumption, ?_⟩
    exact List.forall_mem_nil _

/-- What is inside something inside a tree is inside the tree. -/
theorem mem_nodes_trans {outer : Tree c} {middle inner : Node}
    (middleInside : middle ∈ outer.nodes) (innerInside : inner ∈ middle.tree.nodes) :
    inner ∈ outer.nodes := by
  induction outer using parts_induction with
  | node outer inductionHypothesis =>
      rw [mem_nodes_iff] at middleInside
      rcases middleInside with rfl | ⟨part, among, middleInside⟩
      · exact innerInside
      · exact mem_nodes_iff.mpr
          (.inr ⟨part, among, inductionHypothesis part among middleInside⟩)

/-- The trees of a list are inside it. -/
theorem mem_nodes_of_mem_toList {item : Tree c} :
    {trees : Tree (.list c)} → item ∈ trees.toList → ⟨item⟩ ∈ trees.nodes
  | nil, among => by
    rw [toList] at among
    cases among
  | cons _ _, among => by
    rw [toList] at among
    rcases List.mem_cons.mp among with rfl | among
    · exact mem_nodes_iff.mpr (.inr ⟨_, .head _, mem_nodes_iff.mpr (.inl rfl)⟩)
    · exact mem_nodes_iff.mpr (.inr ⟨_, .tail _ (.head _), mem_nodes_of_mem_toList among⟩)

theorem mem_nodes_of_mem_toOption {item : Tree c} :
    {tree : Tree (.option c)} → item ∈ tree.toOption.toList → ⟨item⟩ ∈ tree.nodes
  | some _, among => by
    cases List.mem_singleton.mp among
    exact mem_nodes_iff.mpr (.inr ⟨_, .head _, mem_nodes_iff.mpr (.inl rfl)⟩)

/-- The annotations of a tree are inside it. -/
theorem mem_nodes_of_mem_annotations {call : Tree .call} :
    {c : Category} → {tree : Tree c} → call ∈ tree.annotations → ⟨call⟩ ∈ tree.nodes
  | .type, .simpleType _ _ _ annotations, among =>
    mem_nodes_iff.mpr (.inr ⟨⟨annotations⟩, .tail _ (.head _), mem_nodes_of_mem_toList among⟩)
  | .type, .dynamicType _ annotations, among =>
    mem_nodes_iff.mpr (.inr ⟨⟨annotations⟩, .head _, mem_nodes_of_mem_toList among⟩)
  | .type, .errorType _ annotations, among =>
    mem_nodes_iff.mpr (.inr ⟨⟨annotations⟩, .head _, mem_nodes_of_mem_toList among⟩)
  | .declaration, .declarationNode _ _ _ _ _ annotations, among =>
    mem_nodes_iff.mpr (.inr ⟨⟨annotations⟩, .tail _ (.head _), mem_nodes_of_mem_toList among⟩)

/-! ## Declarations that make up a tree -/

/-- Most categories have nothing to do with declarations. -/
theorem items_eq_nil :
    {c : Category} → c.ofDeclarations = false → (tree : Tree c) → tree.items = []
  | .list c, without, _ =>
      List.flatMap_eq_nil_iff.mpr fun tree _ => items_eq_nil (c := c) without tree
  | .option c, without, _ =>
      List.flatMap_eq_nil_iff.mpr fun tree _ => items_eq_nil (c := c) without tree
  | .type, _, _ | .typeArgument, _, _ | .call, _, _ | .access, _, _ | .fieldAccess, _, _
  | .expression, _, _ | .operation, _, _ | .varargElement, _, _ | .statement, _, _
  | .branch, _, _ | .catchClause, _, _ | .body, _, _ | .declarator, _, _
  | .signature, _, _ | .function, _, _ | .field, _, _ | .accessor, _, _
  | .backingField, _, _ | .valueParameter, _, _ | .typeParameter, _, _ => rfl

/-- Some trees of categories that have nothing to do with declarations. -/
theorem flatMap_items_eq_nil {parts : List Node}
    (without : (parts.any fun part => part.category.ofDeclarations) = false) :
    parts.flatMap (fun part => part.tree.items) = [] := by
  rw [List.any_eq_false] at without
  refine List.flatMap_eq_nil_iff.mpr fun part among => ?_
  exact items_eq_nil (Bool.eq_false_iff.mpr (without part among)) part.tree

end Tree

end IrLink
