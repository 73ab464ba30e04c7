import Mathlib.Data.List.Nodup
import Mathlib.Logic.Relation
import IrLink.Proofs.Tree.Marks

/-!
# Links back to what holds a declaration

A declaration has a place in a tree: it is in the members of a class, the body
of an enum entry, the storage or an accessor of a property, or it is local to a
statement or to a clause that catches (`Tree.places`).  It names the declaration
that holds it by its number, and an accessor also names its property so.

`Tree.LinksBack` says of one node that what it holds is linked back to it.  If
that is so everywhere inside a tree, and numbers are given once only, then every
link leads to the declaration that holds the other, no chain of links comes back
to its beginning, and every chain ends at the tree itself or at a local
declaration (`Tree.WellLinked`).
-/

namespace IrLink

variable {c : Category} {tree : Tree c} {declaration child holder : Tree .declaration}

namespace Tree

/-! ## Places of declarations -/

/-- What a declaration belongs to. -/
def parent : Tree .declaration → Parent
  | declarationNode _ _ _ parent _ _ => parent

/-- The property that a function serves as an accessor. -/
def served? : Tree .declarator → Option Nat
  | functionDeclarator _ _ served _ _ => served
  | _ => .none

/-- The declarations that a declarator holds, accessors apart: the members of a
class, the body of an enum entry, and the storage of a property. -/
def owned : Tree .declarator → List (Tree .declaration)
  | classDeclarator _ _ members .. => members.toList
  | enumEntry _ _ entryClass _ => entryClass.toOption.toList
  | property _ backingField _ _ => backingField.toOption.toList
  | _ => []

/-- The getter and the setter that a declarator holds. -/
def accessors : Tree .declarator → List (Tree .declaration)
  | property _ _ getter setter => getter.toOption.toList ++ setter.toOption.toList
  | _ => []

/-- All declarations that a declarator holds. -/
def held (declarator : Tree .declarator) : List (Tree .declaration) :=
  declarator.owned ++ declarator.accessors

/-- The declaration that a node holds as a local one. -/
def local? : {c : Category} → Tree c → Option (Tree .declaration)
  | _, declarationStatement declaration => .some declaration
  | _, catchNode _ parameter _ => .some parameter
  | _, _ => .none

/-- The local declarations inside a tree. -/
def locals (tree : Tree c) : List (Tree .declaration) :=
  tree.nodes.filterMap fun node => node.tree.local?

/-- The declarations of which the holder is outside a tree: a declaration is held
elsewhere, and a declarator holds declarations for the one that it declares. -/
def outermost : {c : Category} → Tree c → List (Tree .declaration)
  | .declaration, declaration => [declaration]
  | .declarator, declarator => declarator.held
  | .list _, trees => trees.toList.flatMap outermost
  | .option _, tree => tree.toOption.toList.flatMap outermost
  | _, _ => []

/-! ## Every declaration has a place -/

@[simp]
theorem outermost_cons (head : Tree c) (tail : Tree (.list c)) :
    (cons head tail).outermost = head.outermost ++ tail.outermost := by
  rw [outermost, toList, List.flatMap_cons, ← outermost]

@[simp]
theorem outermost_some (value : Tree c) : (some value).outermost = value.outermost := by
  rw [outermost, toOption, Option.toList_some, List.flatMap_singleton]

@[simp]
theorem outermost_list (declarations : Tree (.list .declaration)) :
    declarations.outermost = declarations.toList := by
  simp [outermost]

@[simp]
theorem outermost_option (declaration : Tree (.option .declaration)) :
    declaration.outermost = declaration.toOption.toList := by
  simp [outermost]

end Tree

/-- Whether trees of a category can hold declarations for something outside. -/
def Category.holdsForOutside : Category → Bool
  | .declaration => true
  | .declarator => true
  | .list c => c.holdsForOutside
  | .option c => c.holdsForOutside
  | _ => false

namespace Tree

/-- Trees of most categories hold nothing for the outside. -/
theorem outermost_eq_nil :
    {c : Category} → c.holdsForOutside = false → (tree : Tree c) → tree.outermost = []
  | .list c, without, _ =>
    List.flatMap_eq_nil_iff.mpr fun tree _ => outermost_eq_nil (c := c) without tree
  | .option c, without, _ =>
    List.flatMap_eq_nil_iff.mpr fun tree _ => outermost_eq_nil (c := c) without tree
  | .type, _, _ | .typeArgument, _, _ | .call, _, _ | .access, _, _ | .fieldAccess, _, _
  | .expression, _, _ | .operation, _, _ | .varargElement, _, _ | .statement, _, _
  | .branch, _, _ | .catchClause, _, _ | .body, _, _
  | .signature, _, _ | .function, _, _ | .field, _, _ | .accessor, _, _
  | .backingField, _, _ | .valueParameter, _, _ | .typeParameter, _, _ => rfl

/-- What a part holds for the outside has a place in the tree: it is still held for
the outside, it is local, or it is held by the declaration that the tree is. -/
theorem place_of_part {part : Node} (among : part ∈ tree.parts)
    (outer : declaration ∈ part.tree.outermost) :
    declaration ∈ tree.outermost ∨ tree.local? = .some declaration ∨
      ∃ holder, Node.asDeclaration? ⟨tree⟩ = .some holder ∧
        declaration ∈ holder.declarator.held := by
  have elsewhere {d : Category} {other : Tree d} (without : d.holdsForOutside = false)
      (outer : declaration ∈ other.outermost) : False := by
    rw [outermost_eq_nil without other] at outer
    cases outer
  have nowhere (without : (tree.parts.any fun part => part.category.holdsForOutside) = false) :
      False := by
    rw [List.any_eq_false] at without
    exact elsewhere (Bool.eq_false_iff.mpr (without part among)) outer
  cases tree
  case cons head tail =>
    rcases List.mem_pair.mp among with rfl | rfl
    all_goals simp [outer]
  case some value =>
    cases List.mem_singleton.mp among
    simp [outer]
  case declarationStatement held =>
    cases List.mem_singleton.mp among
    exact .inr (.inl (congrArg Option.some (List.mem_singleton.mp outer).symm))
  case catchNode range parameter result =>
    rcases List.mem_pair.mp among with rfl | rfl
    · exact .inr (.inl (congrArg Option.some (List.mem_singleton.mp outer).symm))
    · exact (elsewhere rfl outer).elim
  case declarationNode node range origin parent declarator annotations =>
    rcases List.mem_pair.mp among with rfl | rfl
    · exact .inr (.inr ⟨_, rfl, outer⟩)
    · exact (elsewhere rfl outer).elim
  case classDeclarator symbol head members thisReceiver typeParameters superTypes =>
    rcases List.mem_cons.mp among with rfl | among
    · left
      rw [outermost_list] at outer
      exact List.mem_append_left _ outer
    · rcases List.mem_cons.mp among with rfl | among
      · exact (elsewhere rfl outer).elim
      · rcases List.mem_pair.mp among with rfl | rfl
        all_goals exact (elsewhere rfl outer).elim
  case enumEntry symbol name entryClass initializer =>
    rcases List.mem_pair.mp among with rfl | rfl
    · left
      rw [outermost_option] at outer
      exact List.mem_append_left _ outer
    · exact (elsewhere rfl outer).elim
  case property head backingField getter setter =>
    left
    rcases List.mem_cons.mp among with rfl | among
    · rw [outermost_option] at outer
      exact List.mem_append_left _ outer
    · refine List.mem_append_right _ ?_
      rcases List.mem_pair.mp among with rfl | rfl
      all_goals rw [outermost_option] at outer
      · exact List.mem_append_left _ outer
      · exact List.mem_append_right _ outer
  all_goals exact (nowhere rfl).elim

theorem mem_declarationNodes_iff :
    declaration ∈ tree.declarationNodes ↔ ⟨declaration⟩ ∈ tree.nodes := by
  refine List.mem_filterMap.trans ⟨?_, fun inside => ⟨_, inside, rfl⟩⟩
  rintro ⟨node, inside, same⟩
  exact Node.eq_of_asDeclaration? same ▸ inside

theorem mem_locals_iff :
    declaration ∈ tree.locals ↔
      ∃ node ∈ tree.nodes, node.tree.local? = .some declaration :=
  List.mem_filterMap

/-- Every declaration inside a tree is held for the outside, local, or held by
another declaration inside. -/
theorem places (tree : Tree c) : ∀ declaration ∈ tree.declarationNodes,
    declaration ∈ tree.outermost ∨ declaration ∈ tree.locals ∨
      ∃ holder ∈ tree.declarationNodes, declaration ∈ holder.declarator.held := by
  induction tree using parts_induction with
  | node tree inductionHypothesis =>
    intro declaration inside
    rw [mem_declarationNodes_iff] at inside
    rcases mem_nodes_iff.mp inside with same | ⟨part, among, inside⟩
    · cases same
      exact .inl (List.mem_singleton_self declaration)
    · have goesUp {node : Node} (inside : node ∈ part.tree.nodes) : node ∈ tree.nodes :=
        mem_nodes_iff.mpr (.inr ⟨part, among, inside⟩)
      have place := inductionHypothesis part among declaration (mem_declarationNodes_iff.mpr inside)
      rcases place with outer | isLocal | ⟨holder, holderInside, held⟩
      · rcases place_of_part among outer with outer | own | ⟨holder, same, held⟩
        · exact .inl outer
        · exact .inr (.inl (mem_locals_iff.mpr ⟨⟨tree⟩, mem_nodes_iff.mpr (.inl rfl), own⟩))
        · refine .inr (.inr ⟨holder, mem_declarationNodes_iff.mpr ?_, held⟩)
          exact mem_nodes_iff.mpr (.inl (Node.eq_of_asDeclaration? same).symm)
      · rcases mem_locals_iff.mp isLocal with ⟨node, nodeInside, own⟩
        exact .inr (.inl (mem_locals_iff.mpr ⟨node, goesUp nodeInside, own⟩))
      · rw [mem_declarationNodes_iff] at holderInside
        exact .inr (.inr ⟨holder, mem_declarationNodes_iff.mpr (goesUp holderInside), held⟩)

/-! ## Links -/

/-- A declaration belongs to a parent, and serves a property if one is given. -/
def BelongsTo (declaration : Tree .declaration) (parent : Parent) (property : Option Nat) :
    Prop :=
  declaration.parent = parent ∧ declaration.declarator.served? = property

/-- What a declarator holds is linked back to a declaration of the given number. -/
structure HeldBy (declarator : Tree .declarator) (number : Nat) : Prop where
  owned : ∀ declaration ∈ declarator.owned,
    declaration.BelongsTo (.declaration number) .none
  accessors : ∀ declaration ∈ declarator.accessors,
    declaration.BelongsTo (.declaration number) (.some number)

/-- What a node holds is linked back to it.  Local declarations are linked to
nothing. -/
def LinksBack : {c : Category} → Tree c → Prop
  | _, declarationNode number _ _ _ declarator _ => declarator.HeldBy number
  | _, declarationStatement declaration => declaration.BelongsTo .none .none
  | _, catchNode _ parameter _ => parameter.BelongsTo .none .none
  | _, _ => True

/-- Everything inside a tree links back what it holds. -/
def LinkedBack (tree : Tree c) : Prop :=
  ∀ node ∈ tree.nodes, node.tree.LinksBack

theorem LinkedBack.node (own : tree.LinksBack)
    (parts : ∀ part ∈ tree.parts, part.tree.LinkedBack) : tree.LinkedBack := by
  intro node inside
  rcases mem_nodes_iff.mp inside with rfl | ⟨part, among, inside⟩
  · exact own
  · exact parts part among node inside

theorem LinkedBack.heldBy (linked : tree.LinkedBack)
    (inside : holder ∈ tree.declarationNodes) : holder.declarator.HeldBy holder.node := by
  have own := linked _ (mem_declarationNodes_iff.mp inside)
  cases holder
  exact own

theorem LinkedBack.local (linked : tree.LinkedBack) (isLocal : declaration ∈ tree.locals) :
    declaration.BelongsTo .none .none := by
  rcases mem_locals_iff.mp isLocal with ⟨⟨node⟩, inside, own⟩
  have links := linked _ inside
  cases node
  case declarationStatement =>
    cases own
    exact links
  case catchNode =>
    cases own
    exact links
  all_goals cases own

/-! ## Chains of links -/

/-- A declaration inside a tree that is held there names the number of another one. -/
structure Up (tree : Tree c) (child holder : Tree .declaration) : Prop where
  inside : child ∈ tree.declarationNodes
  inner : child ∉ tree.outermost
  above : holder ∈ tree.declarationNodes
  names : child.parent = .declaration holder.node

/-- What is right about the links inside a tree. -/
structure WellLinked (tree : Tree c) : Prop where
  /-- What a declaration holds is linked to it, accessors apart. -/
  owned : ∀ holder ∈ tree.declarationNodes, ∀ declaration ∈ holder.declarator.owned,
    declaration.BelongsTo (.declaration holder.node) .none
  /-- An accessor is linked to its property twice. -/
  accessors : ∀ holder ∈ tree.declarationNodes, ∀ declaration ∈ holder.declarator.accessors,
    declaration.BelongsTo (.declaration holder.node) (.some holder.node)
  locals : ∀ declaration ∈ tree.locals, declaration.BelongsTo .none .none
  places : ∀ declaration ∈ tree.declarationNodes,
    declaration ∈ tree.outermost ∨ declaration ∈ tree.locals ∨
      ∃ holder ∈ tree.declarationNodes, declaration ∈ holder.declarator.held
  /-- A number is that of one declaration only. -/
  identity : ∀ first ∈ tree.declarationNodes, ∀ second ∈ tree.declarationNodes,
    first.node = second.node → first = second
  /-- A link leads to the declaration that holds the other. -/
  holder : ∀ child holder, tree.Up child holder → child ∈ holder.declarator.held
  /-- A link leads to a declaration of the tree. -/
  found : ∀ declaration ∈ tree.declarationNodes, declaration ∉ tree.outermost →
    ∀ number, declaration.parent = .declaration number →
      ∃ holder, tree.Up declaration holder ∧ holder.node = number
  /-- Only accessors serve a property, and it is the one that holds them. -/
  served : ∀ declaration ∈ tree.declarationNodes, declaration ∉ tree.outermost →
    ∀ number, declaration.declarator.served? = .some number →
      ∃ holder, tree.Up declaration holder ∧ holder.node = number ∧
        declaration ∈ holder.declarator.accessors
  acyclic : ∀ declaration, ¬ Relation.TransGen tree.Up declaration declaration
  ends : ∀ declaration ∈ tree.declarationNodes, ∃ top,
    Relation.ReflTransGen tree.Up declaration top ∧
      (top ∈ tree.outermost ∨ top ∈ tree.locals)

/-- The numbers of declarations are those of the declarations inside. -/
theorem declarations_eq (tree : Tree c) :
    tree.declarations = tree.declarationNodes.map Tree.node := by
  unfold declarations declarationNodes
  rw [List.map_filterMap]
  refine List.filterMap_congr fun ⟨node⟩ _ => ?_
  cases node <;> rfl

theorem mem_nodes_of_mem_held {declarator : Tree .declarator}
    (held : declaration ∈ declarator.held) : ⟨declaration⟩ ∈ declarator.nodes := by
  have part {part : Node} (among : part ∈ declarator.parts)
      (inside : ⟨declaration⟩ ∈ part.tree.nodes) : ⟨declaration⟩ ∈ declarator.nodes :=
    mem_nodes_iff.mpr (.inr ⟨part, among, inside⟩)
  cases declarator
  case classDeclarator =>
    rcases List.mem_append.mp held with owned | nothing
    · exact part (.head _) (mem_nodes_of_mem_toList owned)
    · cases nothing
  case enumEntry =>
    rcases List.mem_append.mp held with owned | nothing
    · exact part (.head _) (mem_nodes_of_mem_toOption owned)
    · cases nothing
  case property =>
    rcases List.mem_append.mp held with owned | accessor
    · exact part (.head _) (mem_nodes_of_mem_toOption owned)
    · rcases List.mem_append.mp accessor with getter | setter
      · exact part (.tail _ (.head _)) (mem_nodes_of_mem_toOption getter)
      · exact part (.tail _ (.tail _ (.head _))) (mem_nodes_of_mem_toOption setter)
  all_goals cases held

/-- How many declarations a tree is made of. -/
def weight (tree : Tree c) : Nat :=
  tree.declarationNodes.length

theorem weight_le_of_mem_nodes {node : Node} (inside : node ∈ tree.nodes) :
    node.tree.weight ≤ tree.weight := by
  induction tree using parts_induction with
  | node tree inductionHypothesis =>
    rcases mem_nodes_iff.mp inside with rfl | ⟨part, among, inside⟩
    · exact Nat.le_refl _
    · have within : part.tree.declarationNodes.Sublist
          (tree.parts.flatMap fun part => part.tree.declarationNodes) :=
        List.sublist_flatten_of_mem (List.mem_map.mpr ⟨part, among, rfl⟩)
      refine Nat.le_trans (inductionHypothesis part among inside) (List.Sublist.length_le ?_)
      rw [declarationNodes_eq tree]
      exact within.trans (List.sublist_append_right _ _)

/-- A declaration weighs more than what it holds. -/
theorem weight_lt_of_mem_held (held : child ∈ holder.declarator.held) :
    child.weight < holder.weight := by
  have inside : child.weight ≤ holder.declarator.weight :=
    weight_le_of_mem_nodes (mem_nodes_of_mem_held held)
  cases holder with
  | declarationNode number range origin parent declarator annotations =>
    have parts : (declarationNode number range origin parent declarator annotations).weight =
        (declarator.declarationNodes ++ (annotations.declarationNodes ++ [])).length + 1 :=
      congrArg List.length (declarationNodes_eq _)
    rw [List.length_append] at parts
    exact Nat.lt_of_le_of_lt inside (by rw [parts]; exact Nat.lt_succ_of_le (Nat.le_add_right _ _))

/-! ## What is right about links -/

namespace LinkedBack

/-- A declaration that is held for no outside is linked to what holds it. -/
theorem up (linked : tree.LinkedBack) (inside : child ∈ tree.declarationNodes)
    (inner : child ∉ tree.outermost) :
    child ∈ tree.locals ∨ ∃ holder, tree.Up child holder ∧ child ∈ holder.declarator.held := by
  rcases tree.places child inside with outer | isLocal | ⟨holder, above, held⟩
  · exact absurd outer inner
  · exact .inl isLocal
  · have heldBy := linked.heldBy above
    refine .inr ⟨holder, ⟨inside, inner, above, ?_⟩, held⟩
    exact (List.mem_append.mp held).elim (fun owned => (heldBy.owned child owned).1)
      fun accessor => (heldBy.accessors child accessor).1

/-- Where numbers are given once only, a link leads to what holds a declaration. -/
theorem mem_held_of_up (linked : tree.LinkedBack)
    (distinct : (tree.declarationNodes.map Tree.node).Nodup) (up : tree.Up child holder) :
    child ∈ holder.declarator.held := by
  rcases linked.up up.inside up.inner with isLocal | ⟨other, otherUp, held⟩
  · cases up.names.symm.trans (linked.local isLocal).1
  · have same := Parent.declaration.inj (up.names.symm.trans otherUp.names)
    rwa [List.inj_on_of_nodup_map distinct up.above otherUp.above same]

/-- Linked declarations weigh more and more. -/
theorem weight_lt (linked : tree.LinkedBack)
    (distinct : (tree.declarationNodes.map Tree.node).Nodup)
    (chain : Relation.TransGen tree.Up child holder) : child.weight < holder.weight := by
  induction chain with
  | single up => exact weight_lt_of_mem_held (linked.mem_held_of_up distinct up)
  | tail _ up inductionHypothesis =>
    exact Nat.lt_trans inductionHypothesis
      (weight_lt_of_mem_held (linked.mem_held_of_up distinct up))

/-- Every chain of links ends. -/
theorem ends (linked : tree.LinkedBack) (inside : child ∈ tree.declarationNodes) :
    ∃ top, Relation.ReflTransGen tree.Up child top ∧
      (top ∈ tree.outermost ∨ top ∈ tree.locals) := by
  -- Linked declarations weigh more, and none weighs more than the tree.
  induction missing : tree.weight - child.weight using Nat.strongRecOn generalizing child with
  | _ missing inductionHypothesis =>
    by_cases outer : child ∈ tree.outermost
    · exact ⟨child, .refl, .inl outer⟩
    · rcases linked.up inside outer with isLocal | ⟨holder, up, held⟩
      · exact ⟨child, .refl, .inr isLocal⟩
      · have heavier := weight_lt_of_mem_held held
        have bounded : holder.weight ≤ tree.weight :=
          weight_le_of_mem_nodes (mem_declarationNodes_iff.mp up.above)
        rcases inductionHypothesis _ (by omega) up.above rfl with ⟨top, chain, atEnd⟩
        exact ⟨top, .head up chain, atEnd⟩

/-- Where everything is linked back and numbers are given once only, links are right. -/
theorem wellLinked (linked : tree.LinkedBack) (distinct : tree.declarations.Nodup) :
    tree.WellLinked := by
  rw [declarations_eq] at distinct
  exact {
    owned := fun holder above => (linked.heldBy above).owned
    accessors := fun holder above => (linked.heldBy above).accessors
    locals := fun declaration => linked.local
    places := tree.places
    identity := fun first firstInside second secondInside =>
      List.inj_on_of_nodup_map distinct firstInside secondInside
    holder := fun child holder => linked.mem_held_of_up distinct
    found := by
      intro declaration inside inner number names
      rcases linked.up inside inner with isLocal | ⟨holder, up, -⟩
      · cases names.symm.trans (linked.local isLocal).1
      · exact ⟨holder, up, Parent.declaration.inj (up.names.symm.trans names)⟩
    served := by
      intro declaration inside inner number serves
      rcases linked.up inside inner with isLocal | ⟨holder, up, held⟩
      · cases serves.symm.trans (linked.local isLocal).2
      · have heldBy := linked.heldBy up.above
        rcases List.mem_append.mp held with owned | accessor
        · cases serves.symm.trans (heldBy.owned declaration owned).2
        · have same := (heldBy.accessors declaration accessor).2.symm.trans serves
          exact ⟨holder, up, Option.some.inj same, accessor⟩
    acyclic := fun declaration chain =>
      Nat.lt_irrefl _ (linked.weight_lt distinct chain)
    ends := fun declaration => linked.ends }

end LinkedBack

end Tree

end IrLink
