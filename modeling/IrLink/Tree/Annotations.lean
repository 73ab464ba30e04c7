import IrLink.Builtins
import IrLink.Tree.Parts

/-!
# Annotations of trees

Types and declarations bear annotations, and an annotation is a call.  Where an
expression is wanted, it is one without a place in a source file, and its value
is the unit value.  `Tree.shown` lists what is in a tree with the expressions
that its annotations stand for.
-/

namespace IrLink.Tree

variable {c : Category}

/-- The expression that an annotation stands for. -/
def callExpression (call : Tree .call) : Tree .expression :=
  expressionNode .zero Builtin.unitType (callOperation call)

/-- The annotations of a type or of a declaration. -/
def annotations : {c : Category} → Tree c → List (Tree .call)
  | .type, type => type.typeAnnotations.toList
  | .declaration, declarationNode _ _ _ _ _ annotations => annotations.toList
  | _, _ => []

/-- A tree and everything inside it, and the expressions that the annotations
there stand for. -/
def shown (tree : Tree c) : List Node :=
  tree.nodes ++ tree.nodes.flatMap fun node =>
    node.tree.annotations.flatMap fun call => call.callExpression.nodes

/-- What is shown of a tree is inside it, or inside the expression of an annotation there. -/
theorem mem_shown_iff {node : Node} {tree : Tree c} :
    node ∈ tree.shown ↔ node ∈ tree.nodes ∨
      ∃ holder ∈ tree.nodes, ∃ call ∈ holder.tree.annotations,
        node ∈ call.callExpression.nodes := by
  rw [shown, List.mem_append, List.mem_flatMap]
  simp only [List.mem_flatMap]

end IrLink.Tree
