import IrLink.Builtins
import IrLink.Proofs.Tree.Parts

/-!
# Formed trees

Some parts of a tree are made to agree by the decoder, whatever the records say: the
classifier of a type operation is that of its operand, a clause catches a variable, and the
body of an enum entry is a class (`Tree.Agrees`).  A tree is formed if everything inside it
agrees with its parts.
-/

namespace IrLink

/-! ## Formed trees -/

namespace Tree

variable {c : Category}

/-- What a tree asks of the trees of which it consists. -/
def Agrees : {c : Category} → Tree c → Prop
  | _, typeOperation _ operand classifier _ => operand.classifier? = .some classifier
  | _, catchNode _ parameter _ => parameter.declarator.form = .localVariable
  | _, enumEntry _ _ entryClass _ =>
      ∀ declaration, entryClass.toOption = .some declaration →
        declaration.declarator.form = .klass
  | _, _ => True

/-- A tree is formed if it agrees with its parts and these are formed. -/
inductive Formed : {c : Category} → Tree c → Prop
  | node {c : Category} {tree : Tree c} (agrees : tree.Agrees)
      (parts : ∀ part ∈ tree.parts, Formed part.tree) : Formed tree

theorem Formed.agrees {tree : Tree c} (formed : tree.Formed) : tree.Agrees := by
  cases formed with
  | node agrees parts => exact agrees

/-- What is inside a formed tree is formed. -/
theorem Formed.inside {tree : Tree c} (formed : tree.Formed) :
    ∀ node ∈ tree.nodes, node.tree.Formed := by
  induction formed with
  | @node c tree agrees parts inductionHypothesis =>
      intro node inside
      rcases mem_nodes_iff.mp inside with rfl | ⟨part, among, inside⟩
      · exact .node agrees parts
      · exact inductionHypothesis part among node inside

/-- Some trees that are formed. -/
def AllFormed (parts : List Node) : Prop :=
  ∀ part ∈ parts, part.tree.Formed

section Parts

variable {parts : List Node} {tree : Tree c}

theorem AllFormed.nil : AllFormed [] :=
  List.forall_mem_nil _

theorem AllFormed.cons (first : tree.Formed) (rest : AllFormed parts) :
    AllFormed (⟨tree⟩ :: parts) :=
  List.forall_mem_cons.mpr ⟨first, rest⟩

theorem Formed.ofParts (agrees : tree.Agrees) (parts : AllFormed tree.parts) : tree.Formed :=
  .node agrees parts

theorem Formed.nil : (Tree.nil : Tree (.list c)).Formed :=
  .ofParts trivial .nil

theorem Formed.none : (Tree.none : Tree (.option c)).Formed :=
  .ofParts trivial .nil

end Parts

/-! ## What the decoder puts in -/

/-- The types that the decoder puts in are formed. -/
theorem formed_plainType (symbol : Symbol) : (plainType symbol).Formed :=
  .ofParts trivial (.cons .nil (.cons .nil .nil))

/-- The expression of an annotation is formed if the annotation is. -/
theorem Formed.callExpression {call : Tree .call} (formed : call.Formed) :
    call.callExpression.Formed :=
  .ofParts trivial (.cons (formed_plainType _) (.cons (.ofParts trivial (.cons formed .nil)) .nil))

/-- What is shown of a formed tree is formed. -/
theorem Formed.shown {tree : Tree c} (formed : tree.Formed) :
    ∀ node ∈ tree.shown, node.tree.Formed := by
  intro node shown
  rcases mem_shown_iff.mp shown with inside | ⟨holder, isHolder, call, annotates, inside⟩
  · exact formed.inside node inside
  · have holds := formed.inside holder isHolder
    have isFormed := holds.inside _ (mem_nodes_of_mem_annotations annotates)
    exact isFormed.callExpression.inside node inside

end Tree

end IrLink
