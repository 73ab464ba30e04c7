import IrLink.Proofs.Decode.BackLinks
import IrLink.Proofs.Decode.Insertion

/-!
# Kinds of symbols in trees

Where kinds are checked, every symbol in a tree is of a kind that its place allows
(`History.kind_safe`): in all trees that requests were answered with, at every depth, and in
all declarations that can be found.  A place asks for the kind of its symbol when the symbol
is linked, whichever record has made it; the classifier of a type operation is that of its
operand, a clause catches a variable, and the body of an enum entry is a class, because the
decoder takes them so (`History.formed`).
-/

namespace IrLink

/-! ## Places -/

namespace SymbolKind

theorem isClassifier_iff {kind : SymbolKind} :
    kind.isClassifier = true ↔ kind ∈ [klass, typeParameter] := by
  cases kind <;> decide

theorem isFunctionLike_iff {kind : SymbolKind} :
    kind.isFunctionLike = true ↔ kind ∈ [function, constructor] := by
  cases kind <;> decide

theorem isValue_iff {kind : SymbolKind} :
    kind.isValue = true ↔ kind ∈ [localVariable, valueParameter] := by
  cases kind <;> decide

end SymbolKind

namespace Tree

variable {c : Category}

/-- The kinds that the places of a node allow. -/
def KindsAllowed : {c : Category} → Tree c → Prop
  -- Types
  | _, simpleType classifier .. => classifier.kind ∈ [.klass, .typeParameter]
  | _, classReference symbol _ => symbol.kind ∈ [.klass, .typeParameter]
  | _, typeOperation _ operand classifier _ =>
      operand.classifier? = .some classifier ∧ classifier.kind ∈ [.klass, .typeParameter]
  -- Calls and accesses
  | _, callNode symbol qualifier .. =>
      symbol.kind ∈ [.function, .constructor] ∧
        ∀ superClass, qualifier = .some superClass → superClass.kind = .klass
  | _, functionReference symbol _ => symbol.kind ∈ [.function, .constructor]
  | _, returnFrom target _ => target.kind ∈ [.function, .constructor]
  | _, delegatingConstructorCall symbol _ => symbol.kind = .constructor
  | _, enumConstructorCall symbol _ => symbol.kind = .constructor
  | _, instanceInitializerCall symbol => symbol.kind = .klass
  | _, getObject symbol => symbol.kind = .klass
  | _, fieldAccessNode symbol qualifier _ =>
      symbol.kind = .field ∧
        ∀ superClass, qualifier = .some superClass → superClass.kind = .klass
  | _, propertyReference field getter setter _ =>
      (∀ symbol, field = .some symbol → symbol.kind = .field) ∧
        (∀ symbol, getter = .some symbol → symbol.kind = .function) ∧
          ∀ symbol, setter = .some symbol → symbol.kind = .function
  -- Values
  | _, getValue symbol => symbol.kind ∈ [.localVariable, .valueParameter]
  | _, setVariable symbol _ => symbol.kind = .localVariable
  | _, getEnumValue symbol => symbol.kind = .enumEntry
  | _, catchNode _ parameter _ => parameter.declarator.form = .localVariable
  -- Declarations
  | _, classDeclarator symbol .. => symbol.kind = .klass
  | _, functionDeclarator symbol _ _ _ overridden =>
      symbol.kind = .function ∧ ∀ other ∈ overridden, other.kind = .function
  | _, constructorDeclarator symbol .. => symbol.kind = .constructor
  | _, fieldDeclarator symbol .. => symbol.kind = .field
  | _, variableDeclarator symbol .. => symbol.kind = .localVariable
  | _, enumEntry symbol _ entryClass _ =>
      symbol.kind = .enumEntry ∧ ∀ declaration, entryClass.toOption = .some declaration →
        declaration.declarator.form = .klass
  | _, anonymousInitializer symbol _ => symbol.kind = .anonymousInitializer
  | _, valueParameterNode _ _ symbol .. => symbol.kind = .valueParameter
  | _, typeParameterNode _ _ symbol .. => symbol.kind = .typeParameter
  | _, _ => True

/-- Everything in a tree has symbols of allowed kinds, and so have the expressions that its
annotations stand for. -/
def KindSafe (tree : Tree c) : Prop :=
  ∀ node ∈ tree.shown, node.tree.KindsAllowed

/-- The kind of a symbol that may be absent, in a place that asks for one kind. -/
theorem kind_of_optionalSymbol (requirement : Requirement) {kind : SymbolKind}
    {symbol : Option Symbol} (only : requirement.accepts = (· == kind))
    (accepted : ∀ found, Mark.symbol requirement found ∈ optionalSymbol requirement symbol →
      requirement.accepts found.kind = true) :
    ∀ found, symbol = .some found → found.kind = kind := by
  rintro found rfl
  have fits := accepted found (.head _)
  rw [only] at fits
  exact beq_iff_eq.mp fits

/-- A node that agrees with its parts has symbols of allowed kinds if they meet the
requirements of their places. -/
theorem kindsAllowed_of_marks {tree : Tree c} (agrees : tree.Agrees)
    (accepted : ∀ requirement symbol, .symbol requirement symbol ∈ tree.marks →
      requirement.accepts symbol.kind = true) : tree.KindsAllowed := by
  cases tree
  case simpleType | classReference =>
    exact SymbolKind.isClassifier_iff.mp (accepted .classifier _ (.head _))
  case typeOperation =>
    exact ⟨agrees, SymbolKind.isClassifier_iff.mp (accepted .classifier _ (.head _))⟩
  case callNode =>
    refine ⟨SymbolKind.isFunctionLike_iff.mp (accepted .callee _ (.head _)), ?_⟩
    exact kind_of_optionalSymbol .superClass rfl fun found among =>
      accepted _ found (.tail _ among)
  case functionReference =>
    exact SymbolKind.isFunctionLike_iff.mp (accepted .callee _ (.head _))
  case returnFrom =>
    exact SymbolKind.isFunctionLike_iff.mp (accepted .returnTarget _ (.head _))
  case fieldAccessNode =>
    refine ⟨beq_iff_eq.mp (accepted .accessedField _ (.head _)), ?_⟩
    exact kind_of_optionalSymbol .superClass rfl fun found among =>
      accepted _ found (.tail _ among)
  case propertyReference =>
    refine ⟨kind_of_optionalSymbol .accessedField rfl fun found among => accepted _ found ?_,
      kind_of_optionalSymbol .accessor rfl fun found among => accepted _ found ?_,
      kind_of_optionalSymbol .accessor rfl fun found among => accepted _ found ?_⟩
    · exact List.mem_append_left _ (List.mem_append_left _ among)
    · exact List.mem_append_left _ (List.mem_append_right _ among)
    · exact List.mem_append_right _ among
  case getValue => exact SymbolKind.isValue_iff.mp (accepted .value _ (.head _))
  case catchNode => exact agrees
  case enumEntry =>
    exact ⟨beq_iff_eq.mp (accepted .declaredEnumEntry _ (.head _)), agrees⟩
  case functionDeclarator =>
    refine ⟨beq_iff_eq.mp (accepted .declaredFunction _ (.head _)), fun other among => ?_⟩
    exact beq_iff_eq.mp
      (accepted .overriddenFunction other (.tail _ (List.mem_map_of_mem among)))
  -- All other places ask for a single kind, or there is no symbol.
  all_goals
    first
    | exact beq_iff_eq.mp (accepted _ _ (.head _))
    | exact trivial

/-- Everything in a formed tree has symbols of allowed kinds if they meet the requirements of
their places. -/
theorem Formed.kindSafe {tree : Tree c} (formed : tree.Formed)
    (accepted : ∀ requirement symbol, .symbol requirement symbol ∈ tree.allMarks →
      requirement.accepts symbol.kind = true) : tree.KindSafe := by
  intro node shown
  refine kindsAllowed_of_marks (formed.shown node shown).agrees fun requirement symbol own => ?_
  have marked : .symbol requirement symbol ∈ marksOf tree.shown :=
    List.mem_flatMap.mpr ⟨node, shown, own⟩
  rcases mem_marksOf_shown marked with inside | isUnit
  · exact accepted requirement symbol inside
  · cases isUnit
    rfl

end Tree

/-! ## Declarations that can be found -/

namespace Builtin

theorem formed_ofClass (number : Nat) (name : String) :
    (ofClass number name).declaration.Formed := by
  have declarator : (ofClass number name).declaration.declarator.Formed :=
    .ofParts trivial (.cons .nil (.cons .none (.cons .nil (.cons .nil .nil))))
  exact .ofParts trivial (.cons declarator (.cons .nil .nil))

theorem formed_ofFunction (number : Nat) (name : String) {result : Tree .type}
    (formed : result.Formed) : (ofFunction number name result).declaration.Formed := by
  have signature : (Tree.signatureNode result .none .nil .none .none .nil).Formed :=
    .ofParts trivial (.cons formed (.cons .none (.cons .nil (.cons .none (.cons .none
      (.cons .nil .nil))))))
  have declarator : (ofFunction number name result).declaration.declarator.Formed :=
    .ofParts trivial (.cons signature .nil)
  exact .ofParts trivial (.cons declarator (.cons .nil .nil))

end Builtin

/-- The declarations of built-ins are formed. -/
theorem Builtin.formed {builtin : Builtin} (among : builtin ∈ all) :
    builtin.declaration.Formed := by
  rcases List.mem_append.mp among with klass | function
  · rcases List.mem_mapIdx.mp klass with ⟨number, inRange, rfl⟩
    exact formed_ofClass number _
  · rcases List.mem_mapIdx.mp function with ⟨number, inRange, rfl⟩
    rcases result_builtin (List.getElem_mem inRange) with ⟨other, -, result, -⟩
    have formed : functions[number].2.Formed := by
      rw [result]
      exact Tree.formed_plainType other.symbol
    exact formed_ofFunction _ _ formed

variable {environment : Environment} {state : State} {responses : List Response}

/-- Every declaration that can be found is formed. -/
theorem Reachable.formed (reachable : Reachable environment state) :
    ∀ id declaration, state.Registers id declaration → declaration.Formed := by
  induction reachable with
  | start =>
      intro id declaration registered
      rcases Builtin.of_registers_initial registered with ⟨builtin, among, rfl, rfl⟩
      exact Builtin.formed among
  | @step state request reachable inductionHypothesis =>
      intro id declaration registered
      have inserts : request.Inserts environment state _ := Request.inserts_of_reachable reachable
      cases known : state.declarations[id]? with
      | some other =>
          cases registered.symm.trans (inserts.declarations id other known)
          exact inductionHypothesis id _ known
      | none =>
          rcases inserts.newDeclarations id declaration known registered with
            ⟨_, -, d, inner, start, stop, -, -, gives, -⟩
          cases gives with
          | declaration run => exact Decode.formed_of_build (c := .declaration) trivial run
          | accessor run => exact Decode.formed_of_build (c := .accessor) trivial run

/-! ## Sessions that check kinds -/

theorem History.formed (history : History environment state responses) :
    ∀ response ∈ responses, ∀ root ∈ response.roots, root.tree.Formed := by
  induction history with
  | start => exact List.forall_mem_nil _
  | answered history request answers inductionHypothesis =>
      rw [request.answer_eq] at answers
      have drawn := (request.draws 0 _ _ _ _ _ answers).2
      exact List.forall_mem_cons.mpr ⟨drawn.sound.formed, inductionHypothesis⟩
  | failed _ _ _ inductionHypothesis => exact inductionHypothesis

/-- Where kinds are checked, all trees that were given as answers have symbols of allowed
kinds everywhere, and so have all declarations that can be found. -/
theorem History.kind_safe (history : History environment state responses)
    (checks : environment.settings.checkSymbolKinds = true) :
    (∀ response ∈ responses, ∀ root ∈ response.roots, root.tree.KindSafe) ∧
      ∀ id declaration, state.Registers id declaration → declaration.KindSafe := by
  have settled := history.reachable.settled
  constructor
  · intro response among root isRoot
    refine (history.formed response among root isRoot).kindSafe fun requirement symbol marked => ?_
    have holds := (history.linked response among).marks _
      (Response.mem_marks isRoot (List.mem_append_right _ marked))
    exact holds.2 checks
  · intro id declaration registered
    refine (history.reachable.formed id declaration registered).kindSafe
      fun requirement symbol marked => ?_
    exact (settled.marked id declaration registered _ (List.mem_append_right _ marked)).2 checks

/-- The record of a cast to a built-in class that is tried. -/
def Record.triedCast : Record .expression :=
  let failing : Record .expression :=
    .expressionNode .zero (.dynamicType .nil .invariant) (.constant .null)
  .expressionNode .zero (.dynamicType .nil .invariant) <|
    .tryCatch
      (.expressionNode .zero (.dynamicType .nil .invariant) <|
        .typeOperation .cast
          (.simpleType .nil .invariant ⟨.symbol .klass, ⟨7, false⟩, .none⟩ false .nil) failing)
      (.cons (.asCatch (.catchStatement .zero .localVariable failing)) .nil) .none

/-- The cast is to a class, and the clause catches a variable. -/
theorem History.kind_safe_triedCast :
    ∃ state response, History ⟨.ofVariable, {}⟩ state [response] ∧
      response.roots.length = 1 ∧ ∀ root ∈ response.roots, root.tree.KindSafe := by
  have evaluated :
      (match (Request.expression .triedCast).answer ⟨.ofVariable, {}⟩ .initial with
        | .ok response _ => response.roots.length == 1
        | .error _ _ => false) = true := by
    decide +kernel
  split at evaluated
  · rename_i response after answers
    have history := History.start.answered _ answers
    exact ⟨after, response, history, beq_iff_eq.mp evaluated,
      (history.kind_safe rfl).1 response (.head _)⟩
  · cases evaluated

end IrLink
