import IrLink.Proofs.Decode.Follows

/-!
# Every record is linked step by step

Linking a record follows its trace (`Decode.build_follows`): it does to the
session what the steps of the record do, one after the other, and fails with
the error of the first step that fails.  If none fails, it gives a tree of the
shape of the record.  For each form of a record the order of the computation is
compared with that of the layout, where smaller records are linked step by step.
-/

namespace IrLink

/-! ## Heads of declarations -/

namespace Tree

/-- A renaming keeps the form of a declarator. -/
theorem form_rename (names : Renaming) (declarator : Tree .declarator) :
    (declarator.rename names).form = declarator.form := by
  cases declarator <;> rfl

/-- A renaming acts on the symbol of a declarator. -/
theorem declaredSymbol?_rename (names : Renaming) (declarator : Tree .declarator) :
    (declarator.rename names).declaredSymbol? =
      declarator.declaredSymbol?.map names.symbol := by
  cases declarator <;> rfl

/-- A session knows the symbol of what a declarator declares.  Nothing is asked
of other trees. -/
def Linked (state : State) : {c : Category} → Tree c → Prop
  | .declarator, declarator =>
      ∀ symbol, declarator.declaredSymbol? = .some symbol → state.Knows symbol
  | _, _ => True

theorem linked_of_knows {state : State} {declarator : Tree .declarator} {symbol : Symbol}
    (declared : declarator.declaredSymbol? = .some symbol) (known : state.Knows symbol) :
    declarator.Linked state := by
  intro other declaredOther
  cases declared.symm.trans declaredOther
  exact known

/-- The nesting is nothing that is asked. -/
theorem Linked.atDepth {state : State} {c : Category} {tree : Tree c}
    (linked : tree.Linked state) (depth : Nat) : tree.Linked { state with depth } := by
  cases c <;> exact linked

end Tree

namespace Record

/-- A part with a shape lets a shape go on with it. -/
theorem shape_then {α β : Type} {part : Option α} {rest : α → Option β} {shape : α}
    (found : part = .some shape) : (part >>= rest) = rest shape := by
  rw [found]
  rfl

/-- The shape of a function has the form and the symbol that are recorded. -/
theorem heads_of_function {function : Record .function} {context : Context .function}
    {shape : Tree .declarator} (built : function.shape? context = .some shape) :
    shape.form = .function ∧ shape.declaredSymbol? = .some function.functionSymbol.shape := by
  cases function
  rcases Option.bind_eq_some_iff.mp built with ⟨_, _, ⟨⟩⟩
  exact ⟨rfl, rfl⟩

/-- The shape of a field has the form and the symbol that are recorded. -/
theorem heads_of_field {field : Record .field} {context : Context .field}
    {shape : Tree .declarator} (built : field.shape? context = .some shape) :
    shape.form = .field ∧ shape.declaredSymbol? = .some field.fieldSymbol.shape := by
  cases field
  rcases Option.bind_eq_some_iff.mp built with ⟨_, _, built⟩
  rcases Option.bind_eq_some_iff.mp built with ⟨_, _, ⟨⟩⟩
  exact ⟨rfl, rfl⟩

/-- The shape of a declarator has the form and the symbol that are recorded. -/
theorem heads_of_declarator {declarator : Record .declarator} {site : Site}
    {shape : Tree .declarator} (built : declarator.shape? site = .some shape) :
    shape.form = declarator.declaredForm ∧
      shape.declaredSymbol? = declarator.declaredSymbol?.map (·.shape) := by
  cases declarator with
  | unsetDeclarator => cases built
  | typeAlias =>
      cases built
      exact ⟨rfl, rfl⟩
  | fieldDeclarator field => exact @heads_of_field field () shape built
  | functionDeclarator function =>
      exact @heads_of_function function (site, .none) shape built
  | anonymousInitializer =>
      rcases Option.bind_eq_some_iff.mp built with ⟨_, _, ⟨⟩⟩
      exact ⟨rfl, rfl⟩
  | constructorDeclarator =>
      rcases Option.bind_eq_some_iff.mp built with ⟨_, _, ⟨⟩⟩
      exact ⟨rfl, rfl⟩
  | enumEntry =>
      rcases Option.bind_eq_some_iff.mp built with ⟨_, _, built⟩
      rcases Option.bind_eq_some_iff.mp built with ⟨_, _, ⟨⟩⟩
      exact ⟨rfl, rfl⟩
  | variableDeclarator =>
      rcases Option.bind_eq_some_iff.mp built with ⟨_, _, built⟩
      rcases Option.bind_eq_some_iff.mp built with ⟨_, _, ⟨⟩⟩
      exact ⟨rfl, rfl⟩
  | property =>
      rcases Option.bind_eq_some_iff.mp built with ⟨_, _, built⟩
      rcases Option.bind_eq_some_iff.mp built with ⟨_, _, built⟩
      rcases Option.bind_eq_some_iff.mp built with ⟨_, _, ⟨⟩⟩
      exact ⟨rfl, rfl⟩
  | classDeclarator =>
      rcases Option.bind_eq_some_iff.mp built with ⟨_, _, built⟩
      rcases Option.bind_eq_some_iff.mp built with ⟨_, _, built⟩
      rcases Option.bind_eq_some_iff.mp built with ⟨_, _, built⟩
      rcases Option.bind_eq_some_iff.mp built with ⟨_, _, ⟨⟩⟩
      exact ⟨rfl, rfl⟩

/-- The shape of a declaration has the recorded form. -/
theorem form_of_declaration {declaration : Record .declaration} {parent : Parent}
    {shape : Tree .declaration} (built : declaration.shape? parent = .some shape) :
    shape.declarator.form = declaration.form := by
  cases declaration with
  | declarationNode _ _ _ _ declarator =>
      rcases Option.bind_eq_some_iff.mp built with ⟨_, _, built⟩
      rcases Option.bind_eq_some_iff.mp built with ⟨_, declaratorBuilt, built⟩
      rcases Option.bind_eq_some_iff.mp built with ⟨_, _, ⟨⟩⟩
      exact (heads_of_declarator declaratorBuilt).1

end Record

namespace Decode

variable {environment : Environment}

/-- What is said of the tree that linking a record gives. -/
structure Built {c : Category} (record : Record c) (context : Context c)
    (tree : Tree c.built) (after : State) : Prop where
  shape : record.shape? context.shape = some tree.shape
  linked : tree.Linked after

/-- The nesting is nothing that is said of a tree. -/
theorem Built.atDepth {c : Category} {record : Record c} {context : Context c}
    {tree : Tree c.built} {after : State} (built : Built record context tree after)
    (depth : Nat) : Built record context tree { after with depth } where
  shape := built.shape
  linked := built.linked.atDepth depth

/-- A declaration has the recorded form. -/
theorem Built.form {record : Record .declaration} {parent : Parent}
    {tree : Tree .declaration} {after : State} (built : Built record parent tree after) :
    tree.declarator.form = record.form := by
  cases tree with
  | declarationNode _ _ _ _ declarator _ =>
      exact (Tree.form_rename .forgetful declarator).symm.trans
        (Record.form_of_declaration built.shape)

/-- The body of an enum entry has the recorded form. -/
theorem Built.forms {record : Record (.option .declaration)} {parent : Parent}
    {tree : Tree (.option .declaration)} {after : State}
    (built : Built record parent tree after) :
    tree.toOption.map (·.declarator.form) = record.toOption.map (·.form) := by
  cases record with
  | none =>
      cases tree with
      | none => rfl
      | some _ => cases built.shape
  | some record =>
      rcases Option.bind_eq_some_iff.mp built.shape with ⟨shape, shaped, same⟩
      cases tree with
      | none => cases same
      | some tree =>
          cases same
          have inner : Built record parent tree after := ⟨shaped, trivial⟩
          exact congrArg some inner.form

/-- A declarator has the recorded symbol. -/
theorem Built.symbol {record : Record .declarator} {site : Site} {tree : Tree .declarator}
    {after : State} (built : Built record site tree after) :
    tree.declaredSymbol?.map Symbol.shape = record.declaredSymbol?.map (·.shape) :=
  (Tree.declaredSymbol?_rename .forgetful tree).symm.trans
    (Record.heads_of_declarator built.shape).2

/-- A function has the recorded symbol. -/
theorem Built.functionSymbol {record : Record .function} {context : Context .function}
    {tree : Tree .declarator} {after : State} (built : Built record context tree after) :
    tree.declaredSymbol?.map Symbol.shape = some record.functionSymbol.shape :=
  (Tree.declaredSymbol?_rename .forgetful tree).symm.trans
    (Record.heads_of_function built.shape).2

namespace Follows

/-- A record that takes a level is followed by what follows its layout one level
deeper. -/
theorem below {state : State} {c : Category} {record : Record c} {context : Context c}
    {computation : Decode (Tree c.built)} (takes : c.takesLevel = true)
    (follows : Follows environment { state with depth := state.depth + 1 } computation
      record.layout (Built record context)) :
    Follows environment state (descend computation) [.part record] (Built record context) :=
  .deeper record takes (fun _ _ depth built => built.atDepth depth) follows

/-- A declaration that belongs to another is made without steps. -/
theorem child {state : State} (site : Site) (declarator : Tree .declarator) :
    Follows environment state (Decode.child site declarator) []
      (fun tree _ => ∃ node, tree = .declarationNode node site.range site.origin
        (.declaration site.node) declarator .nil) :=
  .map freshNode fun node _ _ _ => ⟨node, rfl⟩

end Follows

open Record (shape_then)
open Follows (use use? uses)

/-- Records smaller than a given size are linked step by step. -/
def LinkedBelow (environment : Environment) (size : Nat) : Prop :=
  ∀ {c : Category} (record : Record c) (context : Context c) {state : State}
    (_ : sizeOf record < size := by simp +arith),
    Follows environment state (build record context) [.part record] (Built record context)

/-- Linking a type follows its layout if linking its parts does. -/
theorem type_follows : (record : Record .type) → (context : Context .type) →
    {state : State} → LinkedBelow environment (sizeOf record) →
      Follows environment state (build record context) [.part record] (Built record context)
  | .unsetType, _, _, _ => .level rfl (.fail _ _)
  | .simpleType annotations _ classifier _ arguments, _, _, parts => by
      refine .level rfl ?_
      refine .bind (parts arguments ()) fun _ _ _ first => ?_
      refine .bind (parts annotations ()) fun _ _ _ second => ?_
      refine .map (use .classifier classifier) fun _ _ _ third => ⟨?_, trivial⟩
      refine (shape_then first.shape).trans ((shape_then second.shape).trans ?_)
      rw [← third.1]
      rfl
  | .dynamicType annotations _, _, _, parts => by
      refine .level rfl ?_
      refine .map (parts annotations ()) fun _ _ _ first => ⟨?_, trivial⟩
      exact shape_then first.shape
  | .errorType annotations _, _, _, parts => by
      refine .level rfl ?_
      refine .map (parts annotations ()) fun _ _ _ first => ⟨?_, trivial⟩
      exact shape_then first.shape

/-- Linking an operation follows its layout if linking its parts does. -/
theorem operation_follows : (record : Record .operation) → (context : Context .operation) →
    {state : State} → LinkedBelow environment (sizeOf record) →
      Follows environment state (build record context) [.part record] (Built record context)
  | .unsetOperation, _, _, _ => .level rfl (.fail _ _)
  | .block statements _, (_, _), _, parts => by
      refine .level rfl ?_
      refine .map (parts statements ()) fun _ _ _ first => ⟨?_, trivial⟩
      exact shape_then first.shape
  | .breakLoop id label, (_, _), _, _ => by
      refine .level rfl ?_
      refine .map (Follows.jumpTo id label) fun _ _ _ first => ⟨?_, trivial⟩
      rcases first with ⟨rfl, rfl⟩
      rfl
  | .callOperation call, (_, _), _, parts => by
      refine .level rfl ?_
      refine .map (parts call ()) fun _ _ _ first => ⟨?_, trivial⟩
      exact shape_then first.shape
  | .classReference symbol referred, (_, _), _, parts => by
      refine .level rfl ?_
      refine .bind (use .classifier symbol) fun _ _ _ first => ?_
      refine .map (parts referred ()) fun _ _ _ second => ⟨?_, trivial⟩
      refine (shape_then second.shape).trans ?_
      rw [← first.1]
      rfl
  | .composite statements, (_, _), _, parts => by
      refine .level rfl ?_
      refine .map (parts statements ()) fun _ _ _ first => ⟨?_, trivial⟩
      exact shape_then first.shape
  | .constant value, (_, _), _, _ => by
      refine .level rfl ?_
      refine .map (Follows.constantOf value) fun _ _ _ first => ⟨?_, trivial⟩
      exact shape_then first
  | .continueLoop id label, (_, _), _, _ => by
      refine .level rfl ?_
      refine .map (Follows.jumpTo id label) fun _ _ _ first => ⟨?_, trivial⟩
      rcases first with ⟨rfl, rfl⟩
      rfl
  | .delegatingConstructorCall symbol access, (_, _), _, parts => by
      refine .level rfl ?_
      refine .bind (use .constructor symbol) fun _ _ _ first => ?_
      refine .map (parts access ()) fun _ _ _ second => ⟨?_, trivial⟩
      refine (shape_then second.shape).trans ?_
      rw [← first.1]
      rfl
  | .enumConstructorCall symbol access, (_, _), _, parts => by
      refine .level rfl ?_
      refine .bind (use .constructor symbol) fun _ _ _ first => ?_
      refine .map (parts access ()) fun _ _ _ second => ⟨?_, trivial⟩
      refine (shape_then second.shape).trans ?_
      rw [← first.1]
      rfl
  | .functionReference symbol typeArguments, (_, _), _, parts => by
      refine .level rfl ?_
      refine .bind (use .callee symbol) fun _ _ _ first => ?_
      refine .map (parts typeArguments ()) fun _ _ _ second => ⟨?_, trivial⟩
      refine (shape_then second.shape).trans ?_
      rw [← first.1]
      rfl
  | .getClass argument, (_, _), _, parts => by
      refine .level rfl ?_
      refine .map (parts argument ()) fun _ _ _ first => ⟨?_, trivial⟩
      exact shape_then first.shape
  | .getEnumValue own symbol, (_, _), _, parts => by
      refine .level rfl ?_
      refine .bind (parts own ()) fun _ _ _ first => ?_
      refine .map (use .enumValue symbol) fun _ _ _ second => ⟨?_, trivial⟩
      refine (shape_then first.shape).trans ?_
      rw [← second.1]
      rfl
  | .getField (.fieldAccessNode symbol qualifier receiver) own, (_, _), _, parts => by
      refine .level rfl ?_
      refine .bind (use .accessedField symbol) fun _ _ _ first => ?_
      refine .bind (parts own ()) fun _ _ _ second => ?_
      refine .append (use? .superClass qualifier) fun _ _ _ third => ?_
      refine .map (parts receiver ()) fun _ _ _ fourth => ⟨?_, trivial⟩
      refine (shape_then second.shape).trans (shape_then ?_)
      refine (shape_then fourth.shape).trans ?_
      rw [← first.1, ← third]
      rfl
  | .getObject symbol, (_, _), _, _ => by
      refine .level rfl ?_
      refine .map (use .objectClass symbol) fun _ _ _ first => ⟨?_, trivial⟩
      exact congrArg (fun symbol => some (Tree.expressionNode _ _ (.getObject symbol)))
        first.1.symm
  | .getValue symbol own, (_, _), _, parts => by
      refine .level rfl ?_
      refine .bind (use .value symbol) fun _ _ _ first => ?_
      refine .map (parts own ()) fun _ _ _ second => ⟨?_, trivial⟩
      refine (shape_then second.shape).trans ?_
      rw [← first.1]
      rfl
  | .instanceInitializerCall symbol, (_, _), _, _ => by
      refine .level rfl ?_
      refine .map (use .objectClass symbol) fun _ _ _ first => ⟨?_, trivial⟩
      exact congrArg
        (fun symbol => some (Tree.expressionNode _ _ (.instanceInitializerCall symbol)))
        first.1.symm
  | .propertyReference field getter setter typeArguments, (_, _), _, parts => by
      refine .level rfl ?_
      refine .append (use? .accessedField field) fun _ _ _ first => ?_
      refine .append (use? .accessor getter) fun _ _ _ second => ?_
      refine .append (use? .accessor setter) fun _ _ _ third => ?_
      refine .map (parts typeArguments ()) fun _ _ _ fourth => ⟨?_, trivial⟩
      refine (shape_then fourth.shape).trans ?_
      rw [← first, ← second, ← third]
      rfl
  | .returnFrom target value, (_, _), _, parts => by
      refine .level rfl ?_
      refine .bind (use .returnTarget target) fun _ _ _ first => ?_
      refine .map (parts value ()) fun _ _ _ second => ⟨?_, trivial⟩
      refine (shape_then second.shape).trans ?_
      rw [← first.1]
      rfl
  | .setField access value, (_, _), _, parts => by
      refine .level rfl ?_
      refine .bind (parts access ()) fun _ _ _ first => ?_
      refine .map (parts value ()) fun _ _ _ second => ⟨?_, trivial⟩
      exact (shape_then first.shape).trans (shape_then second.shape)
  | .setVariable symbol value, (_, _), _, parts => by
      refine .level rfl ?_
      refine .bind (use .assignedVariable symbol) fun _ _ _ first => ?_
      refine .map (parts value ()) fun _ _ _ second => ⟨?_, trivial⟩
      refine (shape_then second.shape).trans ?_
      rw [← first.1]
      rfl
  | .stringConcat arguments, (_, _), _, parts => by
      refine .level rfl ?_
      refine .map (parts arguments ()) fun _ _ _ first => ⟨?_, trivial⟩
      exact shape_then first.shape
  | .throwValue value, (_, _), _, parts => by
      refine .level rfl ?_
      refine .map (parts value ()) fun _ _ _ first => ⟨?_, trivial⟩
      exact shape_then first.shape
  | .tryCatch result catches finalizer, (_, _), _, parts => by
      refine .level rfl ?_
      refine .bind (parts result ()) fun _ _ _ first => ?_
      refine .bind (parts catches ()) fun _ _ _ second => ?_
      refine .map (parts finalizer ()) fun _ _ _ third => ⟨?_, trivial⟩
      exact (shape_then first.shape).trans ((shape_then second.shape).trans
        (shape_then third.shape))
  | .typeOperation _ operand argument, (_, _), _, parts => by
      refine .level rfl ?_
      refine .bind (parts operand ()) fun _ _ _ first => ?_
      refine .append (Follows.operandClassifier first.shape) fun _ _ _ second => ?_
      refine .map (parts argument ()) fun _ _ _ third => ⟨?_, trivial⟩
      have classified := Tree.classifier?_rename .forgetful _ ▸ congrArg (Option.map _) second
      exact (shape_then first.shape).trans ((shape_then classified).trans
        (shape_then third.shape))
  | .vararg elementType elements, (_, _), _, parts => by
      refine .level rfl ?_
      refine .bind (parts elementType ()) fun _ _ _ first => ?_
      refine .map (parts elements ()) fun _ _ _ second => ⟨?_, trivial⟩
      exact (shape_then first.shape).trans (shape_then second.shape)
  | .when branches, (_, _), _, parts => by
      refine .level rfl ?_
      refine .map (parts branches ()) fun _ _ _ first => ⟨?_, trivial⟩
      exact shape_then first.shape
  | .loop kind id label condition body, (range, type), _, parts => by
      refine .level rfl ?_
      refine .bind (Follows.beginLoop { id, kind, range, type }) fun node _ _ _ => ?_
      refine .bind (parts body ()) fun body _ _ first => ?_
      refine .bind (parts condition ()) fun condition _ _ second => ?_
      refine .map (Follows.fillLoop node ⟨label, body, condition⟩) fun _ _ _ _ =>
        ⟨?_, trivial⟩
      exact (shape_then first.shape).trans (shape_then second.shape)

/-- Linking a statement follows its layout if linking its parts does. -/
theorem statement_follows : (record : Record .statement) → (context : Context .statement) →
    {state : State} → LinkedBelow environment (sizeOf record) →
      Follows environment state (build record context) [.part record] (Built record context)
  | .unsetStatement _, _, _, _ => .below (c := .statement) rfl (.fail _ _)
  | .blockBody _ statements, _, _, parts => by
      refine .below (c := .statement) rfl ?_
      refine .map (parts statements ()) fun _ _ _ first => ⟨?_, trivial⟩
      exact shape_then first.shape
  | .branchStatement _ condition result, _, _, parts => by
      refine .below (c := .statement) rfl ?_
      refine .bind (parts condition ()) fun _ _ _ first => ?_
      refine .map (parts result ()) fun _ _ _ second => ⟨?_, trivial⟩
      exact (shape_then first.shape).trans (shape_then second.shape)
  | .catchStatement _ parameter result, _, _, parts => by
      refine .below (c := .statement) rfl ?_
      refine .bind (parts parameter Parent.none) fun _ _ _ first => ?_
      refine .append (Follows.requireVariable first.form) fun _ _ _ _ => ?_
      refine .map (parts result ()) fun _ _ _ second => ⟨?_, trivial⟩
      exact (shape_then first.shape).trans (shape_then second.shape)
  | .declarationStatement _ declaration, _, _, parts => by
      refine .below (c := .statement) rfl ?_
      refine .map (parts declaration Parent.none) fun _ _ _ first => ⟨?_, trivial⟩
      exact shape_then first.shape
  | .expressionStatement _ expression, _, _, parts => by
      refine .below (c := .statement) rfl ?_
      refine .map (parts expression ()) fun _ _ _ first => ⟨?_, trivial⟩
      exact shape_then first.shape
  | .syntheticBody _ _, _, _, _ => .below (c := .statement) rfl (.pure ⟨rfl, trivial⟩)

/-- A statement in the place of a branch is refused unless it is one. -/
theorem branch_follows : (record : Record .branch) → (context : Context .branch) →
    {state : State} → LinkedBelow environment (sizeOf record) →
      Follows environment state (build record context) [.part record] (Built record context)
  | .asBranch (.branchStatement range condition result), _, _, parts => by
      refine .level rfl ?_
      refine .deeper (.branchStatement range condition result) rfl
        (fun _ _ depth built => built.atDepth depth) ?_
      refine .bind (parts condition () (by simp +arith)) fun _ _ _ first => ?_
      refine .map (parts result () (by simp +arith)) fun _ _ _ second => ⟨?_, trivial⟩
      have inner : (Record.branchStatement range condition result).shape? () =
          some (.branchStatement (.branchNode range _ _)) :=
        (shape_then first.shape).trans (shape_then second.shape)
      exact shape_then inner
  | .asBranch (.unsetStatement _), _, _, _ => .level rfl (.fail _ _)
  | .asBranch (.blockBody _ _), _, _, _ => .level rfl (.fail _ _)
  | .asBranch (.catchStatement _ _ _), _, _, _ => .level rfl (.fail _ _)
  | .asBranch (.declarationStatement _ _), _, _, _ => .level rfl (.fail _ _)
  | .asBranch (.expressionStatement _ _), _, _, _ => .level rfl (.fail _ _)
  | .asBranch (.syntheticBody _ _), _, _, _ => .level rfl (.fail _ _)

/-- A statement in the place of a clause that catches is refused unless it is one. -/
theorem catchClause_follows : (record : Record .catchClause) →
    (context : Context .catchClause) → {state : State} →
      LinkedBelow environment (sizeOf record) →
      Follows environment state (build record context) [.part record] (Built record context)
  | .asCatch (.catchStatement range parameter result), _, _, parts => by
      refine .level rfl ?_
      refine .deeper (.catchStatement range parameter result) rfl
        (fun _ _ depth built => built.atDepth depth) ?_
      refine .bind (parts parameter Parent.none (by simp +arith)) fun _ _ _ first => ?_
      refine .append (Follows.requireVariable first.form) fun _ _ _ _ => ?_
      refine .map (parts result () (by simp +arith)) fun _ _ _ second => ⟨?_, trivial⟩
      have inner : (Record.catchStatement range parameter result).shape? () =
          some (.catchStatement (.catchNode range _ _)) :=
        (shape_then first.shape).trans (shape_then second.shape)
      exact shape_then inner
  | .asCatch (.unsetStatement _), _, _, _ => .level rfl (.fail _ _)
  | .asCatch (.blockBody _ _), _, _, _ => .level rfl (.fail _ _)
  | .asCatch (.branchStatement _ _ _), _, _, _ => .level rfl (.fail _ _)
  | .asCatch (.declarationStatement _ _), _, _, _ => .level rfl (.fail _ _)
  | .asCatch (.expressionStatement _ _), _, _, _ => .level rfl (.fail _ _)
  | .asCatch (.syntheticBody _ _), _, _, _ => .level rfl (.fail _ _)

/-- A statement in the place of a body is refused unless it is one. -/
theorem body_follows : (record : Record .body) → (context : Context .body) →
    {state : State} → LinkedBelow environment (sizeOf record) →
      Follows environment state (build record context) [.part record] (Built record context)
  | .asBody (.blockBody range statements), _, _, parts => by
      refine .level rfl ?_
      refine .deeper (.blockBody range statements) rfl
        (fun _ _ depth built => built.atDepth depth) ?_
      refine .map (parts statements () (by simp +arith)) fun _ _ _ first => ⟨?_, trivial⟩
      have inner : (Record.blockBody range statements).shape? () =
          some (.bodyStatement (.blockBody range _)) :=
        shape_then first.shape
      exact shape_then inner
  | .asBody (.syntheticBody _ _), _, _, _ => .level rfl (.pure ⟨rfl, trivial⟩)
  | .asBody (.unsetStatement _), _, _, _ => .level rfl (.fail _ _)
  | .asBody (.branchStatement _ _ _), _, _, _ => .level rfl (.fail _ _)
  | .asBody (.catchStatement _ _ _), _, _, _ => .level rfl (.fail _ _)
  | .asBody (.declarationStatement _ _), _, _, _ => .level rfl (.fail _ _)
  | .asBody (.expressionStatement _ _), _, _, _ => .level rfl (.fail _ _)

/-- Linking a declarator follows its layout if linking its parts does. -/
theorem declarator_follows : (record : Record .declarator) →
    (context : Context .declarator) → {state : State} →
      LinkedBelow environment (sizeOf record) →
      Follows environment state (build record context) [.part record] (Built record context)
  | .unsetDeclarator, _, _, _ => .level rfl (.fail _ _)
  | .anonymousInitializer symbol statements, _, _, parts => by
      refine .level rfl ?_
      refine .bind (use .declaredInitializer symbol) fun _ _ _ first => ?_
      refine .map (parts statements ()) fun _ _ grown second =>
        ⟨?_, Tree.linked_of_knows rfl (grown.knows first.2)⟩
      refine (shape_then second.shape).trans ?_
      rw [← first.1]
      rfl
  | .classDeclarator symbol _ _ _ _ _ members thisReceiver typeParameters superTypes,
      site, _, parts => by
      refine .level rfl ?_
      refine .bind (use .declaredClass symbol) fun _ _ _ first => ?_
      refine .bind (parts members (Parent.declaration site.node)) fun _ _ grown
        second => ?_
      replace first := first.imp_right grown.knows
      refine .bind (parts thisReceiver site) fun _ _ grown third => ?_
      replace first := first.imp_right grown.knows
      refine .bind (parts typeParameters site) fun _ _ grown fourth => ?_
      replace first := first.imp_right grown.knows
      refine .map (parts superTypes ()) fun _ _ grown fifth =>
        ⟨?_, Tree.linked_of_knows rfl (grown.knows first.2)⟩
      refine (shape_then second.shape).trans ((shape_then third.shape).trans ?_)
      refine (shape_then fourth.shape).trans ((shape_then fifth.shape).trans ?_)
      rw [← first.1]
      rfl
  | .constructorDeclarator symbol _ signature _, site, _, parts => by
      refine .level rfl ?_
      refine .bind (use .declaredConstructor symbol) fun _ _ _ first => ?_
      refine .map (parts signature site) fun _ _ grown second =>
        ⟨?_, Tree.linked_of_knows rfl (grown.knows first.2)⟩
      refine (shape_then second.shape).trans ?_
      rw [← first.1]
      rfl
  | .enumEntry symbol _ entryClass initializer, site, _, parts => by
      refine .level rfl ?_
      refine .bind (use .declaredEnumEntry symbol) fun _ _ _ first => ?_
      refine .bind (parts entryClass (Parent.declaration site.node)) fun _ _ grown
        second => ?_
      replace first := first.imp_right grown.knows
      refine .append (Follows.requireClass second.forms) fun _ _ grown _ => ?_
      replace first := first.imp_right grown.knows
      refine .map (parts initializer ()) fun _ _ grown third =>
        ⟨?_, Tree.linked_of_knows rfl (grown.knows first.2)⟩
      refine (shape_then second.shape).trans ((shape_then third.shape).trans ?_)
      rw [← first.1]
      rfl
  | .fieldDeclarator field, _, _, parts => by
      refine .level rfl ?_
      refine .weaken (parts (c := .field) field ()) fun _ _ first => ?_
      exact ⟨first.shape, first.linked⟩
  | .functionDeclarator function, site, _, parts => by
      refine .level rfl ?_
      refine .weaken (parts (c := .function) function (site, none)) fun _ _ first => ?_
      exact ⟨first.shape, first.linked⟩
  | .property _ _ _ _ backingField getter setter, site, _, parts => by
      refine .level rfl ?_
      refine .bind (parts backingField site) fun _ _ _ first => ?_
      refine .bind (parts getter site) fun _ _ _ second => ?_
      refine .map (parts setter site) fun _ _ _ third =>
        ⟨?_, by rintro _ ⟨⟩⟩
      exact (shape_then first.shape).trans ((shape_then second.shape).trans
        (shape_then third.shape))
  | .typeAlias, _, _, _ => .level rfl (.pure ⟨rfl, by rintro _ ⟨⟩⟩)
  | .variableDeclarator symbol _ type _ initializer, _, _, parts => by
      refine .level rfl ?_
      refine .bind (parts initializer ()) fun _ _ _ first => ?_
      refine .bind (use .declaredVariable symbol) fun _ _ _ second => ?_
      refine .map (parts type ()) fun _ _ grown third =>
        ⟨?_, Tree.linked_of_knows rfl (grown.knows second.2)⟩
      refine (shape_then third.shape).trans ((shape_then first.shape).trans ?_)
      rw [← second.1]
      rfl

/-- Linking a record follows its layout if linking its parts does. -/
theorem layer_follows {c : Category} (record : Record c) (context : Context c) {state : State}
    (parts : LinkedBelow environment (sizeOf record)) :
    Follows environment state (build record context) [.part record]
      (Built record context) := by
  cases c with
  | list =>
      cases record with
      | nil =>
          exact .level rfl (.pure ⟨rfl, trivial⟩)
      | cons head tail =>
          refine .level rfl ?_
          refine .bind (parts head context) fun _ _ _ first => ?_
          refine .map (parts tail context) fun _ _ _ second => ⟨?_, trivial⟩
          exact (shape_then first.shape).trans (shape_then second.shape)
  | option =>
      cases record with
      | none =>
          exact .level rfl (.pure ⟨rfl, trivial⟩)
      | some value =>
          refine .level rfl ?_
          refine .map (parts value context) fun _ _ _ first => ⟨?_, trivial⟩
          exact shape_then first.shape
  | type => exact type_follows record context @parts
  | typeArgument =>
      cases record with
      | unsetArgument =>
          exact .level rfl (.fail _ _)
      | starArgument =>
          exact .level rfl (.pure ⟨rfl, trivial⟩)
      | projection _ type =>
          refine .level rfl ?_
          refine .map (parts type ()) fun _ _ _ first => ⟨?_, trivial⟩
          exact shape_then first.shape
  | call =>
      cases record with
      | callNode symbol qualifier _ access =>
          refine .level rfl ?_
          refine .bind (use .callee symbol) fun _ _ _ first => ?_
          refine .append (use? .superClass qualifier) fun _ _ _ second => ?_
          refine .map (parts access ()) fun _ _ _ third => ⟨?_, trivial⟩
          refine (shape_then third.shape).trans ?_
          rw [← first.1, ← second]
          rfl
  | access =>
      cases record with
      | accessNode dispatchReceiver extensionReceiver valueArguments typeArguments =>
          refine .level rfl ?_
          refine .bind (parts valueArguments ()) fun _ _ _ first => ?_
          refine .bind (parts typeArguments ()) fun _ _ _ second => ?_
          refine .bind (parts dispatchReceiver ()) fun _ _ _ third => ?_
          refine .map (parts extensionReceiver ()) fun _ _ _ fourth => ⟨?_, trivial⟩
          refine (shape_then first.shape).trans ((shape_then second.shape).trans ?_)
          exact (shape_then third.shape).trans (shape_then fourth.shape)
  | fieldAccess =>
      cases record with
      | fieldAccessNode symbol qualifier receiver =>
          refine .level rfl ?_
          refine .bind (use .accessedField symbol) fun _ _ _ first => ?_
          refine .append (use? .superClass qualifier) fun _ _ _ second => ?_
          refine .map (parts receiver ()) fun _ _ _ third => ⟨?_, trivial⟩
          refine (shape_then third.shape).trans ?_
          rw [← first.1, ← second]
          rfl
  | expression =>
      cases record with
      | expressionNode range type operation =>
          refine .below (c := .expression) rfl ?_
          refine .bind (parts type ()) fun type _ _ first => ?_
          refine .weaken (parts (c := .operation) operation (range, type)) fun _ _ second =>
            ⟨?_, trivial⟩
          exact (shape_then first.shape).trans second.shape
  | operation => exact operation_follows record context @parts
  | varargElement =>
      cases record with
      | unsetElement =>
          exact .level rfl (.fail _ _)
      | plainElement expression =>
          refine .level rfl ?_
          refine .map (parts expression ()) fun _ _ _ first => ⟨?_, trivial⟩
          exact shape_then first.shape
      | spreadElement _ expression =>
          refine .level rfl ?_
          refine .map (parts expression ()) fun _ _ _ first => ⟨?_, trivial⟩
          exact shape_then first.shape
  | statement => exact statement_follows record context @parts
  | branch => exact branch_follows record context @parts
  | catchClause => exact catchClause_follows record context @parts
  | body => exact body_follows record context @parts
  | declaration =>
      cases record with
      | declarationNode range origin annotations _ declarator =>
          refine .below (c := .declaration) rfl ?_
          refine .append (Follows.originNamed origin) fun origin _ _ first => ?_
          refine .silent Follows.freshNode fun node _ _ _ => ?_
          refine .bind (parts declarator ⟨node, range, origin⟩) fun _ _ _ second => ?_
          refine .bind (parts annotations ()) fun _ _ grown third => ?_
          refine .map (Follows.registerDeclaration second.symbol fun symbol declared =>
            grown.knows (second.linked symbol declared)) fun _ _ _ _ => ⟨?_, trivial⟩
          exact (shape_then first).trans ((shape_then second.shape).trans
            (shape_then third.shape))
  | declarator => exact declarator_follows record context @parts
  | signature =>
      cases record with
      | signatureNode returnType body valueParameters dispatchReceiver extensionReceiver
          typeParameters =>
          refine .level rfl ?_
          refine .bind (parts returnType ()) fun _ _ _ first => ?_
          refine .bind (parts body ()) fun _ _ _ second => ?_
          refine .bind (parts valueParameters context) fun _ _ _ third => ?_
          refine .bind (parts dispatchReceiver context) fun _ _ _ fourth => ?_
          refine .bind (parts extensionReceiver context) fun _ _ _ fifth => ?_
          refine .map (parts typeParameters context) fun _ _ _ sixth => ⟨?_, trivial⟩
          refine (shape_then first.shape).trans ((shape_then second.shape).trans ?_)
          refine (shape_then third.shape).trans ((shape_then fourth.shape).trans ?_)
          exact (shape_then fifth.shape).trans (shape_then sixth.shape)
  | function =>
      cases record with
      | functionNode symbol _ signature _ _ _ overridden =>
          rcases context with ⟨site, _⟩
          refine .level rfl ?_
          refine .bind (use .declaredFunction symbol) fun _ _ _ first => ?_
          refine .bind (parts signature site) fun _ _ grown second => ?_
          replace first := first.imp_right grown.knows
          refine .map (uses .overriddenFunction overridden) fun _ _ grown third =>
            ⟨?_, Tree.linked_of_knows rfl (grown.knows first.2)⟩
          refine (shape_then second.shape).trans ?_
          rw [← first.1, ← third]
          rfl
  | field =>
      cases record with
      | fieldNode symbol _ type _ _ initializer =>
          refine .level rfl ?_
          refine .bind (use .declaredField symbol) fun _ _ _ first => ?_
          refine .bind (parts type ()) fun _ _ grown second => ?_
          replace first := first.imp_right grown.knows
          refine .map (parts initializer ()) fun _ _ grown third =>
            ⟨?_, Tree.linked_of_knows rfl (grown.knows first.2)⟩
          refine (shape_then second.shape).trans ((shape_then third.shape).trans ?_)
          rw [← first.1]
          rfl
  | accessor =>
      cases record with
      | asAccessor function =>
          refine .level rfl ?_
          refine .bind (parts (c := .function) function (context, some context.node)) fun
            declarator _ _ first => ?_
          refine .silent (.child context declarator) fun _ _ grown made => ?_
          rcases made with ⟨node, rfl⟩
          refine .map (Follows.registerDeclaration first.functionSymbol fun symbol declared =>
            grown.knows (first.linked symbol declared)) fun _ _ _ _ => ⟨?_, trivial⟩
          exact shape_then first.shape
  | backingField =>
      cases record with
      | asBackingField field =>
          refine .level rfl ?_
          refine .bind (parts (c := .field) field ()) fun declarator _ _ first => ?_
          refine .weaken (.child context declarator) fun _ _ made => ?_
          rcases made with ⟨node, rfl⟩
          exact ⟨shape_then first.shape, trivial⟩
  | valueParameter =>
      cases record with
      | valueParameterNode symbol _ _ type varargElementType _ _ defaultValue =>
          refine .level rfl ?_
          refine .bind (parts varargElementType ()) fun _ _ _ first => ?_
          refine .bind (use .declaredValueParameter symbol) fun _ _ _ second => ?_
          refine .bind (parts type ()) fun _ _ _ third => ?_
          refine .map (parts defaultValue ()) fun _ _ _ fourth => ⟨?_, trivial⟩
          refine (shape_then third.shape).trans ((shape_then first.shape).trans ?_)
          refine (shape_then fourth.shape).trans ?_
          rw [← second.1]
          rfl
  | typeParameter =>
      cases record with
      | typeParameterNode symbol _ _ _ superTypes =>
          refine .level rfl ?_
          refine .bind (use .declaredTypeParameter symbol) fun _ _ _ first => ?_
          refine .map (parts superTypes ()) fun _ _ _ second => ⟨?_, trivial⟩
          refine (shape_then second.shape).trans ?_
          rw [← first.1]
          rfl

/-- Linking a record does what its steps do, and gives a tree of its shape. -/
theorem build_follows {c : Category} (record : Record c) (context : Context c)
    {state : State} :
    Follows environment state (build record context) [.part record] (Built record context) := by
  induction record using Record.size_induction generalizing state with
  | node record inductionHypothesis =>
      exact layer_follows record context fun inner context _ smaller =>
        inductionHypothesis inner smaller context

end Decode

end IrLink
