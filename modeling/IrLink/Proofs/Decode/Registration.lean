import IrLink.Proofs.Decode.History

/-!
# Known declarations

A session knows declarations under their real descriptors.  What it has handed
out is known to it, apart from the storage of properties and from declarations
without a real descriptor, which stay unknown.

A request makes known the declarations of its answer, and those inside recorded
types that the trees leave out: these are linked although an expression of
another type takes their place (`Record.leftOut`).
-/

namespace IrLink

variable {environment : Environment} {state after : State} {responses : List Response}

/-! ## Declarations of answers -/

namespace Response

/-- The declarations inside the trees of an answer. -/
def declarationNodes (response : Response) : List (Tree .declaration) :=
  response.roots.flatMap fun root => root.tree.declarationNodes

/-- The storage of properties inside the trees of an answer. -/
def backingFields (response : Response) : List (Tree .declaration) :=
  response.roots.flatMap fun root => root.tree.backingFields

/-- The declarations inside the trees of an answer, without the storage of
properties. -/
def declared (response : Response) : List (Tree .declaration) :=
  response.roots.flatMap fun root => root.tree.declared

/-- A declaration inside an answer is declared in it or stores a property. -/
theorem declarationNodes_perm (response : Response) :
    response.declarationNodes.Perm (response.declared ++ response.backingFields) := by
  refine (List.Perm.flatMap_left _ fun root _ => root.tree.declared_perm).trans ?_
  exact (List.flatMap_append_perm _ _ _).symm

/-- The marks of what is inside a root are marks of the answer. -/
theorem mem_marks {response : Response} {root : Node} (isRoot : root ∈ response.roots)
    {mark : Mark} (marked : mark ∈ root.tree.ownedMarks) : mark ∈ response.marks :=
  List.mem_flatMap.mpr ⟨root, isRoot, marked⟩

end Response

/-- The recorded types that the answer to a request leaves out. -/
def Request.leftOut (request : Request) : List (Record .type) :=
  request.items.flatMap Item.leftOut

/-! ## What marks say -/

section Marks

variable {c : Category} {tree : Tree c}

/-- What a tree declares is known where its marks are linked. -/
theorem Tree.declared_known (marked : ∀ mark ∈ tree.ownedMarks, mark.Holds environment state)
    {declaration : Tree .declaration} (among : declaration ∈ tree.declared)
    {descriptor : Descriptor} (described : declaration.backingDescriptor? = .some descriptor) :
    state.Registers descriptor.id declaration := by
  rcases List.mem_filterMap.mp among with ⟨mark, inside, same⟩
  cases mark with
  | declaration found =>
      cases same
      exact marked _ inside descriptor described
  | _ => cases same

/-- The storage of properties is unknown where the marks of a tree are linked. -/
theorem Tree.backingFields_unknown
    (marked : ∀ mark ∈ tree.ownedMarks, mark.Holds environment state)
    {declaration : Tree .declaration} (among : declaration ∈ tree.backingFields)
    {id : DescriptorId} {known : Tree .declaration} (registered : state.Registers id known) :
    known.node ≠ declaration.node := by
  rcases List.mem_filterMap.mp among with ⟨mark, inside, same⟩
  cases mark with
  | backingField found =>
      cases same
      exact (marked _ (List.mem_append_right _ inside)).2 id known registered
  | _ => cases same

/-- The symbol of a declaration inside a tree is marked in the tree. -/
theorem Tree.marked_of_declares {declaration : Tree .declaration}
    (inside : ⟨declaration⟩ ∈ tree.nodes) {symbol : Symbol}
    (declares : declaration.declarator.declaredSymbol? = .some symbol) :
    ∃ requirement, .symbol requirement symbol ∈ tree.allMarks := by
  rcases Decode.declaredSymbol_marked declares with ⟨requirement, isMarked⟩
  refine ⟨requirement, mem_allMarks_of_mem_nodes inside ?_⟩
  cases declaration with
  | declarationNode node range origin parent declarator annotations =>
      exact mem_allMarks_iff.mpr (.inr ⟨⟨declarator⟩, .head _, isMarked⟩)

/-- The symbol of what a tree declares is known where its marks are linked. -/
theorem Tree.declaredSymbol_known
    (marked : ∀ mark ∈ tree.ownedMarks, mark.Holds environment state)
    {declaration : Tree .declaration} (among : declaration ∈ tree.declared) {symbol : Symbol}
    (declares : declaration.declarator.declaredSymbol? = .some symbol) :
    state.Knows symbol := by
  rcases marked_of_declares (mem_nodes_of_mem_declared among) declares with
    ⟨requirement, isMarked⟩
  exact (marked _ (List.mem_append_right _ isMarked)).1

/-- The declarations that count among some marks. -/
theorem Mark.countP_declares (marks : List Mark)
    (known : ∀ declaration ∈ marks.filterMap Mark.declaration?, ∀ symbol,
      declaration.declarator.declaredSymbol? = some symbol → state.Knows symbol) :
    marks.countP (·.declares state.describes) =
      (marks.filterMap Mark.declaration?).countP (·.backingDescriptor?.isSome) := by
  rw [List.countP_filterMap]
  refine List.countP_congr fun mark among => ?_
  cases mark with
  | declaration declaration =>
      have inside : declaration ∈ marks.filterMap Mark.declaration? :=
        List.mem_filterMap.mpr ⟨_, among, rfl⟩
      rw [← Bool.eq_iff_iff]
      exact State.describes_declared (known declaration inside)
  | _ => exact Iff.rfl

end Marks

/-! ## Histories -/

/-- Whether the descriptor of a declaration is real. -/
def Tree.isDescribed (declaration : Tree .declaration) : Bool :=
  !declaration.descriptor.isPlaceholder

theorem Tree.isSome_backingDescriptor? (declaration : Tree .declaration) :
    declaration.backingDescriptor?.isSome = declaration.isDescribed := by
  unfold backingDescriptor? isDescribed
  cases placeholder : declaration.descriptor.isPlaceholder <;> simp [placeholder]

theorem Tree.backingDescriptor?_of_isDescribed {declaration : Tree .declaration}
    (described : declaration.isDescribed = true) :
    declaration.backingDescriptor? = .some declaration.descriptor := by
  unfold isDescribed at described
  unfold backingDescriptor?
  cases placeholder : declaration.descriptor.isPlaceholder with
  | false => simp [placeholder]
  | true => simp [placeholder] at described

theorem Tree.isDescribed_of_backingDescriptor? {declaration : Tree .declaration}
    {descriptor : Descriptor} (described : declaration.backingDescriptor? = .some descriptor) :
    declaration.isDescribed = true ∧ declaration.descriptor = descriptor := by
  have real : declaration.isDescribed = true := by
    rw [← isSome_backingDescriptor?, described]
    rfl
  rw [backingDescriptor?_of_isDescribed real] at described
  exact ⟨real, Option.some.inj described⟩

/-- A declaration inside an answer that stores no property. -/
def Response.Declares (response : Response) (declaration : Tree .declaration) : Prop :=
  declaration ∈ response.declarationNodes ∧ declaration ∉ response.backingFields

/-- Storage of a property in an answer or in a known declaration. -/
def State.Stores (state : State) (responses : List Response)
    (declaration : Tree .declaration) : Prop :=
  (∃ response ∈ responses, declaration ∈ response.backingFields) ∨
    ∃ id holder, state.Registers id holder ∧ declaration ∈ holder.backingFields

namespace Response.Linked

variable {response : Response} (linked : response.Linked environment state)

include linked

theorem root {root : Node} (isRoot : root ∈ response.roots) :
    ∀ mark ∈ root.tree.ownedMarks, mark.Holds environment state :=
  fun mark marked => linked.marks mark (mem_marks isRoot marked)

/-- What an answer declares with a real descriptor is known where it is linked. -/
theorem registers {declaration : Tree .declaration} (declares : response.Declares declaration)
    (described : declaration.isDescribed = true) :
    state.Registers declaration.descriptor.id declaration := by
  have inside := response.declarationNodes_perm.mem_iff.mp declares.1
  have among := (List.mem_append.mp inside).resolve_right declares.2
  rcases List.mem_flatMap.mp among with ⟨root, isRoot, declared⟩
  exact Tree.declared_known (linked.root isRoot) declared
    (Tree.backingDescriptor?_of_isDescribed described)

/-- The declarations of an answer that count are those with a real descriptor. -/
theorem countP_declares :
    response.marks.countP (·.declares state.describes) =
      response.declared.countP Tree.isDescribed := by
  have declared : response.marks.filterMap Mark.declaration? = response.declared :=
    List.filterMap_flatMap
  rw [Mark.countP_declares, declared]
  · exact List.countP_congr fun declaration _ => by rw [Tree.isSome_backingDescriptor?]
  · rw [declared]
    intro declaration among symbol declares
    rcases List.mem_flatMap.mp among with ⟨root, isRoot, inside⟩
    exact Tree.declaredSymbol_known (linked.root isRoot) inside declares

end Response.Linked

/-- A request makes known the declarations of its answer, and those inside the
recorded types that the answer leaves out. -/
theorem State.Settled.declarationCount (settled : state.Settled environment)
    {request : Request} {response : Response}
    (answers : request.answer environment state = .ok response after) :
    after.declarationCount = state.declarationCount +
      response.declared.countP Tree.isDescribed +
      (request.leftOut.flatMap Record.effects).countP (·.declares after.describes) := by
  rcases Request.answered settled.sound answers with ⟨tallied, count⟩
  have linked : response.Linked environment after := ⟨tallied.symbol, tallied.tally.holds⟩
  have items := Record.count_effects_items after.describes request.items
    fun part _ => part.count_effects after.describes
  rw [count, items, ← tallied.tally.number, linked.countP_declares, Nat.add_assoc]
  rfl

theorem State.findDeclaration_of_registers {declaration : Tree .declaration}
    (registered : state.Registers declaration.descriptor.id declaration) :
    state.findDeclaration declaration.descriptor = .ok declaration := by
  have found : state.declarations[declaration.descriptor.id]? = some declaration := registered
  rw [findDeclaration, found]

namespace History

/-- At every point of a session: declarations are known under their real
descriptors; what was handed out is found by its descriptor, so that no two
declarations in answers share one; and the storage of properties is unknown.  A
request makes known the declarations of its answer, and those inside recorded
types that the answer leaves out. -/
theorem registration (history : History environment state responses) :
    (∀ id declaration, state.Registers id declaration →
      declaration.descriptor.id = id ∧ declaration.isDescribed = true) ∧
    (∀ response ∈ responses, ∀ declaration, response.Declares declaration →
      declaration.isDescribed = true →
        state.findDeclaration declaration.descriptor = .ok declaration) ∧
    (∀ first ∈ responses, ∀ second ∈ responses, ∀ declaration other,
      first.Declares declaration → second.Declares other →
        declaration.isDescribed = true →
          declaration.descriptor.id = other.descriptor.id → declaration = other) ∧
    (∀ declaration, state.Stores responses declaration → ∀ id known,
      state.Registers id known → known.node ≠ declaration.node) ∧
    ∀ (request : Request) (response : Response) (after : State),
      request.answer environment state = .ok response after →
        after.declarationCount = state.declarationCount +
          response.declared.countP Tree.isDescribed +
          (request.leftOut.flatMap Record.effects).countP (·.declares after.describes) := by
  have settled := history.reachable.settled
  refine ⟨?described, ?found, ?apart, ?stored, fun request response after =>
    settled.declarationCount⟩
  case described =>
    intro id declaration registered
    rcases settled.sound.described id declaration registered with ⟨descriptor, real, rfl⟩
    rcases Tree.isDescribed_of_backingDescriptor? real with ⟨described, rfl⟩
    exact ⟨rfl, described⟩
  case found =>
    intro response among declaration declares described
    exact State.findDeclaration_of_registers
      ((history.linked response among).registers declares described)
  case apart =>
    intro first firstAmong second secondAmong declaration other declares alsoDeclares
      described same
    have alsoDescribed : other.isDescribed = true := by
      rw [Tree.isDescribed, Descriptor.isPlaceholder, ← same]
      exact described
    have known := (history.linked first firstAmong).registers declares described
    have alsoKnown :=
      (history.linked second secondAmong).registers alsoDeclares alsoDescribed
    rw [State.Registers, same] at known
    exact Option.some.inj (known.symm.trans alsoKnown)
  case stored =>
    rintro declaration (⟨response, among, stores⟩ | ⟨id, holder, holds, stores⟩)
    · rcases List.mem_flatMap.mp stores with ⟨root, isRoot, stores⟩
      intro id known
      exact Tree.backingFields_unknown ((history.linked response among).root isRoot) stores
    · intro other known
      exact Tree.backingFields_unknown (settled.marked id holder holds) stores

end History

/-! ## A local variable -/

/-- A universe that knows one variable, which stands in a package. -/
def Universe.ofVariable : Universe :=
  let described : Descriptor :=
    { id := .declared 0, kind := .localVariable, name := "x", index := some 7 }
  { name := ""
    table := (DescriptorTable.empty.add? described).getD .empty
    packages := [("p", described)] }

namespace Record

/-- The record of the variable. -/
def localVariable : Record .declaration :=
  .declarationNode .zero "DEFINED" .nil "" <|
    .variableDeclarator
      ⟨.symbol .localVariable, ⟨1000, false⟩,
        .some ⟨"p", "", "x", ⟨7, false⟩, false, false, false, false, false, false⟩⟩
      "x" (.dynamicType .nil .invariant) ⟨false, false, false⟩ .none

/-- The record of a block that declares the variable. -/
def localBlock : Record .expression :=
  .expressionNode .zero (.dynamicType .nil .invariant) <|
    .block (.cons (.declarationStatement .zero localVariable) .nil) false

/-- The record of a throw with a type of its own, which has the block in an
annotation. -/
def annotatedThrow : Record .expression :=
  .expressionNode .zero
    (.dynamicType
      (.cons (.callNode ⟨.symbol .function, ⟨13, false⟩, .none⟩ .none .ordinary
        (.accessNode .none .none (.cons (.some localBlock) .nil) .nil)) .nil) .invariant) <|
    .throwValue (.expressionNode .zero (.dynamicType .nil .invariant) (.constant .null))

end Record

/-- The variable that a block declares is found by its descriptor. -/
theorem History.registration_localBlock :
    ∃ state response declaration,
      History ⟨.ofVariable, {}⟩ state [response] ∧ response.Declares declaration ∧
        declaration.isDescribed = true ∧
        state.findDeclaration declaration.descriptor = .ok declaration := by
  have answers : ∃ response after declaration,
      (Request.expression .localBlock).answer ⟨.ofVariable, {}⟩ .initial =
          .ok response after ∧
        response.declarationNodes = [declaration] ∧ response.backingFields = [] ∧
        declaration.isDescribed = true := ⟨_, _, _, rfl, rfl, rfl, rfl⟩
  rcases answers with ⟨response, after, declaration, answers, nodes, backing, described⟩
  have history := History.start.answered _ answers
  have declares : response.Declares declaration := by
    refine ⟨nodes ▸ List.mem_singleton_self _, ?_⟩
    rw [backing]
    exact List.not_mem_nil
  exact ⟨after, response, declaration, history, declares, described,
    history.registration.2.1 response (.head _) declaration declares described⟩

/-- A request can make a declaration known although its answer has none: the tree
of a throw leaves the recorded type out. -/
theorem State.declarationCount_annotatedThrow :
    ∃ response after,
      (Request.expression .annotatedThrow).answer ⟨.ofVariable, {}⟩ .initial =
          .ok response after ∧
        response.declarationNodes = [] ∧
        after.declarationCount = State.initial.declarationCount + 1 := by
  have evaluated :
      (match (Request.expression .annotatedThrow).answer ⟨.ofVariable, {}⟩ .initial with
        | .ok response after => response.declarationNodes.isEmpty &&
            after.declarationCount == State.initial.declarationCount + 1
        | .error _ _ => false) = true := by
    decide +kernel
  split at evaluated
  · rename_i response after answers
    rw [Bool.and_eq_true, List.isEmpty_iff, beq_iff_eq] at evaluated
    exact ⟨response, after, answers, evaluated⟩
  · cases evaluated

end IrLink
