import IrLink.Proofs.Decode.Reachable
import IrLink.Proofs.Tree.Marks

/-!
# How sessions grow

A session only grows: what its maps hold is never replaced, a loop that has its
contents keeps them, and the declarations that become known are newer than the
session before, or were still under construction then (`State.Grown`).  What the
marks of a tree say of a session (`Mark.Holds`) therefore stays true
(`Mark.Holds.mono`).

A sound session (`State.Sound`) holds every symbol and every declaration under
what identifies it.  A computation leaves a footprint (`State.Footprint`): the
session grows, stays sound, and keeps all loops that were begun before, with or
without contents.
-/

namespace IrLink

namespace LoopTable

variable {table : LoopTable} {loop : LoopNode} {node next filled : Nat} {id taken : Int32}
  {contents : LoopContents}

theorem node?_lt (found : table.node? node = some loop) : node < table.nextNode :=
  (Array.getElem?_eq_some_iff.mp found).1

/-- A new loop gets the next number. -/
theorem node?_allocate :
    (table.allocate loop).node? node =
      if node = table.nextNode then some loop else table.node? node :=
  Array.getElem?_push

theorem nextNode_allocate : (table.allocate loop).nextNode = table.nextNode + 1 :=
  Array.size_push _

/-- A loop is registered under an identifier that was free. -/
theorem lookup?_register :
    (table.register taken next).lookup? id =
      if taken = id ∧ table.lookup? taken = none then some next else table.lookup? id := by
  simp only [lookup?, register, Std.TreeMap.getElem?_insertIfNew,
    Std.LawfulEqOrd.compare_eq_iff_eq, Std.TreeMap.mem_iff_isSome_getElem?,
    Bool.not_eq_true, Option.isSome_eq_false_iff, Option.isNone_iff_eq_none]
  congr

/-- An identifier that is registered stays so. -/
theorem lookup?_register_of_some (found : table.lookup? id = some node) :
    (table.register taken next).lookup? id = some node := by
  rw [lookup?_register, if_neg]
  · exact found
  · rintro ⟨rfl, free⟩
    rw [free] at found
    cases found

theorem nextNode_populate : (table.populate filled contents).nextNode = table.nextNode := by
  unfold populate
  cases table.node? filled with
  | none => rfl
  | some loop =>
      cases populated : loop.isPopulated with
      | true => simp only [populated, if_true]
      | false => simp [nextNode, populated]

theorem lookup?_populate : (table.populate filled contents).lookup? id = table.lookup? id := by
  unfold populate
  cases table.node? filled with
  | none => rfl
  | some loop => cases populated : loop.isPopulated <;> simp only [populated] <;> rfl

/-- Filling a loop leaves all others as they are. -/
theorem node?_populate_of_ne (different : filled ≠ node) :
    (table.populate filled contents).node? node = table.node? node := by
  unfold populate
  cases table.node? filled with
  | none => rfl
  | some loop =>
      cases populated : loop.isPopulated with
      | true => simp only [populated, if_true]
      | false =>
          simp only [populated]
          exact Array.getElem?_setIfInBounds_ne different

/-- Loops that have their contents keep them. -/
theorem node?_populate_of_isPopulated (found : table.node? node = some loop)
    (populated : loop.isPopulated = true) :
    (table.populate filled contents).node? node = some loop := by
  by_cases same : filled = node
  · subst same
    simp only [populate, found, populated, if_true]
  · rw [node?_populate_of_ne same, found]

/-- A shell that is filled gets its contents. -/
theorem node?_populate_self (found : table.node? node = some loop)
    (shell : loop.isPopulated = false) :
    (table.populate node contents).node? node =
      some { loop with contents := some contents } := by
  simp only [populate, found, shell]
  exact Array.getElem?_setIfInBounds_self.trans (if_pos (node?_lt found))

end LoopTable

namespace State

/-- A declaration is known under the identity of a descriptor. -/
def Registers (state : State) (id : DescriptorId) (declaration : Tree .declaration) : Prop :=
  state.declarations[id]? = some declaration

/-! ## Growth -/

/-- A state and a later one of the same session.  Declarations of some numbers may
be under construction in the first. -/
structure Grown (before : State) (pending : List Nat) (after : State) : Prop where
  symbols : after.Extends before
  declarations : ∀ id declaration, before.Registers id declaration →
    after.Registers id declaration
  registered : ∀ id node, before.loops.lookup? id = some node →
    after.loops.lookup? id = some node
  /-- Loops that have their contents keep them. -/
  loops : ∀ node loop, before.loops.node? node = some loop → loop.isPopulated = true →
    after.loops.node? node = some loop
  nextNode : before.nextNode ≤ after.nextNode
  /-- A declaration that becomes known is newer than the state before, or was under
  construction. -/
  newer : ∀ id declaration, after.Registers id declaration →
    before.Registers id declaration ∨ before.nextNode ≤ declaration.node ∨
      declaration.node ∈ pending

theorem Grown.refl (state : State) (pending : List Nat) : state.Grown pending state where
  symbols := .refl state
  declarations := fun _ _ known => known
  registered := fun _ _ known => known
  loops := fun _ _ known _ => known
  nextNode := Nat.le_refl _
  newer := fun _ _ known => .inl known

theorem Grown.trans {first second third : State} {pending : List Nat}
    (early : first.Grown [] second) (late : second.Grown pending third) :
    first.Grown pending third where
  symbols := late.symbols.trans early.symbols
  declarations := fun id declaration known =>
    late.declarations id declaration (early.declarations id declaration known)
  registered := fun id node known => late.registered id node (early.registered id node known)
  loops := fun node loop known populated =>
    late.loops node loop (early.loops node loop known populated) populated
  nextNode := Nat.le_trans early.nextNode late.nextNode
  newer := fun id declaration known => by
    rcases late.newer id declaration known with known | newer | underway
    · rcases early.newer id declaration known with known | newer | ⟨⟨⟩⟩
      · exact .inl known
      · exact .inr (.inl newer)
    · exact .inr (.inl (Nat.le_trans early.nextNode newer))
    · exact .inr (.inr underway)

/-- Other declarations may be under construction. -/
theorem Grown.underway {before after : State} {pending others : List Nat}
    (grown : before.Grown pending after) (among : ∀ node ∈ pending, node ∈ others) :
    before.Grown others after :=
  { grown with
    newer := fun id declaration known =>
      (grown.newer id declaration known).imp_right (Or.imp_right (among _)) }

/-! ## Soundness -/

/-- What holds of the state of a session at all times. -/
structure Sound (state : State) : Prop where
  keyed : state.Keyed
  builtins : ∀ builtin ∈ Builtin.all, state.Knows builtin.symbol
  /-- A declaration is known under the real descriptor behind it. -/
  described : ∀ id declaration, state.Registers id declaration →
    ∃ descriptor : Descriptor, declaration.backingDescriptor? = some descriptor ∧ descriptor.id = id
  older : ∀ id declaration, state.Registers id declaration →
    declaration.node < state.nextNode

/-- What a computation leaves of a session, however it ends. -/
structure Footprint (before after : State) : Prop where
  grown : before.Grown [] after
  sound : after.Sound
  /-- Loops that were begun before stay as they are, even those without contents. -/
  loops : ∀ node, node < before.loops.nextNode →
    after.loops.node? node = before.loops.node? node
  nextLoop : before.loops.nextNode ≤ after.loops.nextNode

theorem Footprint.refl {state : State} (sound : state.Sound) : state.Footprint state where
  grown := .refl state []
  sound := sound
  loops := fun _ _ => rfl
  nextLoop := Nat.le_refl _

theorem Footprint.trans {first second third : State} (early : first.Footprint second)
    (late : second.Footprint third) : first.Footprint third where
  grown := early.grown.trans late.grown
  sound := late.sound
  loops := fun node older =>
    (late.loops node (Nat.lt_of_lt_of_le older early.nextLoop)).trans (early.loops node older)
  nextLoop := Nat.le_trans early.nextLoop late.nextLoop

/-! ## Steps -/

section Steps

variable {state before after : State}

/-- The nesting does not matter. -/
theorem Sound.atDepth (sound : state.Sound) (depth : Nat) : { state with depth }.Sound :=
  { sound with }

/-- What is built deeper leaves the same footprint. -/
theorem Footprint.ofDepth {inner : Nat} (outer : Nat)
    (footprint : { before with depth := inner }.Footprint after) :
    before.Footprint { after with depth := outer } where
  grown := { footprint.grown with }
  sound := footprint.sound.atDepth outer
  loops := footprint.loops
  nextLoop := footprint.nextLoop

/-- Linking a symbol. -/
theorem Footprint.ofSymbols {symbols : Std.TreeMap UInt64 Symbol} (sound : state.Sound)
    (kept : Decode.Kept state (state.withSymbols symbols)) :
    state.Footprint (state.withSymbols symbols) where
  grown := { Grown.refl state [] with symbols := kept.grown }
  sound := {
    keyed := kept.keyed
    builtins := fun builtin among => kept.grown.knows (sound.builtins builtin among)
    described := sound.described
    older := sound.older }
  loops := fun _ _ => rfl
  nextLoop := Nat.le_refl _

/-- A state in which another loop was begun. -/
def begun (state : State) (shell : LoopNode) : State :=
  { state with
    loops := (state.loops.allocate shell).register shell.id state.loops.nextNode }

/-- A state in which a loop got its contents. -/
def filled (state : State) (node : Nat) (contents : LoopContents) : State :=
  { state with loops := state.loops.populate node contents }

theorem node?_begun (shell : LoopNode) (node : Nat) :
    (state.begun shell).loops.node? node =
      if node = state.loops.nextNode then some shell else state.loops.node? node :=
  LoopTable.node?_allocate

theorem nextLoop_begun (shell : LoopNode) :
    (state.begun shell).loops.nextNode = state.loops.nextNode + 1 :=
  LoopTable.nextNode_allocate

/-- Beginning a loop. -/
theorem Footprint.begun (sound : state.Sound) (shell : LoopNode) :
    state.Footprint (state.begun shell) where
  grown := { Grown.refl state [] with
    registered := fun _ _ known => LoopTable.lookup?_register_of_some known
    loops := fun node loop known _ => by
      rw [node?_begun, if_neg (Nat.ne_of_lt (LoopTable.node?_lt known))]
      exact known }
  sound := { sound with }
  loops := fun node older => by rw [node?_begun, if_neg (Nat.ne_of_lt older)]
  nextLoop := by
    rw [nextLoop_begun]
    exact Nat.le_succ _

theorem Grown.filled (state : State) (node : Nat) (contents : LoopContents) :
    state.Grown [] (state.filled node contents) :=
  { Grown.refl state [] with
    registered := fun _ _ known => LoopTable.lookup?_populate.trans known
    loops := fun _ _ known populated => LoopTable.node?_populate_of_isPopulated known populated }

/-- A loop from its beginning to its end. -/
theorem Footprint.filled (sound : state.Sound) {shell : LoopNode} {contents : LoopContents}
    (inside : (state.begun shell).Footprint after) :
    state.Footprint (after.filled state.loops.nextNode contents) where
  grown := ((Footprint.begun sound shell).trans inside).grown.trans (.filled after _ contents)
  sound := { inside.sound with }
  loops := fun node older => by
    rw [← ((Footprint.begun sound shell).trans inside).loops node older]
    exact LoopTable.node?_populate_of_ne (Nat.ne_of_gt older)
  nextLoop :=
    Nat.le_trans ((Footprint.begun sound shell).trans inside).nextLoop
      (Nat.le_of_eq LoopTable.nextNode_populate.symm)

/-- A state in which a number was given to a declaration. -/
def numbered (state : State) : State :=
  { state with nextNode := state.nextNode + 1 }

/-- Giving a number to a declaration. -/
theorem Footprint.numbered (sound : state.Sound) : state.Footprint state.numbered where
  grown := { Grown.refl state [] with nextNode := Nat.le_succ _ }
  sound := { sound with
    older := fun id declaration known => Nat.lt_succ_of_lt (sound.older id declaration known) }
  loops := fun _ _ => rfl
  nextLoop := Nat.le_refl _

/-- The declaration that got a number is under construction. -/
theorem older_numbered {pending : List Nat} (older : ∀ node ∈ pending, node < state.nextNode) :
    ∀ node ∈ state.nextNode :: pending, node < state.numbered.nextNode := by
  intro node among
  rcases List.mem_cons.mp among with rfl | among
  · exact Nat.lt_succ_self _
  · exact Nat.lt_succ_of_lt (older node among)

/-- A state in which another declaration is known. -/
def declaring (state : State) (id : DescriptorId) (declaration : Tree .declaration) : State :=
  { state with declarations := state.declarations.insert id declaration }

/-- A declaration that is made known is the one that was added. -/
theorem registers_declaring {id other : DescriptorId}
    {declaration known : Tree .declaration} :
    (state.declaring id declaration).Registers other known ↔
      if id = other then known = declaration else state.Registers other known := by
  simp only [Registers, declaring, Std.TreeMap.getElem?_insert,
    Std.LawfulEqOrd.compare_eq_iff_eq]
  split
  · rw [Option.some.injEq, eq_comm]
  · exact Iff.rfl

/-- Making a declaration known that is newer than the state before. -/
theorem Footprint.declaring {descriptor : Descriptor} {declaration : Tree .declaration}
    (footprint : before.Footprint state)
    (described : declaration.backingDescriptor? = some descriptor)
    (free : state.declarations[descriptor.id]? = none)
    (newer : before.nextNode ≤ declaration.node) (older : declaration.node < state.nextNode) :
    before.Footprint (state.declaring descriptor.id declaration) where
  grown := { footprint.grown with
    declarations := fun id known registered => by
      rw [registers_declaring, if_neg]
      · exact footprint.grown.declarations id known registered
      · rintro rfl
        have taken := footprint.grown.declarations _ known registered
        rw [Registers, free] at taken
        cases taken
    newer := fun id known registered => by
      rw [registers_declaring] at registered
      split at registered
      · subst registered
        exact .inr (.inl newer)
      · exact footprint.grown.newer id known registered }
  sound := { footprint.sound with
    described := fun id known registered => by
      rw [registers_declaring] at registered
      split at registered
      · rename_i same
        subst registered
        exact ⟨descriptor, described, same⟩
      · exact footprint.sound.described id known registered
    older := fun id known registered => by
      rw [registers_declaring] at registered
      split at registered
      · subst registered
        exact older
      · exact footprint.sound.older id known registered }
  loops := footprint.loops
  nextLoop := footprint.nextLoop

/-- Where a declaration is made known, it was under construction before. -/
theorem Grown.ofDeclaring {id : DescriptorId} {declaration : Tree .declaration}
    {pending : List Nat} (free : before.declarations[id]? = none)
    (grown : (before.declaring id declaration).Grown pending after) :
    before.Grown (declaration.node :: pending) after where
  symbols := grown.symbols
  declarations := fun other known registered => by
    refine grown.declarations other known (registers_declaring.mpr ?_)
    rw [if_neg]
    · exact registered
    · rintro rfl
      rw [Registers, free] at registered
      cases registered
  registered := grown.registered
  loops := grown.loops
  nextNode := grown.nextNode
  newer := fun other known registered => by
    rcases grown.newer other known registered with registered | newer | underway
    · rw [registers_declaring] at registered
      split at registered
      · subst registered
        exact .inr (.inr (.head _))
      · exact .inl registered
    · exact .inr (.inl newer)
    · exact .inr (.inr (.tail _ underway))

theorem declarationCount_declaring {id : DescriptorId} {declaration : Tree .declaration}
    (free : state.declarations[id]? = none) :
    (state.declaring id declaration).declarationCount = state.declarationCount + 1 := by
  have absent : state.declarations.contains id = false := by
    rw [Std.TreeMap.contains_eq_isSome_getElem?, free]
    rfl
  simp only [declarationCount, declaring, Std.TreeMap.size_insert, absent]
  rfl

/-- What is under construction stays older than what is to come. -/
theorem Footprint.older {pending : List Nat} (footprint : before.Footprint after)
    (older : ∀ node ∈ pending, node < before.nextNode) :
    ∀ node ∈ pending, node < after.nextNode :=
  fun node among => Nat.lt_of_lt_of_le (older node among) footprint.grown.nextNode

end Steps

end State

/-! ## Marks -/

/-- What the mark of a tree says of the session in which the tree was linked. -/
def Mark.Holds (environment : Environment) (state : State) : Mark → Prop
  | .symbol requirement found =>
      state.Knows found ∧ (environment.settings.checkSymbolKinds = true →
        requirement.accepts found.kind = true)
  | .jump found => state.loops.lookup? found.loopId = some found.target
  | .loop node found => state.loops.node? node = some found ∧ found.isPopulated = true
  | .declaration found =>
      ∀ descriptor, found.backingDescriptor? = some descriptor →
        state.Registers descriptor.id found
  | .backingField found =>
      found.node < state.nextNode ∧
        ∀ id known, state.Registers id known → known.node ≠ found.node

/-- What a mark says of a session stays true. -/
theorem Mark.Holds.mono {environment : Environment} {before after : State} {mark : Mark}
    (holds : mark.Holds environment before) (grown : before.Grown [] after) :
    mark.Holds environment after := by
  cases mark with
  | symbol requirement symbol => exact ⟨grown.symbols.knows holds.1, holds.2⟩
  | jump jump => exact grown.registered _ _ holds
  | loop node loop => exact ⟨grown.loops node loop holds.1 holds.2, holds.2⟩
  | declaration declaration =>
      intro descriptor described
      exact grown.declarations _ _ (holds descriptor described)
  | backingField declaration =>
      refine ⟨Nat.lt_of_lt_of_le holds.1 grown.nextNode, fun id known found => ?_⟩
      rcases grown.newer id known found with found | newer | ⟨⟨⟩⟩
      · exact holds.2 id known found
      · exact Nat.ne_of_gt (Nat.lt_of_lt_of_le holds.1 newer)

/-- Whether the symbol with an identifier has a real descriptor. -/
def State.describes (state : State) (id : UInt64) : Bool :=
  state.symbols[id]?.any fun symbol => !symbol.descriptor.isPlaceholder

/-- A declaration with a known symbol has a real descriptor if the symbol has. -/
theorem State.describes_declared {state : State} {declaration : Tree .declaration}
    (known : ∀ symbol, declaration.declarator.declaredSymbol? = some symbol →
      state.Knows symbol) :
    (declaration.declarator.declaredSymbol?.any fun symbol => state.describes symbol.id) =
      declaration.backingDescriptor?.isSome := by
  cases declares : declaration.declarator.declaredSymbol? with
  | none =>
      rw [Tree.backingDescriptor?_of_none declares]
      rfl
  | some symbol =>
      have found : state.symbols[symbol.id]? = some symbol := known symbol declares
      rw [Tree.backingDescriptor?_of_some declares, Option.any_some, describes, found]
      cases placeholder : symbol.descriptor.isPlaceholder <;> simp [placeholder]

end IrLink
