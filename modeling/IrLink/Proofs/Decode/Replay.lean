import IrLink.Proofs.Decode.History
import IrLink.Proofs.Decode.Linkable
import IrLink.Proofs.Decode.Mirrored

/-!
# Linking again

A record is linked, and linked again from another state.  If both states know the same of
what the record names, then linking it again does what it did the first time, up to the
identities of what is made (`Replay.build_again`): it succeeds, the first tree is the second
one under a renaming, and so is what was added to the session.

A `Replay` holds what is given: the states in which both runs begin and the one in which the
first ends, what the record names, and the renaming of the second run to the first.
`Replay.Aligned` is what is kept between the states of both runs.
-/

namespace IrLink

/-! ## Loops that are filled -/

/-- A loop with contents, unless it has others. -/
def LoopNode.filled (loop : LoopNode) (contents : LoopContents) : LoopNode :=
  if loop.isPopulated then loop else { loop with contents := some contents }

theorem LoopNode.rename_filled (names : Renaming) (loop : LoopNode) (contents : LoopContents) :
    (loop.filled contents).rename names =
      (loop.rename names).filled (contents.rename names) := by
  rcases loop with ⟨id, kind, range, type, _ | own⟩ <;> rfl

theorem LoopTable.node?_eq_none {table : LoopTable} {node : Nat}
    (beyond : table.nextNode ≤ node) : table.node? node = none :=
  Array.getElem?_eq_none beyond

/-- Filling a loop changes that loop only. -/
theorem LoopTable.node?_populate {table : LoopTable} {filled node : Nat}
    {contents : LoopContents} :
    (table.populate filled contents).node? node =
      if node = filled then (table.node? node).map (·.filled contents)
      else table.node? node := by
  by_cases same : node = filled
  · subst same
    rw [if_pos rfl]
    cases found : table.node? node with
    | none => simp only [populate, found, Option.map_none]
    | some loop =>
        cases populated : loop.isPopulated with
        | true =>
            rw [node?_populate_of_isPopulated found populated, Option.map_some,
              LoopNode.filled, if_pos populated]
        | false =>
            rw [node?_populate_self found populated, Option.map_some, LoopNode.filled,
              if_neg (Bool.eq_false_iff.mp populated)]
  · rw [if_neg same, node?_populate_of_ne (Ne.symm same)]

/-! ## States in order -/

/-- A new symbol is one more. -/
theorem State.symbolCount_added {state : State} {id : UInt64} (symbol : Symbol)
    (fresh : state.symbols[id]? = none) :
    (state.withSymbols (state.symbols.insert id symbol)).symbolCount = state.symbolCount + 1 := by
  have absent : state.symbols.contains id = false := by
    rw [Std.TreeMap.contains_eq_isSome_getElem?, fresh]
    rfl
  simp only [symbolCount, withSymbols, Std.TreeMap.size_insert, absent]
  rfl

/-- What a state has is also in a later one. -/
structure State.Precedes (early late : State) : Prop where
  symbols : late.Extends early
  symbolCount : early.symbolCount ≤ late.symbolCount
  declarations : ∀ id declaration, early.Registers id declaration →
    late.Registers id declaration
  registered : ∀ id node, early.loops.lookup? id = some node →
    late.loops.lookup? id = some node
  nextNode : early.nextNode ≤ late.nextNode
  nextLoop : early.loops.nextNode ≤ late.loops.nextNode

namespace State.Precedes

variable {early middle late : State}

theorem refl (state : State) : state.Precedes state where
  symbols := .refl state
  symbolCount := Nat.le_refl _
  declarations := fun _ _ known => known
  registered := fun _ _ known => known
  nextNode := Nat.le_refl _
  nextLoop := Nat.le_refl _

theorem trans (first : early.Precedes middle) (second : middle.Precedes late) :
    early.Precedes late where
  symbols := second.symbols.trans first.symbols
  symbolCount := Nat.le_trans first.symbolCount second.symbolCount
  declarations := fun id declaration known =>
    second.declarations id declaration (first.declarations id declaration known)
  registered := fun id node known => second.registered id node (first.registered id node known)
  nextNode := Nat.le_trans first.nextNode second.nextNode
  nextLoop := Nat.le_trans first.nextLoop second.nextLoop

/-- The nesting does not matter. -/
theorem ofDepth {inner : Nat} (outer : Nat)
    (precedes : { early with depth := inner }.Precedes late) :
    early.Precedes { late with depth := outer } :=
  { precedes with }

/-- A symbol that is unknown later was unknown before. -/
theorem unknown (precedes : early.Precedes late) {id : UInt64}
    (unknown : late.symbols[id]? = none) : early.symbols[id]? = none := by
  cases known : early.symbols[id]? with
  | none => rfl
  | some symbol => cases unknown.symm.trans (precedes.symbols id symbol known)

/-- A declaration that is unknown later was unknown before. -/
theorem undeclared (precedes : early.Precedes late) {id : DescriptorId}
    (unknown : late.declarations[id]? = none) : early.declarations[id]? = none := by
  cases known : early.declarations[id]? with
  | none => rfl
  | some declaration => cases unknown.symm.trans (precedes.declarations id declaration known)

/-- A loop that is not registered later was not registered before. -/
theorem unregistered (precedes : early.Precedes late) {id : Int32}
    (free : late.loops.lookup? id = none) : early.loops.lookup? id = none := by
  cases known : early.loops.lookup? id with
  | none => rfl
  | some node => cases free.symm.trans (precedes.registered id node known)

theorem added {state : State} {id : UInt64} (symbol : Symbol)
    (fresh : state.symbols[id]? = none) :
    state.Precedes (state.withSymbols (state.symbols.insert id symbol)) :=
  { refl state with
    symbols := fun other old before => (known_insert_iff fresh symbol other old).mpr (.inr before)
    symbolCount := by
      rw [symbolCount_added symbol fresh]
      exact Nat.le_succ _ }

theorem begun (state : State) (shell : LoopNode) : state.Precedes (state.begun shell) :=
  { refl state with
    registered := fun _ _ known => LoopTable.lookup?_register_of_some known
    nextLoop := by
      rw [nextLoop_begun]
      exact Nat.le_succ _ }

theorem filled (state : State) (node : Nat) (contents : LoopContents) :
    state.Precedes (state.filled node contents) :=
  { refl state with
    registered := fun _ _ known => LoopTable.lookup?_populate.trans known
    nextLoop := Nat.le_of_eq LoopTable.nextNode_populate.symm }

theorem numbered (state : State) : state.Precedes state.numbered :=
  { refl state with nextNode := Nat.le_succ _ }

theorem declaring {state : State} {id : DescriptorId} {declaration : Tree .declaration}
    (free : state.declarations[id]? = none) :
    state.Precedes (state.declaring id declaration) :=
  { refl state with
    declarations := fun other known registered => by
      rw [registers_declaring, if_neg]
      · exact registered
      · rintro rfl
        cases free.symm.trans registered }

end State.Precedes

/-! ## Declarations that are made known -/

/-- A renaming that keeps what is said of symbols keeps the descriptor of a declaration. -/
theorem Tree.backingDescriptor?_rename {names : Renaming} (declaration : Tree .declaration)
    (kind : ∀ symbol, (names.symbol symbol).kind = symbol.kind)
    (bound : ∀ symbol, (names.symbol symbol).bound = symbol.bound) :
    (declaration.rename names).backingDescriptor? = declaration.backingDescriptor? := by
  have renamed : (declaration.rename names).declarator.declaredSymbol? =
      declaration.declarator.declaredSymbol?.map names.symbol := by
    cases declaration with
    | declarationNode _ _ _ _ declarator _ => exact declaredSymbol?_rename names declarator
  cases declared : declaration.declarator.declaredSymbol? with
  | none =>
      rw [declared] at renamed
      rw [backingDescriptor?_of_none declared, backingDescriptor?_of_none renamed]
  | some symbol =>
      rw [declared] at renamed
      have same : (names.symbol symbol).descriptor = symbol.descriptor := by
        rw [Symbol.descriptor, Symbol.descriptor, kind, bound]
      rw [backingDescriptor?_of_some declared, backingDescriptor?_of_some renamed, same]

namespace Decode

variable {environment : Environment} {state : State} {declaration : Tree .declaration}

/-- A declaration without a real descriptor stays unknown. -/
theorem registerDeclaration_of_none (none : declaration.backingDescriptor? = none) :
    registerDeclaration declaration environment state = .ok () state := by
  rw [registerDeclaration, none]
  rfl

/-- A declaration becomes known under a descriptor that has none. -/
theorem registerDeclaration_of_free {descriptor : Descriptor}
    (described : declaration.backingDescriptor? = some descriptor)
    (free : state.declarations[descriptor.id]? = none) :
    registerDeclaration declaration environment state =
      .ok () (state.declaring descriptor.id declaration) := by
  have absent : state.declarations.contains descriptor.id = false := by
    rw [Std.TreeMap.contains_eq_isSome_getElem?, free]
    rfl
  rw [registerDeclaration, described]
  simp only [get_bind, absent]
  rfl

end Decode

/-! ## Replays -/

/-- What is given to link a record again: the first time it was linked from `imageStart` to
`final`, and now it is to be linked from `start`. -/
structure Replay where
  /-- Identities of the second run become those of the first. -/
  names : Renaming
  start : State
  imageStart : State
  final : State
  /-- The identifiers of symbols that may be named. -/
  ids : List UInt64
  /-- The identifiers of loops that may be named. -/
  loopIds : List Int32
  onto : names.Onto
  builtin : ∀ builtin ∈ Builtin.all, names.symbol builtin.symbol = builtin.symbol
  kind : ∀ symbol, (names.symbol symbol).kind = symbol.kind
  bound : ∀ symbol, (names.symbol symbol).bound = symbol.bound
  /-- Either all symbols are known before the second run, or those are new in it that were
  new in the first. -/
  settled : (∀ id ∈ ids, start.symbols[id]? ≠ none) ∨
    ∀ id ∈ ids, imageStart.symbols[id]? = none → start.symbols[id]? = none
  symbol : ∀ count id kind bound, id ∈ ids → start.symbols[id]? = none →
    imageStart.symbolCount + count < final.symbolCount →
      names.symbol ⟨start.symbolCount + count, id, kind, bound⟩ =
        ⟨imageStart.symbolCount + count, id, kind, bound⟩
  node : ∀ count, imageStart.nextNode + count < final.nextNode →
    names.node (start.nextNode + count) = imageStart.nextNode + count
  loop : ∀ count, imageStart.loops.nextNode + count < final.loops.nextNode →
    names.loop (start.loops.nextNode + count) = imageStart.loops.nextNode + count
  /-- What the first run makes known is still to be made known. -/
  apart : ∀ id : DescriptorId, imageStart.declarations[id]? = none →
    final.declarations[id]? ≠ none → start.declarations[id]? = none

namespace Replay

variable (replay : Replay)

/-- A state of the second run and one of the first that was reached in the same way. -/
structure Aligned (state image : State) : Prop where
  depth : state.depth = image.depth
  later : state.Extends replay.start
  imageLater : replay.imageStart.Precedes image
  known : ∀ id ∈ replay.ids, ∀ symbol, state.symbols[id]? = some symbol →
    replay.final.symbols[id]? = some (replay.names.symbol symbol)
  unknown : ∀ id ∈ replay.ids, state.symbols[id]? = none → image.symbols[id]? = none
  /-- As many symbols were made, if none of them was known before the second run only. -/
  counted : (∀ id ∈ replay.ids, replay.imageStart.symbols[id]? = none →
      replay.start.symbols[id]? = none) →
    (∀ id ∈ replay.ids, image.symbols[id]? = none → state.symbols[id]? = none) ∧
      ∃ count, state.symbolCount = replay.start.symbolCount + count ∧
        image.symbolCount = replay.imageStart.symbolCount + count
  registered : ∀ id ∈ replay.loopIds, ∀ node, state.loops.lookup? id = some node →
    replay.final.loops.lookup? id = some (replay.names.loop node)
  unregistered : ∀ id ∈ replay.loopIds, state.loops.lookup? id = none →
    image.loops.lookup? id = none
  /-- As many declarations were numbered. -/
  nodes : ∃ count, state.nextNode = replay.start.nextNode + count ∧
    image.nextNode = replay.imageStart.nextNode + count
  /-- As many loops were begun. -/
  loops : ∃ count, state.loops.nextNode = replay.start.loops.nextNode + count ∧
    image.loops.nextNode = replay.imageStart.loops.nextNode + count
  loopNodes : ∀ count, image.loops.node? (replay.imageStart.loops.nextNode + count) =
    (state.loops.node? (replay.start.loops.nextNode + count)).map (·.rename replay.names)
  /-- What became known in the first run did so in the second. -/
  declarations : ∀ id : DescriptorId, replay.start.declarations[id]? = none →
    replay.imageStart.declarations[id]? = none →
      image.declarations[id]? = state.declarations[id]?.map (Tree.rename replay.names)
  /-- Nothing else did. -/
  undeclared : ∀ id : DescriptorId, replay.start.declarations[id]? = none →
    replay.imageStart.declarations[id]? ≠ none → state.declarations[id]? = none

/-- A step names only what may be named. -/
def Covers : LinkStep → Prop
  | .use _ record => record.uniqueId.index ∈ replay.ids
  | .beginLoop id | .jump id => id ∈ replay.loopIds
  | _ => True

/-- A computation does again what its image did the first time. -/
structure Replays (environment : Environment) {α : Type} (items : List Item)
    (computation image : Decode α) (change : α → α) : Prop where
  grows : ∀ {state after : State} {result : α},
    image environment state = .ok result after → state.Precedes after
  again : (∀ step ∈ items.flatMap Item.actions, replay.Covers step) →
    ∀ {state imageState imageAfter : State} {imageResult : α},
      replay.Aligned state imageState → image environment imageState = .ok imageResult imageAfter →
        imageAfter.Precedes replay.final →
          ∃ result after, computation environment state = .ok result after ∧
            change result = imageResult ∧ replay.Aligned after imageAfter

namespace Aligned

variable {replay} {state image : State}

/-- The nesting of both runs is the same. -/
theorem atDepth (aligned : replay.Aligned state image) {depth other : Nat}
    (same : depth = other) :
    replay.Aligned { state with depth := depth } { image with depth := other } :=
  { aligned with
    depth := same
    imageLater := aligned.imageLater.ofDepth other }

/-! ### Symbols -/

/-- A symbol that the second run knows already. -/
theorem found (aligned : replay.Aligned state image) {id : UInt64} {symbol : Symbol}
    (named : id ∈ replay.ids) (known : state.symbols[id]? = some symbol)
    (fresh : image.symbols[id]? = none) (found : Symbol) :
    replay.Aligned state (image.withSymbols (image.symbols.insert id found)) :=
  { aligned with
    imageLater := aligned.imageLater.trans (.added found fresh)
    unknown := fun other isNamed absent => by
      change (image.symbols.insert id found)[other]? = none
      rw [Std.TreeMap.getElem?_insert, if_neg]
      · exact aligned.unknown other isNamed absent
      · intro same
        rw [Std.LawfulEqOrd.eq_of_compare same, absent] at known
        cases known
    counted := fun lockstep => by
      cases known.symm.trans ((aligned.counted lockstep).1 id named fresh) }

/-- The number of a new symbol. -/
theorem symbol (aligned : replay.Aligned state image) {id : UInt64} (named : id ∈ replay.ids)
    (unknown : state.symbols[id]? = none) (below : image.symbolCount < replay.final.symbolCount)
    (kind : SymbolKind) (bound : Option Descriptor) :
    replay.names.symbol ⟨state.symbolCount, id, kind, bound⟩ =
      ⟨image.symbolCount, id, kind, bound⟩ := by
  have unknownBefore : replay.start.symbols[id]? = none := by
    cases known : replay.start.symbols[id]? with
    | none => rfl
    | some symbol => cases unknown.symm.trans (aligned.later id symbol known)
  have lockstep := replay.settled.resolve_left fun all => all id named unknownBefore
  rcases (aligned.counted lockstep).2 with ⟨count, own, other⟩
  rw [other] at below
  rw [own, other]
  exact replay.symbol count id kind bound named unknownBefore below

/-- A symbol that is new in both runs. -/
theorem added (aligned : replay.Aligned state image) {id : UInt64} {symbol : Symbol}
    (unknown : state.symbols[id]? = none) (fresh : image.symbols[id]? = none)
    (known : replay.final.symbols[id]? = some (replay.names.symbol symbol)) :
    replay.Aligned (state.withSymbols (state.symbols.insert id symbol))
      (image.withSymbols (image.symbols.insert id (replay.names.symbol symbol))) := by
  have absent_iff {symbols : Std.TreeMap UInt64 Symbol} (new : Symbol) (other : UInt64) :
      (symbols.insert id new)[other]? = none ↔ id ≠ other ∧ symbols[other]? = none := by
    rw [Std.TreeMap.getElem?_insert]
    by_cases same : id = other
    · simp [same]
    · simp [same]
  exact { aligned with
    later := fun other old before =>
      (known_insert_iff unknown symbol other old).mpr (.inr (aligned.later other old before))
    imageLater := aligned.imageLater.trans (.added _ fresh)
    known := fun other named own after => by
      rcases (known_insert_iff unknown symbol other own).mp after with ⟨rfl, rfl⟩ | before
      · exact known
      · exact aligned.known other named own before
    unknown := fun other named absent =>
      have ⟨different, absent⟩ := (absent_iff symbol other).mp absent
      (absent_iff _ other).mpr ⟨different, aligned.unknown other named absent⟩
    counted := fun lockstep => by
      rcases aligned.counted lockstep with ⟨same, count, own, other⟩
      refine ⟨fun other named absent => ?_, count + 1, ?_, ?_⟩
      · have ⟨different, absent⟩ := (absent_iff _ other).mp absent
        exact (absent_iff _ other).mpr ⟨different, same other named absent⟩
      · rw [State.symbolCount_added _ unknown, own, Nat.add_assoc]
      · rw [State.symbolCount_added _ fresh, other, Nat.add_assoc] }

/-! ### Loops -/

/-- The number of a new loop. -/
theorem loop (aligned : replay.Aligned state image)
    (below : image.loops.nextNode < replay.final.loops.nextNode) :
    replay.names.loop state.loops.nextNode = image.loops.nextNode := by
  rcases aligned.loops with ⟨count, own, other⟩
  rw [other] at below
  rw [own, other]
  exact replay.loop count below

/-- A loop that is begun in both runs. -/
theorem begun (aligned : replay.Aligned state image) (shell : LoopNode)
    (last : (image.begun (shell.rename replay.names)).Precedes replay.final) :
    replay.Aligned (state.begun shell) (image.begun (shell.rename replay.names)) := by
  have below : image.loops.nextNode < replay.final.loops.nextNode := by
    refine Nat.lt_of_lt_of_le ?_ last.nextLoop
    rw [State.nextLoop_begun]
    exact Nat.lt_succ_self _
  have number := aligned.loop below
  rcases aligned.loops with ⟨count, own, other⟩
  exact { aligned with
    imageLater := aligned.imageLater.trans (.begun image _)
    registered := fun id among node found => by
      change (LoopTable.register _ _ _).lookup? _ = _ at found
      rw [LoopTable.lookup?_register] at found
      split at found
      · rename_i taken
        cases found
        rcases taken with ⟨rfl, free⟩
        rw [number]
        refine last.registered _ _ (LoopTable.lookup?_register.trans (if_pos ⟨rfl, ?_⟩))
        exact aligned.unregistered _ among free
      · exact aligned.registered id among node found
    unregistered := fun id among free => by
      change (LoopTable.register _ _ _).lookup? _ = _ at free ⊢
      rw [LoopTable.lookup?_register] at free ⊢
      split at free
      · cases free
      · rename_i different
        have unknown := aligned.unregistered id among free
        rw [if_neg]
        · exact unknown
        · rintro ⟨rfl, -⟩
          exact different ⟨rfl, free⟩
    loops := by
      refine ⟨count + 1, ?_, ?_⟩
      · rw [State.nextLoop_begun, own, Nat.add_assoc]
      · rw [State.nextLoop_begun, other, Nat.add_assoc]
    loopNodes := fun index => by
      rw [State.node?_begun, State.node?_begun, own, other]
      by_cases same : index = count
      · rw [if_pos (congrArg _ same), if_pos (congrArg _ same), Option.map_some]
      · rw [if_neg fun eq => same (Nat.add_left_cancel eq),
          if_neg fun eq => same (Nat.add_left_cancel eq)]
        exact aligned.loopNodes index }

/-- A loop that is filled in both runs. -/
theorem filled (aligned : replay.Aligned state image) (count : Nat) (contents : LoopContents) :
    replay.Aligned (state.filled (replay.start.loops.nextNode + count) contents)
      (image.filled (replay.imageStart.loops.nextNode + count)
        (contents.rename replay.names)) :=
  { aligned with
    imageLater := aligned.imageLater.trans (.filled image _ _)
    registered := fun id among node found =>
      aligned.registered id among node (LoopTable.lookup?_populate.symm.trans found)
    unregistered := fun id among free =>
      LoopTable.lookup?_populate.trans
        (aligned.unregistered id among (LoopTable.lookup?_populate.symm.trans free))
    loops := by
      rcases aligned.loops with ⟨others, own, other⟩
      exact ⟨others, LoopTable.nextNode_populate.trans own,
        LoopTable.nextNode_populate.trans other⟩
    loopNodes := fun index => by
      change (LoopTable.populate _ _ _).node? _ =
        ((LoopTable.populate _ _ _).node? _).map _
      rw [LoopTable.node?_populate, LoopTable.node?_populate, aligned.loopNodes index]
      by_cases same : index = count
      · rw [if_pos (congrArg _ same), if_pos (congrArg _ same), Option.map_map, Option.map_map]
        refine congrArg (Option.map · _) (funext fun loop => ?_)
        exact (loop.rename_filled replay.names contents).symm
      · rw [if_neg fun eq => same (Nat.add_left_cancel eq),
          if_neg fun eq => same (Nat.add_left_cancel eq)] }

/-! ### Declarations -/

/-- The number of a new declaration. -/
theorem node (aligned : replay.Aligned state image)
    (below : image.nextNode < replay.final.nextNode) :
    replay.names.node state.nextNode = image.nextNode := by
  rcases aligned.nodes with ⟨count, own, other⟩
  rw [other] at below
  rw [own, other]
  exact replay.node count below

/-- A declaration that is numbered in both runs. -/
theorem numbered (aligned : replay.Aligned state image) :
    replay.Aligned state.numbered image.numbered :=
  { aligned with
    imageLater := aligned.imageLater.trans (.numbered image)
    nodes := by
      rcases aligned.nodes with ⟨count, own, other⟩
      exact ⟨count + 1, congrArg Nat.succ own, congrArg Nat.succ other⟩ }

/-- What the first run is about to make known is unknown in the second. -/
theorem free (aligned : replay.Aligned state image) {id : DescriptorId}
    (unknown : image.declarations[id]? = none)
    (known : replay.final.declarations[id]? ≠ none) : state.declarations[id]? = none := by
  have before := aligned.imageLater.undeclared unknown
  have same := aligned.declarations id (replay.apart id before known) before
  rw [unknown] at same
  exact Option.map_eq_none_iff.mp same.symm

/-- A declaration that is made known in both runs. -/
theorem declaring (aligned : replay.Aligned state image) {id : DescriptorId}
    {declaration : Tree .declaration} (unknown : image.declarations[id]? = none) :
    replay.Aligned (state.declaring id declaration)
      (image.declaring id (declaration.rename replay.names)) :=
  { aligned with
    imageLater := aligned.imageLater.trans (.declaring unknown)
    declarations := fun other before beforeImage => by
      change (image.declarations.insert _ _)[other]? =
        (state.declarations.insert _ _)[other]?.map _
      rw [Std.TreeMap.getElem?_insert, Std.TreeMap.getElem?_insert]
      split
      · rfl
      · exact aligned.declarations other before beforeImage
    undeclared := fun other before beforeImage => by
      change (state.declarations.insert _ _)[other]? = none
      rw [Std.TreeMap.getElem?_insert, if_neg]
      · exact aligned.undeclared other before beforeImage
      · intro same
        rw [← Std.LawfulEqOrd.eq_of_compare same] at beforeImage
        exact beforeImage (aligned.imageLater.undeclared unknown) }

/-! ### Both runs at their end -/

/-- The symbols that may be named are the same, up to their identities. -/
theorem symbols_eq (aligned : replay.Aligned state replay.final) {id : UInt64}
    (named : id ∈ replay.ids) :
    replay.final.symbols[id]? = state.symbols[id]?.map replay.names.symbol := by
  cases found : state.symbols[id]? with
  | none => exact aligned.unknown id named found
  | some symbol => exact aligned.known id named symbol found

/-- The loops that may be named are the same, up to their identities. -/
theorem lookup?_eq (aligned : replay.Aligned state replay.final) {id : Int32}
    (named : id ∈ replay.loopIds) :
    replay.final.loops.lookup? id = (state.loops.lookup? id).map replay.names.loop := by
  cases found : state.loops.lookup? id with
  | none => exact aligned.unregistered id named found
  | some node => exact aligned.registered id named node found

end Aligned

/-! ## Computations -/

namespace Replays

open Decode

variable {replay} {environment : Environment} {α β : Type} {items others : List Item}
  {computation image : Decode α} {rest imageRest : α → Decode β} {change : α → α}
  {last : β → β}

theorem pure (result : α) :
    replay.Replays environment items (pure result) (pure (change result)) change where
  grows := by
    rintro state _ _ ⟨⟩
    exact .refl state
  again := by
    rintro _ state _ _ _ aligned ⟨⟩ _
    exact ⟨result, state, rfl, rfl, aligned⟩

theorem fail (error : DecodeError) :
    replay.Replays environment items (throw error : Decode α) (throw error) change where
  grows := by
    rintro _ _ _ ⟨⟩
  again := by
    rintro _ _ _ _ _ _ ⟨⟩

theorem append [onto : Onto change]
    (first : replay.Replays environment items computation image change)
    (second : ∀ result, replay.Replays environment others (rest result)
      (imageRest (change result)) last) :
    replay.Replays environment (items ++ others) (computation >>= rest)
      (image >>= imageRest) last where
  grows := fun run => by
    rcases bind_ok_iff.mp run with ⟨between, middle, early, late⟩
    rcases onto.surjective between with ⟨result, rfl⟩
    exact (first.grows early).trans ((second result).grows late)
  again := fun covers {state imageState imageAfter imageResult} aligned run last => by
    rw [List.flatMap_append, List.forall_mem_append] at covers
    rcases bind_ok_iff.mp run with ⟨between, middle, early, late⟩
    rcases onto.surjective between with ⟨result, rfl⟩
    have below := ((second result).grows late).trans last
    rcases first.again covers.1 aligned early below with
      ⟨own, ownMiddle, ownEarly, same, alignedMiddle⟩
    rw [← same] at late
    rcases (second own).again covers.2 alignedMiddle late last with
      ⟨ownLast, ownAfter, ownLate, sameLast, alignedLast⟩
    exact ⟨ownLast, ownAfter, bind_ok_iff.mpr ⟨own, ownMiddle, ownEarly, ownLate⟩, sameLast,
      alignedLast⟩

theorem descend (inside : replay.Replays environment items computation image change) :
    replay.Replays environment items (descend computation) (descend image) change where
  grows := fun run => by
    rcases descend_ok run with ⟨middle, deeper, rfl⟩
    exact (inside.grows deeper).ofDepth _
  again := fun covers {state imageState _ _} aligned run last => by
    have shallow : ¬ environment.settings.maxDepth ≤ state.depth := by
      intro deep
      rw [aligned.depth] at deep
      rw [Decode.descend, if_pos deep] at run
      cases run
    rcases descend_ok run with ⟨imageMiddle, deeper, rfl⟩
    rcases inside.again covers (aligned.atDepth (congrArg (· + 1) aligned.depth)) deeper
      { last with } with ⟨result, middle, ends, same, alignedMiddle⟩
    refine ⟨result, { middle with depth := middle.depth - 1 }, ?_, same,
      alignedMiddle.atDepth ?_⟩
    · rw [Decode.descend, if_neg shallow, ends]
    · rw [alignedMiddle.depth]

/-! ### Symbols -/

theorem symbol (requirement : Requirement) (record : SymbolRecord) :
    replay.Replays environment [.use requirement record] (symbolFor requirement record)
      (symbolFor requirement record) replay.names.symbol where
  grows := fun run => by
    rcases resolveSymbol_eq_ok_iff.mp (symbolFor_ok_iff.mp run).1 with
      ⟨_, _, ⟨_, _, rfl⟩ | ⟨fresh, _, rfl⟩⟩
    · exact .refl _
    · exact .added _ fresh
  again := fun covers {state imageState imageAfter found} aligned run last => by
    have named : record.uniqueId.index ∈ replay.ids := covers (.use requirement record) (.head _)
    rcases symbolFor_ok_iff.mp run with ⟨resolved, fits⟩
    rcases resolveSymbol_eq_ok_iff.mp resolved with ⟨kind, recorded, linked⟩
    -- What the second run knows is what the first one found.
    have knownBefore {symbol : Symbol} (known : state.symbols[record.uniqueId.index]? = some symbol)
        (foundLast : imageAfter.symbols[record.uniqueId.index]? = some found)
        (foundKind : environment.settings.checkSymbolKinds = true → found.kind = kind) :
        symbolFor requirement record environment state = .ok symbol state ∧
          replay.names.symbol symbol = found := by
      have same : replay.names.symbol symbol = found := Option.some.inj
        ((aligned.known _ named symbol known).symm.trans (last.symbols _ _ foundLast))
      have sameKind : symbol.kind = found.kind := same ▸ (replay.kind symbol).symm
      refine ⟨symbolFor_ok_iff.mpr ⟨resolveSymbol_eq_ok_iff.mpr ⟨kind, recorded, .inl
        ⟨known, fun strict => sameKind.trans (foundKind strict), rfl⟩⟩, fun strict => ?_⟩, same⟩
      rw [sameKind]
      exact fits strict
    rcases linked with ⟨foundBefore, sameKind, rfl⟩ | ⟨fresh, ⟨bound, binds, rfl⟩, rfl⟩
    · cases known : state.symbols[record.uniqueId.index]? with
      | none => cases foundBefore.symm.trans (aligned.unknown _ named known)
      | some symbol =>
          rcases knownBefore known foundBefore sameKind with ⟨ends, same⟩
          exact ⟨symbol, state, ends, same, aligned⟩
    · have foundLast := last.symbols _ _ ((known_insert_iff fresh _ _ _).mpr (.inl ⟨rfl, rfl⟩))
      cases known : state.symbols[record.uniqueId.index]? with
      | some symbol =>
          rcases knownBefore known ((known_insert_iff fresh _ _ _).mpr (.inl ⟨rfl, rfl⟩))
            fun _ => rfl with ⟨ends, same⟩
          exact ⟨symbol, state, ends, same, aligned.found named known fresh _⟩
      | none =>
          have below : imageState.symbolCount < replay.final.symbolCount := by
            refine Nat.lt_of_lt_of_le ?_ last.symbolCount
            rw [State.symbolCount_added _ fresh]
            exact Nat.lt_succ_self _
          have same := aligned.symbol named known below kind bound
          have own := resolveSymbol_eq_ok_iff.mpr ⟨kind, recorded, .inr
            ⟨known, ⟨bound, (stateless_bindSymbol record kind).ok_of_ok binds state, rfl⟩, rfl⟩⟩
          have next := aligned.added known fresh (same.symm ▸ foundLast)
          rw [same] at next
          exact ⟨_, _, symbolFor_ok_iff.mpr ⟨own, fits⟩, same, next⟩

/-! ### Jumps and loops -/

theorem jump (id : Int32) (label : Option String) :
    replay.Replays environment [.step (.jump id)] (jumpTo id label) (jumpTo id label)
      (Jump.rename replay.names) where
  grows := fun run => by
    rcases jumpTo_ok run with ⟨rfl, _⟩
    exact .refl _
  again := fun covers {state imageState _ found} aligned run last => by
    have named : id ∈ replay.loopIds := covers (.jump id) (.head _)
    rcases jumpTo_ok run with ⟨rfl, rfl, rfl, target⟩
    cases known : state.loops.lookup? found.loopId with
    | none => cases target.symm.trans (aligned.unregistered _ named known)
    | some node =>
        have same := (aligned.registered _ named node known).symm.trans
          (last.registered _ _ target)
        refine ⟨⟨found.loopId, found.label, node⟩, state, ?_, ?_, aligned⟩
        · unfold jumpTo State.lookupLoop
          rw [get_bind, known]
          rfl
        · exact congrArg (Jump.mk found.loopId found.label) (Option.some.inj same)

theorem loop (shell : LoopNode) {inside image : Decode LoopContents}
    (contents : replay.Replays environment items inside image
      (LoopContents.rename replay.names)) :
    replay.Replays environment (.step (.beginLoop shell.id) :: items) (looping shell inside)
      (looping (shell.rename replay.names) image) fun filled =>
        (replay.names.loop filled.1, filled.2.rename replay.names) where
  grows := fun {state _ _} run => by
    cases inner : image environment (state.begun (shell.rename replay.names)) with
    | error error middle => cases (looping_of_error inner).symm.trans run
    | ok made middle =>
        cases (looping_of_ok inner).symm.trans run
        exact (State.Precedes.begun state _).trans ((contents.grows inner).trans (.filled _ _ _))
  again := fun covers {state imageState _ _} aligned run last => by
    rw [List.flatMap_cons, List.forall_mem_append] at covers
    cases inner : image environment (imageState.begun (shell.rename replay.names)) with
    | error error middle => cases (looping_of_error inner).symm.trans run
    | ok made imageMiddle =>
        cases (looping_of_ok inner).symm.trans run
        have middleLast := (State.Precedes.filled imageMiddle _ made).trans last
        have begunLast := (contents.grows inner).trans middleLast
        rcases contents.again covers.2 (aligned.begun shell begunLast) inner middleLast with
          ⟨own, middle, ends, rfl, alignedMiddle⟩
        have number := aligned.loop (Nat.lt_of_lt_of_le
          (Nat.lt_of_lt_of_eq (Nat.lt_succ_self _) (State.nextLoop_begun _).symm)
          begunLast.nextLoop)
        refine ⟨_, _, looping_of_ok ends, congrArg (·, own.rename replay.names) number, ?_⟩
        rcases aligned.loops with ⟨count, begun, imageBegun⟩
        rw [begun, imageBegun]
        exact alignedMiddle.filled count own

/-! ### Declarations -/

theorem node : replay.Replays environment items freshNode freshNode replay.names.node where
  grows := by
    rintro state _ _ ⟨⟩
    exact (State.Precedes.numbered state)
  again := by
    rintro _ state imageState _ _ aligned ⟨⟩ last
    have below : imageState.nextNode < replay.final.nextNode := last.nextNode
    exact ⟨_, _, rfl, aligned.node below, aligned.numbered⟩

theorem register (declaration : Tree .declaration) :
    replay.Replays environment items (registerDeclaration declaration)
      (registerDeclaration (declaration.rename replay.names)) id where
  grows := fun {state _ _} run => by
    rcases registerDeclaration_cases environment state (declaration.rename replay.names) with
      ⟨_, ends⟩ | ⟨_, ends⟩ | ⟨_, _, free, ends⟩
    · cases ends.symm.trans run
      exact .refl _
    · cases ends.symm.trans run
    · cases ends.symm.trans run
      exact .declaring free
  again := fun _ {state imageState _ _} aligned run last => by
    have described := declaration.backingDescriptor?_rename replay.kind replay.bound
    rcases registerDeclaration_cases environment imageState (declaration.rename replay.names) with
      ⟨none, ends⟩ | ⟨_, ends⟩ | ⟨descriptor, known, unknown, ends⟩
    · cases ends.symm.trans run
      exact ⟨(), state, registerDeclaration_of_none (described.symm.trans none), rfl, aligned⟩
    · cases ends.symm.trans run
    · cases ends.symm.trans run
      have registered := last.declarations _ _
        (State.registers_declaring.mpr ((if_pos (Eq.refl descriptor.id)).mpr rfl))
      have free := aligned.free unknown fun absent => by cases absent.symm.trans registered
      exact ⟨(), _, registerDeclaration_of_free (described.symm.trans known) free, rfl,
        aligned.declaring unknown⟩

end Replays

/-- Linking goes by these rules. -/
theorem mirrors (environment : Environment) :
    Decode.Mirrors replay.names id fun items computation image change =>
      replay.Replays environment items computation image change where
  pure := fun _ result _ => .pure result
  fail := fun _ error _ => .fail error
  append := .append
  layout := fun {_ _ record _ _ _} inside =>
    ⟨inside.grows, fun covers => inside.again (record.flatMap_actions_part ▸ covers)⟩
  descend := .descend
  builtin := replay.builtin
  symbol := .symbol
  jump := .jump
  loop := fun shell _ => .loop shell
  node := .node
  register := fun _ => .register

variable {replay}

/-- Both runs begin aligned if the same is known of what may be named. -/
theorem aligned_start (depth : replay.start.depth = replay.imageStart.depth)
    (known : ∀ id ∈ replay.ids, ∀ symbol, replay.start.symbols[id]? = some symbol →
      replay.final.symbols[id]? = some (replay.names.symbol symbol))
    (unknown : ∀ id ∈ replay.ids, replay.start.symbols[id]? = none →
      replay.imageStart.symbols[id]? = none)
    (registered : ∀ id ∈ replay.loopIds, ∀ node, replay.start.loops.lookup? id = some node →
      replay.final.loops.lookup? id = some (replay.names.loop node))
    (unregistered : ∀ id ∈ replay.loopIds, replay.start.loops.lookup? id = none →
      replay.imageStart.loops.lookup? id = none) :
    replay.Aligned replay.start replay.imageStart where
  depth := depth
  later := .refl _
  imageLater := .refl _
  known := known
  unknown := unknown
  counted := fun lockstep => ⟨lockstep, 0, rfl, rfl⟩
  registered := registered
  unregistered := unregistered
  nodes := ⟨0, rfl, rfl⟩
  loops := ⟨0, rfl, rfl⟩
  loopNodes := fun count => by
    rw [LoopTable.node?_eq_none (Nat.le_add_right _ _),
      LoopTable.node?_eq_none (Nat.le_add_right _ _)]
    rfl
  declarations := fun id unknown unknownImage => by
    rw [unknown, unknownImage]
    rfl
  undeclared := fun _ unknown _ => unknown

/-- A record that was linked once is linked again in the same way, from a state that is
aligned with the one in which it was linked first. -/
theorem build_again {environment : Environment} {c : Category} {record : Record c}
    {context : Context c} (same : context.rename replay.names = context)
    (ids : record.symbolIds ⊆ replay.ids) (loopIds : record.loopIds ⊆ replay.loopIds)
    {state imageState : State} (aligned : replay.Aligned state imageState)
    {tree : Tree c.built}
    (first : Decode.build record context environment imageState = .ok tree replay.final) :
    ∃ again after, Decode.build record context environment state = .ok again after ∧
      again.rename replay.names = tree ∧ replay.Aligned after replay.final := by
  have := replay.onto
  have replays := Decode.build_mirrored (replay.mirrors environment) record context
  rw [record.mapSymbols_id, same] at replays
  refine replays.again (fun step among => ?_) aligned first (.refl _)
  rw [List.flatMap_singleton] at among
  cases step with
  | use requirement symbol =>
      exact ids (List.mem_map.mpr ⟨symbol, List.mem_filterMap.mpr ⟨_, among, rfl⟩, rfl⟩)
  | beginLoop id => exact loopIds (List.mem_filterMap.mpr ⟨_, among, rfl⟩)
  | jump id => exact loopIds (List.mem_filterMap.mpr ⟨_, among, rfl⟩)
  | _ => trivial

/-- The replay of nothing. -/
def empty (state : State) : Replay where
  names := .same
  start := state
  imageStart := state
  final := state
  ids := []
  loopIds := []
  onto := inferInstance
  builtin := fun _ _ => rfl
  kind := fun _ => rfl
  bound := fun _ => rfl
  settled := .inl (List.forall_mem_nil _)
  symbol := fun _ _ _ _ among => nomatch among
  node := fun _ _ => rfl
  loop := fun _ _ => rfl
  apart := fun _ unknown _ => unknown

end Replay

/-- What was known before a record was linked is known afterwards. -/
theorem Decode.precedes_of_build {environment : Environment} {c : Category} {record : Record c}
    {context : Context c} {tree : Tree c.built} {state after : State}
    (run : build record context environment state = .ok tree after) : state.Precedes after := by
  have := (Replay.empty state).onto
  have replays := build_mirrored ((Replay.empty state).mirrors environment) record context
  rw [record.mapSymbols_id, show (Replay.empty state).names = .same from rfl,
    context.rename_same] at replays
  exact replays.grows run

end IrLink
