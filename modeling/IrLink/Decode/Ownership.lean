import IrLink.Decode.Session
import IrLink.Tree.Parts

/-!
# Ownership

Links from a declaration to what it belongs to do not keep their target.  A
declaration lasts as long as something owns it: the state of a session owns
the declarations that it knows by descriptor and the loops that it knows by
identifier, a user owns the trees that were handed out, and each of these owns
all that is inside it.  What a failed build had made and nobody owns is gone.
-/

namespace IrLink

/-- The declarations inside a loop and its contents. -/
def LoopNode.declarations (loop : LoopNode) : List Nat :=
  loop.type.declarations ++
    match loop.contents with
    | none => []
    | some contents => contents.body.declarations ++ contents.condition.declarations

/-- The declarations that the state of a session owns. -/
def State.ownedDeclarations (state : State) : List Nat :=
  state.declarations.toList.flatMap (fun entry => entry.2.declarations) ++
    state.loops.registeredLoops.flatMap LoopNode.declarations

/-- The declarations that last: those that a state owns, and those inside trees
that were handed out. -/
def State.lastingDeclarations (state : State) (handedOut : List Node) : List Nat :=
  state.ownedDeclarations ++ handedOut.flatMap fun kept => kept.tree.declarations

/-- Whether a declaration is owned by a state or is inside a tree that was
handed out. -/
def State.keeps (state : State) (handedOut : List Node) (node : Nat) : Bool :=
  (state.lastingDeclarations handedOut).contains node

/-- What a state owns is inside a known declaration or a registered loop. -/
theorem State.mem_ownedDeclarations_iff {state : State} {node : Nat} :
    node ∈ state.ownedDeclarations ↔
      (∃ (id : DescriptorId) (declaration : Tree .declaration),
          state.declarations[id]? = some declaration ∧ node ∈ declaration.declarations) ∨
        ∃ id place loop, state.loops.lookup? id = some place ∧
          state.loops.node? place = some loop ∧ node ∈ loop.declarations := by
  simp only [ownedDeclarations, LoopTable.registeredLoops, LoopTable.lookup?, List.mem_append,
    List.mem_flatMap, List.mem_filterMap, Prod.exists, Std.TreeMap.mem_toList_iff_getElem?_eq_some]
  refine or_congr_right ⟨?_, ?_⟩
  · rintro ⟨loop, ⟨id, place, registered, found⟩, inside⟩
    exact ⟨id, place, loop, registered, found, inside⟩
  · rintro ⟨id, place, loop, registered, found, inside⟩
    exact ⟨loop, ⟨id, place, registered, found⟩, inside⟩

/-- What lasts is owned by the state or inside a tree that was handed out. -/
theorem State.keeps_iff {state : State} {handedOut : List Node} {node : Nat} :
    state.keeps handedOut node = true ↔
      node ∈ state.ownedDeclarations ∨ ∃ kept ∈ handedOut, node ∈ kept.tree.declarations := by
  rw [keeps, List.contains_iff_mem, lastingDeclarations, List.mem_append, List.mem_flatMap]

end IrLink
