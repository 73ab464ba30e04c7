import IrLink.Descriptor

/-!
# Descriptor tables

A table holds the declared descriptors of a universe by position.  A
descriptor mentions only positions before its own, so the graph of overridden
members has no cycle and can be followed by recursion on the position.

`DescriptorTable.realMembers` follows it from one member: a declared member
stands for itself, an inherited one for the declared members that it leads
to, each once and in the order in which they are found.
-/

namespace IrLink

/-- Descriptors by position, each of which mentions earlier ones only. -/
structure DescriptorTable where
  entries : Array Descriptor
  id_eq : ∀ (i : Nat) (h : i < entries.size), entries[i].id = .declared i
  mentions_lt : ∀ (i : Nat) (h : i < entries.size), ∀ j ∈ entries[i].mentions, j < i

namespace DescriptorTable

/-- The table without descriptors. -/
def empty : DescriptorTable where
  entries := #[]
  id_eq := fun _ h => absurd h (Nat.not_lt_zero _)
  mentions_lt := fun _ h => absurd h (Nat.not_lt_zero _)

/-- The number of descriptors in a table. -/
def size (table : DescriptorTable) : Nat :=
  table.entries.size

/-- The descriptor at a position. -/
def get? (table : DescriptorTable) (position : Nat) : Option Descriptor :=
  table.entries[position]?

/-- The table with one more descriptor at its end.  There is none if the
descriptor mentions a position that is not yet filled. -/
def add? (table : DescriptorTable) (descriptor : Descriptor) : Option DescriptorTable :=
  if known : ∀ j ∈ descriptor.mentions, j < table.size then
    some {
      entries := table.entries.push { descriptor with id := .declared table.size }
      id_eq := by
        intro i h
        rw [Array.getElem_push]
        split
        · exact table.id_eq i _
        · rw [Array.size_push] at h
          have : i = table.size := by unfold size at *; omega
          subst this
          rfl
      mentions_lt := by
        intro i h
        rw [Array.getElem_push]
        split
        · exact table.mentions_lt i _
        · rw [Array.size_push] at h
          have : i = table.size := by unfold size at *; omega
          subst this
          exact known }
  else
    none

/-! ## Inherited members -/

/-- The positions of the members that the member at a position stands for, or
nothing if that member is declared. -/
def overridden? (table : DescriptorTable) (position : Nat) : Option (List Nat) :=
  (table.get? position).bind (·.overridden)

theorem lt_of_mem_overridden? {table : DescriptorTable} {position : Nat}
    {members : List Nat} (found : table.overridden? position = some members)
    {member : Nat} (h : member ∈ members) : member < position := by
  unfold overridden? get? at found
  obtain ⟨descriptor, atPosition, overrides⟩ := Option.bind_eq_some_iff.mp found
  obtain ⟨inside, rfl⟩ := Array.getElem?_eq_some_iff.mp atPosition
  apply table.mentions_lt position inside
  simp [Descriptor.mentions, overrides, h]

/-- What a search for declared members has met so far. -/
structure Walk where
  /-- The positions that were visited. -/
  seen : List Nat
  /-- The declared members among them, in the order of their discovery. -/
  found : List Nat
  deriving DecidableEq, Repr

/-- Extend a search by the member at a position and all that it stands for. -/
def visit (table : DescriptorTable) (position : Nat) (walk : Walk) : Walk :=
  if position ∈ walk.seen then
    walk
  else
    match _found : table.overridden? position with
    | none => ⟨position :: walk.seen, walk.found ++ [position]⟩
    | some members =>
      members.attach.foldl (fun walk member => visit table member.1 walk)
        ⟨position :: walk.seen, walk.found⟩
termination_by position
decreasing_by exact lt_of_mem_overridden? _found member.2

/-- The positions of the declared members that the member at a position stands
for, each once and in the order of their discovery. -/
def realPositions (table : DescriptorTable) (position : Nat) : List Nat :=
  (visit table position ⟨[], []⟩).found

/-- The declared members that a descriptor stands for.  What is no entry of
the table stands for itself. -/
def realMembers (table : DescriptorTable) (descriptor : Descriptor) : List Descriptor :=
  match descriptor.id with
  | .declared position => (table.realPositions position).filterMap table.get?
  | _ => [descriptor]

end DescriptorTable

end IrLink
