import Std.Data.TreeMap
import IrLink.Tree

/-!
# Loops under construction

A loop is begun as a shell, so that jumps inside it can name it before its
condition and body are known, and is filled once these are built.  The table
holds all loops by node number, and registers for every loop identifier the
first loop that was begun with it.
-/

namespace IrLink

/-- A loop identifier is written behind the word `loop`. -/
def loopIdText (id : Int32) : String :=
  "loop" ++ toString id.toInt

/-- What a loop gets after its shell was made. -/
structure LoopContents where
  label : Option String
  body : Tree (.option .expression)
  condition : Tree .expression

/-- A loop, of which the contents may still be missing. -/
structure LoopNode where
  id : Int32
  kind : LoopKind
  range : Range
  type : Tree .type
  contents : Option LoopContents := none

/-- Whether a loop has its contents. -/
def LoopNode.isPopulated (loop : LoopNode) : Bool :=
  loop.contents.isSome

/-- The label of a loop that has its contents. -/
def LoopNode.label (loop : LoopNode) : Option String :=
  loop.contents.bind (·.label)

/-- All loops that were begun, and which of them stands for an identifier. -/
structure LoopTable where
  nodes : Array LoopNode := #[]
  registered : Std.TreeMap Int32 Nat := ∅

namespace LoopTable

/-- The table that holds no loop. -/
def empty : LoopTable := {}

/-- The number of identifiers for which a loop is registered. -/
def size (table : LoopTable) : Nat :=
  table.registered.size

/-- The loop of a given node number. -/
def node? (table : LoopTable) (node : Nat) : Option LoopNode :=
  table.nodes[node]?

/-- The table with a new loop, which gets the next node number. -/
def allocate (table : LoopTable) (loop : LoopNode) : LoopTable :=
  { table with nodes := table.nodes.push loop }

/-- The number that the next loop gets. -/
def nextNode (table : LoopTable) : Nat :=
  table.nodes.size

/-- The node that is registered for an identifier. -/
def lookup? (table : LoopTable) (id : Int32) : Option Nat :=
  table.registered[id]?

/-- The table with a node registered for an identifier, unless one was. -/
def register (table : LoopTable) (id : Int32) (node : Nat) : LoopTable :=
  { table with registered := table.registered.insertIfNew id node }

/-- The table with contents for a loop, unless it has them. -/
def populate (table : LoopTable) (node : Nat) (contents : LoopContents) : LoopTable :=
  match table.node? node with
  | some loop =>
    if loop.isPopulated then table
    else
      { table with
        nodes := table.nodes.setIfInBounds node { loop with contents := some contents } }
  | none => table

/-- Whether the loop of a given node number has its contents. -/
def isPopulated (table : LoopTable) (node : Nat) : Bool :=
  (table.node? node).any (·.isPopulated)

/-- The loops that are registered for an identifier. -/
def registeredLoops (table : LoopTable) : List LoopNode :=
  table.registered.toList.filterMap fun entry => table.node? entry.2

end LoopTable

end IrLink
