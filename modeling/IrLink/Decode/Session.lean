import IrLink.Builtins
import IrLink.Decode.Error
import IrLink.Settings

/-!
# Sessions

A session links records against one universe.  What it has met so far is its
state: the symbols by identifier, the declarations by descriptor, and the
loops.  Nothing in these maps is ever replaced, so whoever asks for the same
identifier gets the same symbol.  A computation that fails leaves behind what
it has added to the state before.
-/

namespace IrLink

/-- What stays the same during a session. -/
structure Environment where
  world : Universe
  settings : Settings

/-- What a session has met so far. -/
structure State where
  symbols : Std.TreeMap UInt64 Symbol
  declarations : Std.TreeMap DescriptorId (Tree .declaration)
  loops : LoopTable
  /-- The nesting of what is being built. -/
  depth : Nat
  /-- The identity of the next declaration. -/
  nextNode : Nat

namespace State

/-- The state in which every session begins: it knows the built-ins. -/
def initial : State where
  symbols := Builtin.all.foldl
    (fun symbols builtin => symbols.insert builtin.symbol.id builtin.symbol) ∅
  declarations := Builtin.all.foldl
    (fun declarations builtin =>
      declarations.insert builtin.symbol.descriptor.id builtin.declaration) ∅
  loops := .empty
  depth := 0
  nextNode := Builtin.all.length

/-- The symbol that is known under an identifier. -/
def cachedSymbol? (state : State) (id : UInt64) : Option Symbol :=
  state.symbols[id]?

/-- The number of known symbols. -/
def symbolCount (state : State) : Nat :=
  state.symbols.size

/-- The number of declarations that can be found by their descriptor. -/
def declarationCount (state : State) : Nat :=
  state.declarations.size

/-- The declaration of a descriptor. -/
def findDeclaration (state : State) (descriptor : Descriptor) :
    Except DecodeError (Tree .declaration) :=
  match state.declarations[descriptor.id]? with
  | some declaration => .ok declaration
  | none => .error (.unknownDeclaration descriptor)

/-- The node of the loop that is registered for an identifier. -/
def lookupLoop (state : State) (id : Int32) : Except DecodeError Nat :=
  match state.loops.lookup? id with
  | some node => .ok node
  | none => .error (.danglingLoopReference id)

end State

/-- Computations of a session.  A failure keeps the state that it was met in. -/
abbrev Decode := ReaderT Environment (EStateM DecodeError State)

namespace Decode

variable {α : Type}

/-- Build something one level deeper, unless that is too deep.  The depth is
restored however the building ends. -/
def descend (build : Decode α) : Decode α := fun environment state =>
  if environment.settings.maxDepth ≤ state.depth then
    .error (.depthLimitExceeded environment.settings.maxDepth) state
  else
    match build environment { state with depth := state.depth + 1 } with
    | .ok result state => .ok result { state with depth := state.depth - 1 }
    | .error error state => .error error { state with depth := state.depth - 1 }

/-- Fail because something recorded has no place in a tree. -/
def refuse (what : Unsupported) : Decode α :=
  throw (.unsupported what)

/-- A new identity for a declaration. -/
def freshNode : Decode Nat :=
  modifyGet fun state => (state.nextNode, { state with nextNode := state.nextNode + 1 })

/-- Make a declaration known under the descriptor behind it.  A declaration
without a real descriptor stays unknown; a descriptor has one declaration at
most. -/
def registerDeclaration (declaration : Tree .declaration) : Decode Unit := do
  match declaration.backingDescriptor? with
  | none => return
  | some descriptor =>
    if (← get).declarations.contains descriptor.id then
      throw (.duplicateDeclaration descriptor)
    modify fun state =>
      { state with declarations := state.declarations.insert descriptor.id declaration }

/-! ## Loops -/

/-- Make the shell of a loop, and register it unless its identifier is taken. -/
def beginLoop (loop : LoopNode) : Decode Nat :=
  modifyGet fun state =>
    let node := state.loops.nextNode
    (node, { state with loops := (state.loops.allocate loop).register loop.id node })

/-- Give a loop its contents. -/
def fillLoop (node : Nat) (contents : LoopContents) : Decode Unit :=
  modify fun state => { state with loops := state.loops.populate node contents }

/-- The jump to the loop that is registered for an identifier. -/
def jumpTo (id : Int32) (label : Option String) : Decode Jump := do
  match (← get).lookupLoop id with
  | .ok node => return ⟨id, label, node⟩
  | .error error => throw error

end Decode

/-- A session: its environment and what it has met so far. -/
structure Session where
  environment : Environment
  state : State

namespace Session

/-- The session over a universe in which nothing was linked yet. -/
def start (world : Universe) (settings : Settings) : Session :=
  ⟨⟨world, settings⟩, .initial⟩

/-- Carry out a computation, and go on from the state that it leaves. -/
def run {α : Type} (session : Session) (computation : Decode α) :
    Except DecodeError α × Session :=
  match computation session.environment session.state with
  | .ok result state => (.ok result, { session with state })
  | .error error state => (.error error, { session with state })

/-- A session as a list of names and values between braces. -/
def text (session : Session) : String :=
  "DecodeSession \x7b module: " ++ Text.readableQuoted session.environment.world.name ++
    ", symbols: " ++ toString session.state.symbolCount ++
    ", declarations: " ++ toString session.state.declarationCount ++
    ", loops: " ++ toString session.state.loops.size ++
    ", config: " ++ session.environment.settings.text ++ " \x7d"

end Session

end IrLink
