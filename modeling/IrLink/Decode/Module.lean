import IrLink.Decode.Build
import IrLink.Record.Bytes

/-!
# Files and modules

The header of a module names the declarations of its files by identifier.  A
loader asks a byte source for each, in order and once per mention, reads the
record and links it in the session, where all that was loaded before is known.
The loader notes what it has asked for.
-/

namespace IrLink

/-- Where the bytes of records come from. -/
abbrev Source := UInt64 → Option (List UInt8)

/-- A file and its declarations, in the order of its header. -/
structure File where
  name : String
  package : String
  declarations : List (Tree .declaration)

/-- A module and its files, in the order of its header. -/
structure Module where
  /-- The name of the universe over which the module was linked. -/
  name : String
  files : List File

namespace Module

/-- All declarations of all files. -/
def declarations (module : Module) : List (Tree .declaration) :=
  module.files.flatMap (·.declarations)

/-- The first file of a given name. -/
def file? (module : Module) (name : String) : Option File :=
  module.files.find? fun file => file.name == name

end Module

/-- The state of a session, and what a byte source was asked for. -/
structure LoadState where
  session : State
  /-- The identifiers that were asked for, in order. -/
  asked : List UInt64 := []

/-- Computations of a loader.  A failure keeps the state that it was met in. -/
abbrev Load := ReaderT Environment (EStateM DecodeError LoadState)

namespace Load

variable {α : Type}

/-- A computation of the session that the loader works for. -/
def ofDecode (computation : Decode α) : Load α := fun environment state =>
  match computation environment state.session with
  | .ok result session => .ok result { state with session }
  | .error error session => .error error { state with session }

/-- What reading bytes gave. -/
def ofBytes : Except Bytes.Fault α → Load α
  | .ok result => return result
  | .error fault => throw (.malformedRecord fault)

/-- The bytes that a source has under an identifier. -/
def ask (source : Source) (id : UInt64) : Load (List UInt8) := do
  modify fun state => { state with asked := state.asked ++ [id] }
  match source id with
  | some bytes => return bytes
  | none => throw (.missingRecord id)

/-- Load one declaration of a file. -/
def declaration (source : Source) (file : String) (id : UniqueId) :
    Load (Tree .declaration) := do
  let bytes ← ask source id.index
  let record ← ofBytes (Record.ofBytes .declaration bytes)
  ofDecode (Decode.buildDeclaration record (.file file))

/-- Load declarations of a file one after the other. -/
def declarations (source : Source) (file : String) :
    List UniqueId → Load (List (Tree .declaration))
  | [] => return []
  | id :: rest => do
    let head ← declaration source file id
    return head :: (← declarations source file rest)

/-- Load a file. -/
def file (source : Source) (record : FileRecord) : Load File := do
  return ⟨record.name, record.package,
    ← declarations source record.name record.declarations⟩

/-- Load files one after the other. -/
def files (source : Source) : List FileRecord → Load (List File)
  | [] => return []
  | record :: rest => do
    let head ← file source record
    return head :: (← files source rest)

/-- Load a module. -/
def module (source : Source) (record : ModuleRecord) : Load Module := do
  return ⟨(← read).world.name, ← files source record.files⟩

/-- Load the module whose header stands at the front of bytes. -/
def moduleOfBytes (source : Source) (bytes : List UInt8) : Load Module := do
  module source (← ofBytes (ModuleRecord.ofBytes bytes))

end Load

/-- Carry out a computation of a loader: its result, what was asked for, and
the session to go on with. -/
def Session.load {α : Type} (session : Session) (computation : Load α) :
    Except DecodeError α × List UInt64 × Session :=
  match computation session.environment { session := session.state } with
  | .ok result state => (.ok result, state.asked, { session with state := state.session })
  | .error error state => (.error error, state.asked, { session with state := state.session })

end IrLink
