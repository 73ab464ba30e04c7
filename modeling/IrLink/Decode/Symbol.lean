import IrLink.Decode.Session
import IrLink.Record

/-!
# Linking symbols

The first record with an identifier makes the symbol, and looks its reference
up; every later one gets that symbol, and its own reference is never looked
at.  Where kinds are checked, the recorded kind must be that of the symbol,
the descriptor must be of a kind that the symbol accepts, and the place must
accept the symbol.
-/

namespace IrLink.Decode

/-- Fail because of the kind of a symbol, if kinds are checked and this one
does not fit. -/
def checkKind (id : UInt64) (fits : Bool) (misfit : Misfit) : Decode Unit := do
  if (← read).settings.checkSymbolKinds && !fits then
    throw (.symbolKindMismatch id misfit)

/-- The descriptor that a reference means. -/
def resolveReference (reference : DescriptorReference) : Decode Descriptor := do
  match (← read).world.resolve? reference with
  | some descriptor => return descriptor
  | none => throw (.unresolvedReference reference)

/-- The kind of symbol that is recorded. -/
def recordedKind : RecordedKind → Decode SymbolKind
  | .symbol kind => return kind
  | .returnableBlock => refuse .returnableBlock

/-- The descriptor to which a new symbol of the given kind is bound. -/
def bindSymbol (record : SymbolRecord) (kind : SymbolKind) : Decode (Option Descriptor) := do
  match record.reference with
  | none => return none
  | some reference =>
    let descriptor ← resolveReference reference
    checkKind record.uniqueId.index (kind.accepts descriptor.kind)
      (.bound kind descriptor.kind)
    return some descriptor

/-- The symbol of a record. -/
def resolveSymbol (record : SymbolRecord) : Decode Symbol := do
  let id := record.uniqueId.index
  let kind ← recordedKind record.kind
  match (← get).cachedSymbol? id with
  | some symbol =>
    checkKind id (symbol.kind == kind) (.known kind symbol.kind)
    return symbol
  | none =>
    let bound ← bindSymbol record kind
    let symbol : Symbol := ⟨(← get).symbolCount, id, kind, bound⟩
    modify fun state => { state with symbols := state.symbols.insert id symbol }
    return symbol

/-- The symbol of a record in a place with a requirement. -/
def symbolFor (requirement : Requirement) (record : SymbolRecord) : Decode Symbol := do
  let symbol ← resolveSymbol record
  checkKind symbol.id (requirement.accepts symbol.kind)
    (.required requirement symbol.kind)
  return symbol

/-- The symbol of a record that may be absent. -/
def symbolFor? (requirement : Requirement) (record : Option SymbolRecord) :
    Decode (Option Symbol) := do
  match record with
  | none => return none
  | some record => return some (← symbolFor requirement record)

/-- The symbols of a list of records. -/
def symbolsFor (requirement : Requirement) : List SymbolRecord → Decode (List Symbol)
  | [] => return []
  | record :: rest => do
    return (← symbolFor requirement record) :: (← symbolsFor requirement rest)

end IrLink.Decode
