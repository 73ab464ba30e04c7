import IrLink.Toml.Moment
import IrLink.Toml.Number
import IrLink.Toml.Quoted
import IrLink.Toml.Table

/-!
# Documents of TOML

A document is a list of statements, one a line: assignments and headers.  An
assignment belongs to the table of the header in front of it, or to the table
of all.  `Document.ofText?` reads a document.
-/

namespace IrLink.Toml

open Text Reading

/-! ## Keys -/

/-- The characters of keys without quotes. -/
def isKeyChar (c : Char) : Bool :=
  c.isAlphanum || c == '-' || c == '_'

/-- Take a key without quotes. -/
def bareKey : Reading String := do
  let head ← one isKeyChar
  return String.ofList (head :: (← span isKeyChar))

/-- Take one key. -/
def simpleKey : Reading String :=
  basicText <|> literalText <|> bareKey

/-- Both nested values and dotted keys have fewer levels than this. -/
def levelLimit : Nat := 80

/-- Take a dotted key: the path to a table, and a key of that table. -/
def dottedKey : Reading (List String × String) := do
  let keys ← separated (char '.') (blanks *> simpleKey <* blanks)
  guarded (if levelLimit ≤ keys.length then none
    else keys.getLast?.map fun key => (keys.dropLast, key))

/-! ## Values -/

/-- Take a truth value. -/
def boolean : Reading Bool :=
  (word "true" *> return true) <|> (word "false" *> return false)

/-- Take a value that holds no others. -/
def atom : Reading Value :=
  (return .text (← quoted)) <|> (return .moment (← moment)) <|> (return .real (← real)) <|>
    (return .integer (← integer)) <|> (return .boolean (← boolean))

/-- Take an array of items. -/
def array (item : Reading Value) : Reading Value := do
  char '['
  let items ← separated (char ',') (blankLines *> item <* blankLines)
  unless items.isEmpty do
    discard (optional (char ','))
  blankLines
  char ']'
  return .array items

/-- A dotted key and its value. -/
structure Assignment where
  path : List String
  key : String
  value : Value

/-- Take a dotted key and its value. -/
def assignment (value : Reading Value) : Reading Assignment := do
  let (path, key) ← dottedKey
  char '='
  blanks
  return ⟨path, key, ← value⟩

/-- Take a table between braces. -/
def inlineTable (item : Reading Value) : Reading Value := do
  char '\x7b'
  let assignments ← separated (char ',') (assignment item <* blanks)
  blanks
  char '\x7d'
  let table ← guarded (assignments.foldlM (fun table a => table.assign a.path a.key a.value)
    (Table.empty .inline))
  return table.toValue

/-- Take a value with values nested in it no more than `levels` deep. -/
def value : (levels : Nat) → Reading Value
  | 0 => atom
  | levels + 1 => atom <|> array (value levels) <|> inlineTable (value levels)

/-! ## Statements -/

/-- A statement of a document. -/
inductive Statement where
  | assign (assignment : Assignment)
  | openTable (path : List String) (key : String)
  | appendTable (path : List String) (key : String)

/-- Take the header of a table or of one more table of an array. -/
def header : Reading Statement :=
  (do
    word "[["
    let (path, key) ← dottedKey
    word "]]"
    return .appendTable path key) <|>
  (do
    char '['
    let (path, key) ← dottedKey
    char ']'
    return .openTable path key)

/-- Take a line, with or without a statement. -/
def line : Reading (Option Statement) :=
  blanks *>
    ((newline *> return none) <|> (comment *> lineEnd *> return none) <|>
      (return some (← header <* lineEnd)) <|>
      (return some (.assign (← assignment (value (levelLimit - 1)) <* lineEnd))))

/-- Take all statements, behind a mark of the byte order that says nothing. -/
def statements : Reading (List Statement) := do
  discard (optional (char '\ufeff'))
  let lines ← many line
  blanks
  return lines.filterMap id

/-- A document under construction: the table of all, and the path of the table
to which assignments belong. -/
structure Document where
  root : Table := .empty .header
  current : List String := []

namespace Document

/-- Carry out a statement. -/
def add? (document : Document) : Statement → Option Document
  | .assign a => do
    return { document with
      root := ← document.root.within .implied (·.assign a.path a.key a.value)
        document.current }
  | .openTable path key => do
    return ⟨← document.root.openTable path key, path ++ [key]⟩
  | .appendTable path key => do
    return ⟨← document.root.appendTable path key, path ++ [key]⟩

/-- What a text says, as one plain value: the table of all, unless it stands for
a moment. -/
def ofText? (text : String) : Option Value := do
  let statements ← statements.whole? text
  let document ← statements.foldlM add? ({} : Document)
  document.root.toValue.plain?

end Document

end IrLink.Toml
