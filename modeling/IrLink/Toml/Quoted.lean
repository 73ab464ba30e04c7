import IrLink.Bytes.Hex
import IrLink.Text.Reading

/-!
# Blanks and texts of TOML

What stands between the parts of a document: blanks, line ends and comments.

A text stands between quotes of one of two sorts.  Between double quotes, a
backslash begins an escape; between single quotes, every character stands for
itself.  Three quotes begin and end a text of several lines.
-/

namespace IrLink.Toml

open Text Reading

/-! ## Blanks -/

/-- Spaces and tabs. -/
def isBlank (c : Char) : Bool :=
  c == ' ' || c == '\t'

/-- The characters of comments and texts: tabs, what is printed of ASCII, and
everything beyond ASCII. -/
def isShown (c : Char) : Bool :=
  c == '\t' || (' ' ≤ c && c ≤ '~') || '\x80' ≤ c

/-- Take blanks, if there are any. -/
def blanks : Reading Unit :=
  discard (span isBlank)

/-- Take the end of a line. -/
def newline : Reading Unit :=
  char '\n' <|> word "\r\n"

/-- Take a comment, up to the end of its line. -/
def comment : Reading Unit := do
  char '#'
  discard (span isShown)

/-- Take the end of a line or of the text, with blanks and a comment in front. -/
def lineEnd : Reading Unit := do
  blanks
  discard (optional comment)
  newline <|> atEnd

/-- Take blanks, line ends, and comments with their line ends. -/
def blankLines : Reading Unit :=
  discard (many (discard (one isBlank) <|> newline <|> (comment *> newline)))

/-! ## Texts -/

/-- The characters that stand for themselves between double quotes. -/
def isBasic (c : Char) : Bool :=
  isShown c && c != '"' && c != '\\'

/-- The characters that stand between single quotes. -/
def isLiteral (c : Char) : Bool :=
  isShown c && c != '\''

/-- The character of a given number. -/
def scalar? (n : Nat) : Option Char :=
  if h : n.isValidChar then some (Char.ofNatAux n h) else none

/-- Take the number of a character in base sixteen. -/
def numbered (width : Nat) : Reading Char := do
  let digits ← times (one fun c => (hexDigit? c).isSome) width
  guarded ((hexValue? digits).bind scalar?)

/-- Take an escape. -/
def escape : Reading Char := do
  char '\\'
  match ← one fun _ => true with
  | 'b' => return '\x08'
  | 't' => return '\t'
  | 'n' => return '\n'
  | 'f' => return '\x0c'
  | 'r' => return '\r'
  | '"' => return '"'
  | '\\' => return '\\'
  | 'u' => numbered 4
  | 'U' => numbered 8
  | _ => failure

/-- Take a backslash at the end of a line, and what is blank behind it. -/
def lineJoin : Reading Unit := do
  char '\\'
  blanks
  newline
  discard (many (discard (one isBlank) <|> newline))

/-! ## Texts of one line -/

/-- Take a text between double quotes. -/
def basicText : Reading String := do
  char '"'
  let held ← many (one isBasic <|> escape)
  char '"'
  return String.ofList held

/-- Take a text between single quotes. -/
def literalText : Reading String := do
  char '\''
  let held ← span isLiteral
  char '\''
  return String.ofList held

/-! ## Texts of several lines -/

/-- Take quotes of a number between two bounds, not followed by another. -/
def quoteRun (quote : Char) (low high : Nat) : Reading (List Char) := do
  let run ← span fun c => c == quote
  guarded (if low ≤ run.length && run.length ≤ high then some run else none)

/-- Take a text between three quotes and three quotes.  A line end directly
behind the first three is dropped.  One or two quotes may stand anywhere inside,
also in front of the last three. -/
def lines (quote : Char) (part : Reading (List Char)) : Reading String := do
  discard (times (char quote) 3)
  discard (optional newline)
  let held ← many (part <|> (newline *> return ['\n']) <|> quoteRun quote 1 2)
  let closing ← quoteRun quote 3 5
  return String.ofList (held.flatten ++ closing.drop 3)

/-- Take a text of several lines between double quotes. -/
def basicLines : Reading String :=
  lines '"' ((return [← one isBasic]) <|> (lineJoin *> return []) <|> (return [← escape]))

/-- Take a text of several lines between single quotes. -/
def literalLines : Reading String :=
  lines '\'' (return [← one isLiteral])

/-- Take a text of any sort. -/
def quoted : Reading String :=
  basicLines <|> literalLines <|> basicText <|> literalText

end IrLink.Toml
