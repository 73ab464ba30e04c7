import IrLink.Bytes.Hex
import IrLink.Text.Printable

/-!
# Quoted text and joined words

There are two ways to write a string between double quotes.  The ASCII form
leaves only printable ASCII characters as they are; the readable form leaves
every printable character.  What is not left is written behind a backslash, by
a letter if it has one, or else by its code point in braces.

A name that consists of words is also written as one word, with a capital letter
at the beginning of each part.
-/

namespace IrLink.Text

/-! ## Joined words -/

/-- A word with its first letter large and the others small. -/
def capitalize : List Char → List Char
  | [] => []
  | head :: tail => head.toUpper :: tail.map Char.toLower

/-- The words between separators. -/
def wordsOf (separator : Char) : List Char → List (List Char)
  | [] => [[]]
  | c :: rest =>
    match wordsOf separator rest with
    | [] => [[c]]
    | word :: words => if c == separator then [] :: word :: words else (c :: word) :: words

/-- The words of a text joined without separators, each with a capital. -/
def joinWords (separator : Char) (s : String) : String :=
  String.ofList ((wordsOf separator s.toList).flatMap capitalize)

/-! ## Quoted text -/

/-- A character by its code point, as in `\u{e9}`. -/
def codePointEscape (c : Char) : String :=
  "\\u\x7b" ++ hex c.toNat ++ "\x7d"

/-- A character of a string in the ASCII form. -/
def asciiEscape (c : Char) : String :=
  match c with
  | '\t' => "\\t"
  | '\r' => "\\r"
  | '\n' => "\\n"
  | '\'' => "\\'"
  | '"' => "\\\""
  | '\\' => "\\\\"
  | c => if ' ' ≤ c && c ≤ '~' then c.toString else codePointEscape c

/-- A character of a string in the readable form. -/
def readableEscape (c : Char) : String :=
  match c with
  | '\x00' => "\\0"
  | '\t' => "\\t"
  | '\r' => "\\r"
  | '\n' => "\\n"
  | '"' => "\\\""
  | '\\' => "\\\\"
  | c => if isPrintable c then c.toString else codePointEscape c

/-- A string between quotes, each character written by `escape`. -/
def quotedBy (escape : Char → String) (s : String) : String :=
  "\"" ++ String.join (s.toList.map escape) ++ "\""

/-- A string between quotes, in printable ASCII characters alone. -/
def asciiQuoted (s : String) : String :=
  quotedBy asciiEscape s

/-- A string between quotes, with every printable character as it is. -/
def readableQuoted (s : String) : String :=
  quotedBy readableEscape s

end IrLink.Text
