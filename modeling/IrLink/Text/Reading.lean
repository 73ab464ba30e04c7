/-!
# Reading text

A reading takes something from the front of a text and leaves the rest, or
fails and takes nothing.  Of two readings that are joined by `<|>`, the second
is tried where the first fails.
-/

namespace IrLink.Text

/-- Take something from the front of a text. -/
abbrev Reading (α : Type) := StateT (List Char) Option α

namespace Reading

variable {α : Type}

/-- Take a character of a class. -/
def one (admits : Char → Bool) : Reading Char
  | [] => none
  | c :: rest => if admits c then some (c, rest) else none

/-- Take a given character. -/
def char (c : Char) : Reading Unit :=
  discard (one fun found => found == c)

/-- Take a given word. -/
def word (w : String) : Reading Unit :=
  w.toList.forM char

/-- Take the characters in front of the first that is not of a class. -/
def span (admits : Char → Bool) : Reading (List Char) := fun text =>
  some (text.takeWhile admits, text.dropWhile admits)

/-- Take a value that a test admits. -/
def guarded (value : Option α) : Reading α := fun text =>
  value.map fun a => (a, text)

/-- Take nothing, at the end of the text only. -/
def atEnd : Reading Unit
  | [] => some ((), [])
  | _ :: _ => none

/-- Take a given number of items. -/
def times (item : Reading α) : (count : Nat) → Reading (List α)
  | 0 => return []
  | count + 1 => do return (← item) :: (← times item count)

/-- Take items as long as there are any, but no more than `count`. -/
def upTo (item : Reading α) : (count : Nat) → Reading (List α)
  | 0 => return []
  | count + 1 => (do return (← item) :: (← upTo item count)) <|> return []

/-- Take items as long as there are any.  An item takes at least one
character, so a text holds no more of them than characters. -/
def many (item : Reading α) : Reading (List α) := fun text =>
  upTo item text.length text

/-- Take items with a separator between any two. -/
def separated (separator : Reading Unit) (item : Reading α) : Reading (List α) :=
  (do return (← item) :: (← many (separator *> item))) <|> return []

/-- What a reading takes from a text, if it takes all of it. -/
def whole? (reading : Reading α) (text : String) : Option α :=
  match reading text.toList with
  | some (a, []) => some a
  | _ => none

end Reading

end IrLink.Text
