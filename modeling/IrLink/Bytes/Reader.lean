import IrLink.Text.Utf8

/-!
# Readers of bytes

A reader takes a value from the front of a byte sequence and leaves the rest,
or says what is wrong there.  It never looks behind what it takes, so what
follows a value has no influence on it.  Numbers of a fixed width are
little-endian words.
-/

namespace IrLink.Bytes

/-! ## Words -/

/-- The lowest `width` bytes of a number, least significant first. -/
def word : (width n : Nat) → List UInt8
  | 0, _ => []
  | width + 1, n => UInt8.ofNat n :: word width (n / 256)

/-- The number whose bytes are given, least significant first. -/
def value : List UInt8 → Nat
  | [] => 0
  | byte :: bytes => byte.toNat + 256 * value bytes

/-! ## Readers -/

/-- Why bytes hold no value of the sort that is asked for. -/
inductive Fault where
  /-- The bytes end inside a value of fixed width. -/
  | endOfInput
  /-- The bytes end inside a text. -/
  | endOfText
  /-- The bytes of a text are not well formed. -/
  | text (fault : Text.Utf8.Fault)
  /-- A truth value is neither 0 nor 1. -/
  | boolean (found : Nat)
  /-- The mark of an optional part is neither 0 nor 1. -/
  | optionTag (found : Nat)
  /-- There is no variant of the given number. -/
  | variant (found count : Nat)
  deriving DecidableEq, Repr

/-- What is said of a fault. -/
def Fault.message : Fault → String
  | endOfInput => "io error: unexpected end of file"
  | endOfText => "io error: "
  | text fault => "string is not valid utf8: " ++ fault.message
  | boolean found =>
    "invalid u8 while decoding bool, expected 0 or 1, found " ++ toString found
  | optionTag found => "tag for enum is not valid, found " ++ toString found
  | variant found count =>
    "invalid value: integer `" ++ toString found ++
      "`, expected variant index 0 <= i < " ++ toString count

/-- Whether a fault says no more than that the bytes end too early. -/
def Fault.isShortage : Fault → Bool
  | endOfInput | endOfText => true
  | _ => false

/-- Take a value from the front of a byte sequence. -/
abbrev Reader (α : Type) := StateT (List UInt8) (Except Fault) α

/-- The first `count` bytes and the rest, if there are as many. -/
def splitAt? : (count : Nat) → List UInt8 → Option (List UInt8 × List UInt8)
  | 0, bytes => some ([], bytes)
  | _ + 1, [] => none
  | count + 1, byte :: bytes =>
    (splitAt? count bytes).map fun (front, rest) => (byte :: front, rest)

namespace Reader

variable {α : Type}

/-- Take `count` bytes; `shortage` says what is wrong if there are fewer. -/
def take (shortage : Fault) (count : Nat) : Reader (List UInt8) := fun bytes =>
  match splitAt? count bytes with
  | some split => .ok split
  | none => .error shortage

/-- Take a number of a fixed width in bytes. -/
def number (width : Nat) : Reader Nat := do
  return value (← take .endOfInput width)

/-- The text that bytes which have been taken hold. -/
def text (bytes : List UInt8) : Reader String :=
  match Text.Utf8.decode bytes with
  | .ok s => return s
  | .error fault => throw (.text fault)

/-- Take the items of a list one after the other. -/
def times (item : Reader α) : Nat → Reader (List α)
  | 0 => return []
  | count + 1 => do
    let head ← item
    let tail ← times item count
    return head :: tail

/-- Take the number of a variant, and then what that variant holds. -/
def variant (alternatives : List (Reader α)) : Reader α := do
  let found ← number 4
  match alternatives[found]? with
  | some alternative => alternative
  | none => throw (.variant found alternatives.length)

end Reader

end IrLink.Bytes
