/-!
# UTF-8

Characters as sequences of one to four bytes.  Decoding accepts exactly the
well-formed sequences: no overlong forms, no surrogates, nothing behind the
last code point.  Where it fails it says how much of a well-formed sequence
it has met, and whether the bytes ended inside one.
-/

namespace IrLink.Text.Utf8

/-- Why bytes are no text. -/
inductive Fault where
  /-- `length` bytes from `index` on begin a sequence that does not go on. -/
  | invalid (length index : Nat)
  /-- The bytes end inside the sequence that begins at `index`. -/
  | incomplete (index : Nat)
  deriving DecidableEq, Repr

/-- What is said of a fault. -/
def Fault.message : Fault → String
  | invalid length index =>
    "invalid utf-8 sequence of " ++ toString length ++ " bytes from index " ++
      toString index
  | incomplete index =>
    "incomplete utf-8 byte sequence from index " ++ toString index

/-! ## Encoding -/

/-- The byte that holds a number below 256. -/
def byte (n : Nat) : UInt8 :=
  UInt8.ofNat n

/-- The byte that holds the last six bits of a number behind a leading byte. -/
def trail (n : Nat) : UInt8 :=
  byte (0x80 + n % 64)

/-- The bytes of one character. -/
def encodeChar (c : Char) : List UInt8 :=
  let n := c.toNat
  if n < 0x80 then [byte n]
  else if n < 0x800 then [byte (0xC0 + n / 64), trail n]
  else if n < 0x10000 then [byte (0xE0 + n / 4096), trail (n / 64), trail n]
  else [byte (0xF0 + n / 262144), trail (n / 4096), trail (n / 64), trail n]

/-- The bytes of a string. -/
def encode (s : String) : List UInt8 :=
  s.toList.flatMap encodeChar

/-! ## Decoding -/

/-- Whether a byte can follow a leading byte. -/
def isTrail (b : UInt8) : Bool :=
  0x80 ≤ b && b ≤ 0xBF

/-- Whether a byte can stand behind the leading byte of a sequence of three or
four.  The first and last leading bytes of their width bound it further. -/
def isSecond (lead b : UInt8) : Bool :=
  if lead == 0xE0 then 0xA0 ≤ b && b ≤ 0xBF
  else if lead == 0xED then 0x80 ≤ b && b ≤ 0x9F
  else if lead == 0xF0 then 0x90 ≤ b && b ≤ 0xBF
  else if lead == 0xF4 then 0x80 ≤ b && b ≤ 0x8F
  else isTrail b

/-- The number that a leading byte, of which `mark` says the width, and the
bytes behind it hold. -/
def joined (mark : Nat) (lead : UInt8) (trails : List UInt8) : Nat :=
  trails.foldl (fun n b => n * 64 + (b.toNat - 0x80)) (lead.toNat - mark)

/-- The characters of the bytes that begin at `index`. -/
def decodeFrom (index : Nat) : List UInt8 → Except Fault (List Char)
  | [] => .ok []
  | lead :: rest =>
    if lead < 0x80 then do
      return Char.ofNat lead.toNat :: (← decodeFrom (index + 1) rest)
    else if 0xC2 ≤ lead && lead ≤ 0xDF then
      match rest with
      | [] => .error (.incomplete index)
      | b :: rest =>
        if isTrail b then do
          return Char.ofNat (joined 0xC0 lead [b]) :: (← decodeFrom (index + 2) rest)
        else .error (.invalid 1 index)
    else if 0xE0 ≤ lead && lead ≤ 0xEF then
      match rest with
      | [] => .error (.incomplete index)
      | b :: rest =>
        if isSecond lead b then
          match rest with
          | [] => .error (.incomplete index)
          | c :: rest =>
            if isTrail c then do
              return Char.ofNat (joined 0xE0 lead [b, c]) ::
                (← decodeFrom (index + 3) rest)
            else .error (.invalid 2 index)
        else .error (.invalid 1 index)
    else if 0xF0 ≤ lead && lead ≤ 0xF4 then
      match rest with
      | [] => .error (.incomplete index)
      | b :: rest =>
        if isSecond lead b then
          match rest with
          | [] => .error (.incomplete index)
          | c :: rest =>
            if isTrail c then
              match rest with
              | [] => .error (.incomplete index)
              | d :: rest =>
                if isTrail d then do
                  return Char.ofNat (joined 0xF0 lead [b, c, d]) ::
                    (← decodeFrom (index + 4) rest)
                else .error (.invalid 3 index)
            else .error (.invalid 2 index)
        else .error (.invalid 1 index)
    else .error (.invalid 1 index)

/-- The text that bytes hold, or the first fault in them. -/
def decode (bytes : List UInt8) : Except Fault String :=
  (decodeFrom 0 bytes).map String.ofList

end IrLink.Text.Utf8
