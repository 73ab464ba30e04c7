import IrLink.Bytes.Reader

/-!
# Byte forms

`Coded` joins the two directions of a byte form.  Numbers have a fixed width
and are little-endian, truth values take one byte, variants a word of four
bytes, and lists and texts begin with their length as a word of eight.
-/

namespace IrLink.Bytes

/-- Types with a byte form. -/
class Coded (α : Type) where
  write : α → List UInt8
  read : Reader α

export Coded (write read)

/-- The bytes of the parts of a value, one after the other.  Those of the last
part, which may be long, are not copied. -/
def join : List (List UInt8) → List UInt8
  | [] => []
  | [last] => last
  | front :: rest => front ++ join rest

/-- Types whose values are listed in the order of their numbers. -/
class Enumerated (α : Type) extends BEq α, LawfulBEq α where
  values : List α
  mem_values : ∀ a, a ∈ values
  nodup_values : values.Nodup
  /-- The number of a value fits into a word of four bytes. -/
  length_values : values.length < UInt32.size

section Instances

variable {α β : Type}

instance : Coded Bool where
  write flag := word 1 flag.toNat
  read := do
    match ← Reader.number 1 with
    | 0 => return false
    | 1 => return true
    | found => throw (.boolean found)

instance : Coded UInt32 where
  write n := word 4 n.toNat
  read := do return UInt32.ofNat (← Reader.number 4)

instance : Coded UInt64 where
  write n := word 8 n.toNat
  read := do return UInt64.ofNat (← Reader.number 8)

instance : Coded Int32 where
  write n := write n.toUInt32
  read := do return UInt32.toInt32 (← read)

instance : Coded Int64 where
  write n := write n.toUInt64
  read := do return UInt64.toInt64 (← read)

instance : Coded String where
  write s :=
    let bytes := Text.Utf8.encode s
    word 8 bytes.length ++ bytes
  read := do Reader.text (← Reader.take .endOfText (← Reader.number 8))

instance [Coded α] : Coded (Option α) where
  write
    | none => word 1 0
    | some a => word 1 1 ++ write a
  read := do
    match ← Reader.number 1 with
    | 0 => return none
    | 1 => return some (← read)
    | found => throw (.optionTag found)

instance [Coded α] : Coded (List α) where
  write items := word 8 items.length ++ items.flatMap write
  read := do Reader.times read (← Reader.number 8)

instance [Enumerated α] : Coded α where
  write a := word 4 (Enumerated.values.idxOf a)
  read := Reader.variant (Enumerated.values.map fun a => return a)

end Instances

end IrLink.Bytes
