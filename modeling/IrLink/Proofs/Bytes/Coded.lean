import IrLink.Bytes.Coded
import IrLink.Proofs.Bytes.Reader
import IrLink.Proofs.Text.Utf8

/-!
# Lawful byte forms

A byte form is lawful if every value is read back from its bytes, whatever
follows them, and is read from no other bytes.  The forms of numbers, texts,
optional parts, lists and enumerations are.
-/

namespace IrLink.Bytes

open Reader

/-- Types whose values correspond to their bytes. -/
class LawfulCoded (α : Type) [Coded α] : Prop where
  /-- No value is written without a byte. -/
  length_write_pos (a : α) : 0 < (write a).length
  /-- A value is read back from its bytes. -/
  takes (n : Nat) (a : α) : Takes n read (write a) a
  /-- A value is read from its bytes only. -/
  exact : Exact read (write : α → List UInt8)

export LawfulCoded (takes exact)

attribute [simp] LawfulCoded.length_write_pos

/-- The count of bytes that a value is taken from may be supposed to fit a word. -/
theorem Takes.of_fits {α : Type} {n : Nat} {reader : Reader α} {bytes : List UInt8} {a : α}
    (takes : bytes.length < UInt64.size → Takes n reader bytes a) :
    Takes n reader bytes a := by
  intro bound fits
  exact takes fits bound fits

section Instances

variable {α : Type}

instance : LawfulCoded Bool where
  length_write_pos flag := by simp [write]
  takes n flag := by
    have number : Takes n (Reader.number 1) (word 1 flag.toNat) flag.toNat :=
      takes_number (by cases flag <;> decide)
    cases flag with
    | false => exact (number.bind (Takes.pure false)).spelled (List.append_nil _)
    | true => exact (number.bind (Takes.pure true)).spelled (List.append_nil _)
  exact := by
    refine (exact_number 1).bind fun found => ?_
    split
    · exact Spells.pure rfl
    · exact Spells.pure rfl
    · exact Spells.throw

instance : LawfulCoded UInt32 where
  length_write_pos number := by simp [write]
  takes n number := by
    have taken : Takes n (Reader.number 4) (word 4 number.toNat) number.toNat :=
      takes_number number.toNat_lt
    have whole := taken.last UInt32.ofNat
    rwa [UInt32.ofNat_toNat] at whole
  exact := by
    refine (spells_number 4).bind ?_
    rintro found front ⟨rfl, fits⟩
    refine Spells.pure ?_
    rw [List.append_nil]
    exact congrArg (word 4) (UInt32.toNat_ofNat_of_lt' fits).symm

instance : LawfulCoded UInt64 where
  length_write_pos number := by simp [write]
  takes n number := by
    have taken : Takes n (Reader.number 8) (word 8 number.toNat) number.toNat :=
      takes_number number.toNat_lt
    have whole := taken.last UInt64.ofNat
    rwa [UInt64.ofNat_toNat] at whole
  exact := by
    refine (spells_number 8).bind ?_
    rintro found front ⟨rfl, fits⟩
    refine Spells.pure ?_
    rw [List.append_nil]
    exact congrArg (word 8) (UInt64.toNat_ofNat_of_lt' fits).symm

instance : LawfulCoded Int32 where
  length_write_pos number := LawfulCoded.length_write_pos number.toUInt32
  takes n number := (takes n number.toUInt32).last UInt32.toInt32
  exact := exact.last fun _ => rfl

instance : LawfulCoded Int64 where
  length_write_pos number := LawfulCoded.length_write_pos number.toUInt64
  takes n number := (takes n number.toUInt64).last UInt64.toInt64
  exact := exact.last fun _ => rfl

instance : LawfulCoded String where
  length_write_pos s := length_word_append_pos 7 _ _
  takes n s := by
    refine Takes.of_fits fun fits => ?_
    have small : (Text.Utf8.encode s).length < 256 ^ 8 := by
      simp only [write, List.length_append] at fits
      exact Nat.lt_of_le_of_lt (Nat.le_add_left _ _) fits
    have decoded : Takes n (Reader.text (Text.Utf8.encode s)) [] s := by
      rw [Reader.text, Text.Utf8.decode_encode]
      exact Takes.pure s
    have text := ((takes_take .endOfText (Text.Utf8.encode s)).bind decoded).spelled
      (List.append_nil _)
    exact (takes_number small).bind text
  exact := by
    refine (exact_number 8).bind fun count => (spells_take .endOfText count).bind ?_
    rintro bytes front ⟨rfl, rfl⟩
    unfold Reader.text
    cases read : Text.Utf8.decode front with
    | error fault => exact Spells.throw
    | ok s =>
      refine Spells.pure ?_
      rw [List.append_nil, ← Text.Utf8.encode_of_decode read]
      rfl

instance [Coded α] [LawfulCoded α] : LawfulCoded (Option α) where
  length_write_pos part := by
    cases part with
    | none => simp [write]
    | some a => exact length_word_append_pos 0 1 (write a)
  takes n part := by
    cases part with
    | none =>
      have number : Takes n (Reader.number 1) (word 1 0) 0 := takes_number (by decide)
      exact (number.bind (Takes.pure none)).spelled (List.append_nil _)
    | some a =>
      have number : Takes n (Reader.number 1) (word 1 1) 1 := takes_number (by decide)
      exact number.bind ((takes n a).last some)
  exact := by
    refine (exact_number 1).bind fun found => ?_
    split
    · exact Spells.pure rfl
    · exact exact.last fun _ => rfl
    · exact Spells.throw

theorem length_le_length_flatMap [Coded α] [LawfulCoded α] (items : List α) :
    items.length ≤ (items.flatMap write).length := by
  induction items with
  | nil => exact Nat.le_refl 0
  | cons head tail inductionHypothesis =>
    have some := LawfulCoded.length_write_pos head
    simp only [List.flatMap_cons, List.length_cons, List.length_append]
    omega

instance [Coded α] [LawfulCoded α] : LawfulCoded (List α) where
  length_write_pos items := length_word_append_pos 7 _ _
  takes n items := by
    refine Takes.of_fits fun fits => ?_
    have small : items.length < 256 ^ 8 := by
      have le := length_le_length_flatMap items
      simp only [write, List.length_append] at fits
      exact Nat.lt_of_le_of_lt (Nat.le_trans le (Nat.le_add_left _ _)) fits
    exact (takes_number small).bind (takes_times fun a _ => takes n a)
  exact := by
    refine (exact_number 8).bind fun count => (spells_times exact count).imp ?_
    rintro items bytes ⟨rfl, rfl⟩
    rfl

/-- The alternatives of an enumeration are its values in order. -/
theorem allSpell_values [BEq α] [LawfulBEq α] {values : List α} (nodup : values.Nodup)
    (before : List α) {after : List α} (split : values = before ++ after) :
    AllSpell (fun a bytes => bytes = word 4 (values.idxOf a)) before.length
      (after.map fun a => (return a)) := by
  induction after generalizing before with
  | nil => trivial
  | cons a after inductionHypothesis =>
    refine ⟨Spells.pure ?_, ?_⟩
    · subst split
      have notBefore : a ∉ before := fun membership =>
        (List.nodup_append.mp nodup).2.2 a membership a List.mem_cons_self rfl
      simp [List.idxOf_append, notBefore]
    · have rest := inductionHypothesis (before ++ [a]) (by simp [split])
      rwa [List.length_append] at rest

instance [Enumerated α] : LawfulCoded α where
  length_write_pos a := by simp [write]
  takes n a := by
    have inside := List.idxOf_lt_length_iff.mpr (Enumerated.mem_values a)
    have small := Nat.lt_trans inside (Enumerated.length_values (α := α))
    refine (takes_variant_pure ?_ small).mono (Nat.le_succ n)
    rw [List.getElem?_map, List.getElem?_eq_getElem inside, List.getElem_idxOf]
    rfl
  exact := spells_variant (allSpell_values Enumerated.nodup_values [] rfl)

end Instances

end IrLink.Bytes
