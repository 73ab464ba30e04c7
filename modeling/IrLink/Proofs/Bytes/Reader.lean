import IrLink.Bytes.Reader
import Mathlib.Algebra.Group.Nat.Defs

/-!
# Laws of readers

`Takes` says which value a reader takes from given bytes, whatever follows them,
and `Spells` what is known of the bytes that a reader has taken for a value.
Each of the two has one rule for every way in which readers are put together.

The readers of records are defined layer by layer, so `Takes` carries a bound
on the count of the bytes.  The rules for a tag and for a first part raise it
by one: what follows these is shorter than the whole.

The two directions of little-endian words are inverse on numbers and byte
sequences that fit (`value_word`, `word_value`).
-/

namespace IrLink.Bytes

/-! ## Words -/

section Words

attribute [local simp] word value

@[simp]
theorem length_word (width n : Nat) : (word width n).length = width := by
  induction width generalizing n with
  | zero => rfl
  | succ width inductionHypothesis => simp [inductionHypothesis]

/-- Bytes that begin with a word are not empty. -/
theorem length_word_append_pos (width n : Nat) (bytes : List UInt8) :
    0 < (word (width + 1) n ++ bytes).length := by
  rw [List.length_append, length_word]
  omega

/-- A number that fits into the bytes is read back from them. -/
theorem value_word {width n : Nat} (fits : n < 256 ^ width) : value (word width n) = n := by
  induction width generalizing n with
  | zero => simp at fits; simp [fits]
  | succ width inductionHypothesis =>
    have rest : n / 256 < 256 ^ width := by
      rw [Nat.div_lt_iff_lt_mul (by decide)]
      rwa [Nat.pow_succ] at fits
    simp only [word, value, inductionHypothesis rest, UInt8.toNat_ofNat']
    omega

/-- Bytes are written back from their number. -/
theorem word_value (bytes : List UInt8) : word bytes.length (value bytes) = bytes := by
  induction bytes with
  | nil => rfl
  | cons byte bytes inductionHypothesis =>
    have small := byte.toNat_lt
    have head : UInt8.ofNat (byte.toNat + 256 * value bytes) = byte := by
      apply UInt8.toNat_inj.mp
      simp only [UInt8.toNat_ofNat']
      omega
    have tail : (byte.toNat + 256 * value bytes) / 256 = value bytes := by omega
    simp [head, tail, inductionHypothesis]

/-- As many bytes hold only numbers below a power of 256. -/
theorem value_lt (bytes : List UInt8) : value bytes < 256 ^ bytes.length := by
  induction bytes with
  | nil => decide
  | cons byte bytes inductionHypothesis =>
    have small := byte.toNat_lt
    simp only [value, List.length_cons, Nat.pow_succ]
    omega

end Words

open Reader

variable {α β γ : Type} {n : Nat}

/-! ## What is taken from bytes -/

/-- A reader takes a value from all of the given bytes and leaves what follows
them, if they are fewer than `n` and their count fits a word. -/
def Takes (n : Nat) (reader : Reader α) (bytes : List UInt8) (a : α) : Prop :=
  bytes.length < n → bytes.length < UInt64.size →
    ∀ rest, reader (bytes ++ rest) = .ok (a, rest)

theorem Takes.mono {m : Nat} {reader : Reader α} {bytes : List UInt8} {a : α}
    (takes : Takes n reader bytes a) (le : m ≤ n) : Takes m reader bytes a := by
  intro bound fits
  exact takes (by omega) fits

/-- The same bytes may be written in another way. -/
theorem Takes.spelled {reader : Reader α} {bytes spelling : List UInt8} {a : α}
    (takes : Takes n reader bytes a) (same : bytes = spelling) :
    Takes n reader spelling a :=
  same ▸ takes

theorem Takes.pure (a : α) : Takes n (pure a) [] a := by
  intro _ _ rest
  rfl

theorem Takes.bind {first : Reader α} {next : α → Reader β} {front back : List UInt8}
    {a : α} {b : β} (takesFront : Takes n first front a)
    (takesBack : Takes n (next a) back b) : Takes n (first >>= next) (front ++ back) b := by
  intro bound fits rest
  rw [List.length_append] at bound fits
  change (first (front ++ back ++ rest)).bind (fun split => next split.1 split.2) = _
  rw [List.append_assoc, takesFront (by omega) (by omega)]
  exact takesBack (by omega) (by omega) rest

/-- The last part of a value completes it. -/
theorem Takes.last {reader : Reader α} {bytes : List UInt8} {a : α}
    (takes : Takes n reader bytes a) (complete : α → β) :
    Takes n (reader >>= fun part => Pure.pure (complete part)) bytes (complete a) := by
  have completed : Takes n (Pure.pure (complete a)) [] (complete a) := .pure _
  exact (takes.bind completed).spelled (List.append_nil bytes)

/-- Behind a part that takes bytes, fewer are left. -/
theorem Takes.after {first : Reader α} {next : α → Reader β} {front back : List UInt8}
    {a : α} {b : β} (takesFront : Takes (n + 1) first front a) (some : 0 < front.length)
    (takesBack : Takes n (next a) back b) :
    Takes (n + 1) (first >>= next) (front ++ back) b := by
  intro bound
  rw [List.length_append] at bound
  have takesNext : Takes (n + 1) (next a) back b := fun _ => takesBack (by omega)
  exact takesFront.bind takesNext (by simpa using bound)

/-- Where two parts both take bytes, each takes fewer than the whole. -/
theorem Takes.both {first : Reader α} {next : α → Reader β} {front back : List UInt8}
    {a : α} {b : β} (takesFront : Takes n first front a) (some : 0 < front.length)
    (takesBack : Takes n (next a) back b) (more : 0 < back.length) :
    Takes (n + 1) (first >>= next) (front ++ back) b := by
  intro bound
  rw [List.length_append] at bound
  have takesFirst : Takes (n + 1) first front a := fun _ => takesFront (by omega)
  have takesNext : Takes (n + 1) (next a) back b := fun _ => takesBack (by omega)
  exact takesFirst.bind takesNext (by simpa using bound)

/-! ## The bytes of a value -/

/-- Where a reader takes a value from the front of bytes, the bytes that it has
taken are related to the value. -/
def Spells (reader : Reader α) (spelling : α → List UInt8 → Prop) : Prop :=
  ∀ ⦃input : List UInt8⦄ ⦃a : α⦄ ⦃rest : List UInt8⦄, reader input = .ok (a, rest) →
    ∃ bytes, input = bytes ++ rest ∧ spelling a bytes

/-- A reader takes a value from no other bytes than those that are written for it. -/
abbrev Exact (reader : Reader α) (write : α → List UInt8) : Prop :=
  Spells reader fun a bytes => bytes = write a

theorem Spells.pure {a : α} {spelling : α → List UInt8 → Prop} (holds : spelling a []) :
    Spells (pure a) spelling := by
  rintro input b rest ⟨⟩
  exact ⟨[], rfl, holds⟩

theorem Spells.throw {fault : Fault} {spelling : α → List UInt8 → Prop} :
    Spells (throw fault) spelling := by
  rintro input a rest ⟨⟩

theorem Spells.bind {first : Reader α} {next : α → Reader β}
    {part : α → List UInt8 → Prop} {spelling : β → List UInt8 → Prop}
    (spellsFirst : Spells first part)
    (spellsNext : ∀ a front, part a front →
      Spells (next a) fun b back => spelling b (front ++ back)) :
    Spells (first >>= next) spelling := by
  intro input b rest read
  change (first input).bind (fun split => next split.1 split.2) = _ at read
  cases taken : first input with
  | error fault => rw [taken] at read; cases read
  | ok split =>
    rcases split with ⟨a, middle⟩
    rw [taken] at read
    rcases spellsFirst taken with ⟨front, rfl, holds⟩
    rcases spellsNext a front holds read with ⟨back, rfl, whole⟩
    exact ⟨front ++ back, (List.append_assoc front back rest).symm, whole⟩

/-- The rule for a part with a byte form of its own. -/
theorem Exact.bind {first : Reader α} {next : α → Reader β} {write : α → List UInt8}
    {spelling : β → List UInt8 → Prop} (exact : Exact first write)
    (spellsNext : ∀ a, Spells (next a) fun b back => spelling b (write a ++ back)) :
    Spells (first >>= next) spelling := by
  refine Spells.bind exact ?_
  rintro a front rfl
  exact spellsNext a

/-- The last part of a value completes it. -/
theorem Exact.last {reader : Reader α} {write : α → List UInt8} {complete : α → β}
    {spelling : β → List UInt8 → Prop} (exact : Exact reader write)
    (holds : ∀ a, spelling (complete a) (write a)) :
    Spells (reader >>= fun part => pure (complete part)) spelling := by
  refine exact.bind fun a => Spells.pure ?_
  rw [List.append_nil]
  exact holds a

theorem Spells.imp {reader : Reader α} {weak strong : α → List UInt8 → Prop}
    (spells : Spells reader strong) (imp : ∀ a bytes, strong a bytes → weak a bytes) :
    Spells reader weak := by
  intro input a rest read
  rcases spells read with ⟨bytes, same, holds⟩
  exact ⟨bytes, same, imp a bytes holds⟩

/-! ## Reading from the front -/

theorem Takes.run' {reader : Reader α} {bytes : List UInt8} {a : α}
    (takes : Takes n reader bytes a) (bound : bytes.length < n)
    (fits : bytes.length < UInt64.size) (rest : List UInt8) :
    StateT.run' reader (bytes ++ rest) = .ok a := by
  change Prod.fst <$> reader (bytes ++ rest) = _
  rw [takes bound fits rest]
  rfl

theorem Spells.run' {reader : Reader α} {write : α → List UInt8} (exact : Exact reader write)
    {input : List UInt8} {a : α} (result : StateT.run' reader input = .ok a) :
    ∃ rest, input = write a ++ rest := by
  change Prod.fst <$> reader input = _ at result
  cases taken : reader input with
  | error fault => rw [taken] at result; cases result
  | ok split =>
    rcases split with ⟨value, rest⟩
    rw [taken] at result
    cases result
    rcases exact taken with ⟨bytes, same, rfl⟩
    exact ⟨rest, same⟩

/-! ## Bytes and numbers -/

theorem splitAt?_append (bytes rest : List UInt8) :
    splitAt? bytes.length (bytes ++ rest) = some (bytes, rest) := by
  induction bytes with
  | nil => rfl
  | cons byte bytes inductionHypothesis =>
    simp [splitAt?, inductionHypothesis]

theorem eq_append_of_splitAt? {count : Nat} {input bytes rest : List UInt8}
    (split : splitAt? count input = some (bytes, rest)) :
    input = bytes ++ rest ∧ bytes.length = count := by
  induction count generalizing input bytes with
  | zero =>
    cases split
    exact ⟨rfl, rfl⟩
  | succ count inductionHypothesis =>
    cases input with
    | nil => cases split
    | cons byte input =>
      rcases Option.map_eq_some_iff.mp split with ⟨⟨front, behind⟩, inner, same⟩
      cases same
      rcases inductionHypothesis inner with ⟨rfl, rfl⟩
      exact ⟨rfl, rfl⟩

theorem takes_take (shortage : Fault) (bytes : List UInt8) :
    Takes n (take shortage bytes.length) bytes bytes := by
  intro _ _ rest
  rw [take, splitAt?_append]

theorem spells_take (shortage : Fault) (count : Nat) :
    Spells (take shortage count) fun taken bytes => bytes = taken ∧ taken.length = count := by
  intro input taken rest read
  unfold take at read
  split at read
  · next split same =>
    cases read
    rcases eq_append_of_splitAt? same with ⟨rfl, count⟩
    exact ⟨taken, rfl, rfl, count⟩
  · cases read

theorem takes_number {width number : Nat} (fits : number < 256 ^ width) :
    Takes n (Reader.number width) (word width number) number := by
  have takes := (takes_take (n := n) .endOfInput (word width number)).last value
  rwa [length_word, value_word fits] at takes

/-- Only the word of a number is read as that number. -/
theorem spells_number (width : Nat) :
    Spells (Reader.number width) fun number bytes =>
      bytes = word width number ∧ number < 256 ^ width := by
  refine Spells.bind (spells_take .endOfInput width) ?_
  rintro taken front ⟨rfl, rfl⟩
  refine Spells.pure ?_
  rw [List.append_nil, word_value]
  exact ⟨rfl, value_lt front⟩

theorem exact_number (width : Nat) : Exact (Reader.number width) (word width) :=
  (spells_number width).imp fun _ _ holds => holds.1

/-! ## Lists -/

/-- Items are taken one after the other. -/
theorem takes_times {item : Reader α} {write : α → List UInt8} {items : List α}
    (takes : ∀ a ∈ items, Takes n item (write a) a) :
    Takes n (times item items.length) (items.flatMap write) items := by
  induction items with
  | nil => exact Takes.pure []
  | cons head tail inductionHypothesis =>
    have takesHead := takes head List.mem_cons_self
    have takesTail := inductionHypothesis fun a membership =>
      takes a (List.mem_cons_of_mem head membership)
    exact takesHead.bind (takesTail.last (head :: ·))

theorem spells_times {item : Reader α} {write : α → List UInt8} (exact : Exact item write)
    (count : Nat) :
    Spells (times item count) fun items bytes =>
      bytes = items.flatMap write ∧ items.length = count := by
  induction count with
  | zero => exact Spells.pure ⟨rfl, rfl⟩
  | succ count inductionHypothesis =>
    refine exact.bind fun head => inductionHypothesis.bind ?_
    rintro tail back ⟨rfl, rfl⟩
    refine Spells.pure ?_
    simp

/-! ## Variants -/

/-- What a variant holds follows its number. -/
theorem takes_variant {alternatives : List (Reader α)} {alternative : Reader α}
    {index : Nat} {payload : List UInt8} {a : α}
    (found : alternatives[index]? = some alternative) (small : index < UInt32.size)
    (takes : Takes n alternative payload a) :
    Takes (n + 1) (variant alternatives) (word 4 index ++ payload) a := by
  have number : Takes (n + 1) (Reader.number 4) (word 4 index) index := takes_number small
  refine number.after (by simp) ?_
  rw [found]
  exact takes

/-- A variant that holds nothing is its number. -/
theorem takes_variant_pure {alternatives : List (Reader α)} {index : Nat} {a : α}
    (found : alternatives[index]? = some (pure a)) (small : index < UInt32.size) :
    Takes (n + 1) (variant alternatives) (word 4 index) a := by
  have takes := takes_variant (n := n) found small (Takes.pure a)
  rwa [List.append_nil] at takes

/-- Alternatives whose numbers begin with `index` each spell their value behind
their number. -/
def AllSpell (spelling : α → List UInt8 → Prop) : Nat → List (Reader α) → Prop
  | _, [] => True
  | index, alternative :: alternatives =>
    Spells alternative (fun a payload => spelling a (word 4 index ++ payload)) ∧
      AllSpell spelling (index + 1) alternatives

theorem AllSpell.get {spelling : α → List UInt8 → Prop} {alternatives : List (Reader α)}
    {alternative : Reader α} {start index : Nat} (all : AllSpell spelling start alternatives)
    (found : alternatives[index]? = some alternative) :
    Spells alternative fun a payload => spelling a (word 4 (start + index) ++ payload) := by
  induction alternatives generalizing start index with
  | nil => cases found
  | cons head tail inductionHypothesis =>
    cases index with
    | zero =>
      cases found
      exact all.1
    | succ index =>
      have spells := inductionHypothesis all.2 found
      rwa [Nat.add_right_comm] at spells

theorem spells_variant {alternatives : List (Reader α)} {spelling : α → List UInt8 → Prop}
    (all : AllSpell spelling 0 alternatives) : Spells (variant alternatives) spelling := by
  refine (exact_number 4).bind fun index => ?_
  cases found : alternatives[index]? with
  | none => exact Spells.throw
  | some alternative =>
    have spells := all.get found
    rwa [Nat.zero_add] at spells

end IrLink.Bytes
