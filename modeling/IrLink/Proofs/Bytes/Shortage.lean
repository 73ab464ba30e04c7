import IrLink.Bytes.Coded
import IrLink.Proofs.Bytes.Reader
import Mathlib.Data.List.Forall2

/-!
# Readers that run out of bytes

A reader looks at no byte behind those that it takes.  So what it makes of bytes
is what it makes of them when more follow, and a fault that it finds in them is
found again, except where it only finds that they are too few.

The readers of records have a depth, which is greater where there are more bytes.
So `Continues` compares two readers: one for the bytes, one for what they grow to.
-/

namespace IrLink.Bytes

open Reader

variable {α β : Type}

/-! ## Shortages -/

/-- What begins with a text of two characters or more begins as that text does. -/
theorem take_toList_append (front : String) (long : 2 ≤ front.toList.length) (rest : String) :
    (front ++ rest).toList.take 2 = front.toList.take 2 := by
  rw [String.toList_append, List.take_append_of_le_length long]

/-- What is said of other faults does not begin as what is said of a shortage. -/
theorem Fault.take_message_ne {fault : Fault} (other : fault.isShortage = false) :
    fault.message.toList.take 2 ≠ ['i', 'o'] := by
  cases fault with
  | endOfInput | endOfText => cases other
  | text fault | boolean found | optionTag found =>
    unfold message
    rw [take_toList_append _ (by decide)]
    decide
  | variant found count =>
    unfold message
    simp only [String.append_assoc]
    rw [take_toList_append _ (by decide)]
    decide

/-- The two faults of bytes that end too early are known by what is said of them. -/
theorem Fault.isShortage_iff (fault : Fault) :
    fault.isShortage = true ↔
      fault.message = "io error: unexpected end of file" ∨ fault.message = "io error: " := by
  constructor
  · intro shortage
    cases fault with
    | endOfInput => exact .inl rfl
    | endOfText => exact .inr rfl
    | _ => cases shortage
  · intro said
    cases kind : fault.isShortage with
    | true => rfl
    | false =>
      have other := take_message_ne kind
      rcases said with said | said
      all_goals
        rw [said] at other
        exact absurd (by decide) other

/-! ## Bytes that more bytes follow -/

/-- What `short` makes of bytes, `long` makes of them where more follow, unless
`short` finds too few. -/
structure Continues (short long : Reader α) : Prop where
  ok : ∀ {input rest : List UInt8} {a : α}, short input = .ok (a, rest) →
    ∀ more, long (input ++ more) = .ok (a, rest ++ more)
  error : ∀ {input : List UInt8} {fault : Fault}, short input = .error fault →
    fault.isShortage = false → ∀ more, long (input ++ more) = .error fault

namespace Continues

theorem pure (a : α) : Continues (Pure.pure a) (Pure.pure a) where
  ok := by
    rintro input rest b ⟨⟩ more
    rfl
  error := by
    rintro input fault ⟨⟩

theorem throw (fault : Fault) : Continues (α := α) (MonadExcept.throw fault)
    (MonadExcept.throw fault) where
  ok := by
    rintro input rest a ⟨⟩
  error := by
    rintro input found ⟨⟩ _ more
    rfl

/-- A reader that finds too few bytes in any says nothing of what others find. -/
theorem shortage {fault : Fault} (short : fault.isShortage = true) (long : Reader α) :
    Continues (MonadExcept.throw fault) long where
  ok := by
    rintro input rest a ⟨⟩
  error := by
    rintro input found ⟨⟩ enough
    rw [short] at enough
    cases enough

theorem bind {first longFirst : Reader α} {next longNext : α → Reader β}
    (front : Continues first longFirst) (back : ∀ a, Continues (next a) (longNext a)) :
    Continues (first >>= next) (longFirst >>= longNext) where
  ok := by
    intro input rest b read more
    change (first input).bind (fun split => next split.1 split.2) = _ at read
    change (longFirst (input ++ more)).bind (fun split => longNext split.1 split.2) = _
    cases taken : first input with
    | error fault => rw [taken] at read; cases read
    | ok split =>
      rw [taken] at read
      rw [front.ok taken more]
      exact (back split.1).ok read more
  error := by
    intro input fault read enough more
    change (first input).bind (fun split => next split.1 split.2) = _ at read
    change (longFirst (input ++ more)).bind (fun split => longNext split.1 split.2) = _
    cases taken : first input with
    | error found =>
      rw [taken] at read
      cases read
      rw [front.error taken enough more]
      rfl
    | ok split =>
      rw [taken] at read
      rw [front.ok taken more]
      exact (back split.1).error read enough more

/-- The last part of a value completes it. -/
theorem last {short long : Reader α} (part : Continues short long) (complete : α → β) :
    Continues (short >>= fun a => Pure.pure (complete a))
      (long >>= fun a => Pure.pure (complete a)) :=
  part.bind fun a => .pure (complete a)

end Continues

/-! ## Cutting off -/

/-- Of bytes it is found no more than that they are too few. -/
def TooFew (found : Except Fault α) : Prop :=
  ∃ fault, found = .error fault ∧ fault.isShortage = true

instance (found : Except Fault α) : Decidable (TooFew found) :=
  match found with
  | .ok a => isFalse (by rintro ⟨fault, ⟨⟩, short⟩)
  | .error fault =>
    decidable_of_iff (fault.isShortage = true) ⟨fun short => ⟨fault, rfl, short⟩, by
      rintro ⟨other, ⟨⟩, short⟩
      exact short⟩

/-- Unless bytes are too few, what follows them changes nothing. -/
theorem Continues.run' {reader : Reader α} (steady : Continues reader reader)
    {input : List UInt8} (enough : ¬ TooFew (StateT.run' reader input)) (more : List UInt8) :
    StateT.run' reader (input ++ more) = StateT.run' reader input := by
  change ¬ TooFew (Prod.fst <$> reader input) at enough
  change Prod.fst <$> reader (input ++ more) = Prod.fst <$> reader input
  cases read : reader input with
  | ok split =>
    rw [steady.ok read more]
    rfl
  | error fault =>
    have other : fault.isShortage = false := by
      refine Bool.eq_false_iff.mpr fun short => enough ⟨fault, ?_, short⟩
      rw [read]
      rfl
    rw [steady.error read other more]

/-- Where the bytes of a value are cut off, there are too few. -/
theorem tooFew_take {reader : Reader α} (steady : Continues reader reader)
    {write : α → List UInt8} (exact : Exact reader write) {a : α}
    (whole : StateT.run' reader (write a) = .ok a) {count : Nat}
    (cut : count < (write a).length) :
    TooFew (StateT.run' reader ((write a).take count)) := by
  by_contra enough
  -- What is read of the first bytes is what is read of all of them, so it is the value.
  have same := steady.run' enough ((write a).drop count)
  rw [List.take_append_drop, whole] at same
  rcases Spells.run' exact same.symm with ⟨rest, spelled⟩
  have lengths := congrArg List.length spelled
  rw [List.length_take, List.length_append] at lengths
  omega

/-! ## Bytes and numbers -/

theorem splitAt?_append_of_some {count : Nat} {input front rest : List UInt8}
    (split : splitAt? count input = some (front, rest)) (more : List UInt8) :
    splitAt? count (input ++ more) = some (front, rest ++ more) := by
  induction count generalizing input front with
  | zero =>
    cases split
    rfl
  | succ count inductionHypothesis =>
    cases input with
    | nil => cases split
    | cons byte input =>
      rcases Option.map_eq_some_iff.mp split with ⟨⟨taken, behind⟩, inner, same⟩
      cases same
      simp only [List.cons_append, splitAt?, inductionHypothesis inner, Option.map_some]

theorem continues_take {fault : Fault} (short : fault.isShortage = true) (count : Nat) :
    Continues (take fault count) (take fault count) where
  ok := by
    intro input rest taken read more
    unfold take at read ⊢
    split at read
    · next found split =>
      cases read
      rw [splitAt?_append_of_some split more]
    · cases read
  error := by
    intro input found read enough
    unfold take at read
    split at read
    · cases read
    · cases read
      rw [short] at enough
      cases enough

theorem continues_number (width : Nat) :
    Continues (Reader.number width) (Reader.number width) :=
  (continues_take rfl width).last value

theorem continues_text (bytes : List UInt8) :
    Continues (Reader.text bytes) (Reader.text bytes) := by
  unfold Reader.text
  split
  · exact .pure _
  · exact .throw _

/-! ## Lists and variants -/

theorem continues_times {short long : Reader α} (item : Continues short long) (count : Nat) :
    Continues (times short count) (times long count) := by
  induction count with
  | zero => exact .pure []
  | succ count inductionHypothesis =>
    exact item.bind fun head => inductionHypothesis.last (head :: ·)

/-- Alternatives are compared in order. -/
theorem continues_variant {short long : List (Reader α)}
    (alternatives : List.Forall₂ Continues short long) :
    Continues (variant short) (variant long) := by
  refine (continues_number 4).bind fun index => ?_
  rw [alternatives.length_eq]
  generalize Fault.variant index long.length = fault
  induction alternatives generalizing index with
  | nil => exact .throw _
  | cons head tail inductionHypothesis =>
    cases index with
    | zero => exact head
    | succ index => exact inductionHypothesis index

/-! ## Byte forms -/

/-- Types whose values, and whose faults, are found in bytes whatever follows. -/
class SteadyCoded (α : Type) [Coded α] : Prop where
  continues : Continues (read : Reader α) read

export SteadyCoded (continues)

section Instances

instance : SteadyCoded Bool where
  continues := (continues_number 1).bind fun found => by
    split
    · exact .pure _
    · exact .pure _
    · exact .throw _

instance : SteadyCoded UInt32 where
  continues := (continues_number 4).last UInt32.ofNat

instance : SteadyCoded UInt64 where
  continues := (continues_number 8).last UInt64.ofNat

instance : SteadyCoded Int32 where
  continues := continues.last UInt32.toInt32

instance : SteadyCoded Int64 where
  continues := continues.last UInt64.toInt64

instance : SteadyCoded String where
  continues := (continues_number 8).bind fun count =>
    (continues_take rfl count).bind continues_text

instance [Coded α] [SteadyCoded α] : SteadyCoded (Option α) where
  continues := (continues_number 1).bind fun found => by
    split
    · exact .pure _
    · exact continues.last some
    · exact .throw _

instance [Coded α] [SteadyCoded α] : SteadyCoded (List α) where
  continues := (continues_number 8).bind (continues_times continues)

instance [Enumerated α] : SteadyCoded α where
  continues := continues_variant <|
    List.forall₂_map_left_iff.mpr <| List.forall₂_map_right_iff.mpr <|
      List.forall₂_same.mpr fun a _ => .pure a

end Instances

end IrLink.Bytes
