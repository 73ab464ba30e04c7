import IrLink.Proofs.Bytes.Shortage
import IrLink.Proofs.Record.Codec

/-!
# Records that are cut off

What is read from bytes is read from them whatever follows, and so is what is
wrong with them.  Of the bytes of a record that are cut off anywhere, be it in a
count, a tag, a text or between the items of a list, it is only said that they end
too early.
-/

namespace IrLink

open Bytes Reader

/-! ## Small parts -/

instance : SteadyCoded Range where
  continues := continues.bind fun _ => continues.last _

instance : SteadyCoded UniqueId where
  continues := continues.bind fun _ => continues.last _

instance : SteadyCoded DescriptorReference where
  continues := continues.bind fun _ => continues.bind fun _ => continues.bind fun _ =>
    continues.bind fun _ => continues.bind fun _ => continues.bind fun _ =>
    continues.bind fun _ => continues.bind fun _ => continues.bind fun _ => continues.last _

instance : SteadyCoded SymbolRecord where
  continues := continues.bind fun _ => continues.bind fun _ => continues.last _

instance : SteadyCoded FunctionHeader where
  continues := continues.bind fun _ => continues.bind fun _ => continues.bind fun _ =>
    continues.last _

instance : SteadyCoded ClassFlags where
  continues := continues.bind fun _ => continues.bind fun _ => continues.bind fun _ =>
    continues.bind fun _ => continues.last _

instance : SteadyCoded FieldFlags where
  continues := continues.bind fun _ => continues.bind fun _ => continues.last _

instance : SteadyCoded PropertyFlags where
  continues := continues.bind fun _ => continues.bind fun _ => continues.bind fun _ =>
    continues.bind fun _ => continues.last _

instance : SteadyCoded VariableFlags where
  continues := continues.bind fun _ => continues.bind fun _ => continues.last _

instance : SteadyCoded RecordedConstant where
  continues := continues_variant <| .cons (.pure _) <| .cons (.pure _) <|
    .cons (continues.last _) <| .cons (continues.last _) <| .cons (continues.last _) <|
    .cons (continues.last _) <| .cons (continues.last _) <| .cons (continues.last _) <|
    .cons (continues.last _) <| .cons (continues.last _) <| .cons (continues.last _) .nil

instance : SteadyCoded FileRecord where
  continues := continues.bind fun _ => continues.bind fun _ => continues.last _

instance : SteadyCoded ModuleRecord where
  continues := continues.bind fun _ => continues.last _

/-! ## Layers -/

namespace Record

/-- What one family of readers makes of bytes, the other makes of them where more
follow. -/
def PartsContinue (short long : Readers) : Prop :=
  ∀ c : Category, Continues (short c) (long c)

section Layers

variable {short long : Readers}

theorem continues_statement (parts : PartsContinue short long) :
    Continues (readStatement short) (readStatement long) :=
  continues.bind fun _ => continues_variant <| .cons (.pure _) <|
    .cons ((parts _).last _) <| .cons ((parts _).bind fun _ => (parts _).last _) <|
    .cons ((parts _).bind fun _ => (parts _).last _) <| .cons ((parts _).last _) <|
    .cons ((parts _).last _) <| .cons (continues.last _) .nil

theorem continues_function (parts : PartsContinue short long) :
    Continues (readFunction short) (readFunction long) :=
  continues.bind fun _ => continues.bind fun _ => (parts _).bind fun _ =>
    continues.bind fun _ => continues.bind fun _ => continues.bind fun _ => continues.last _

theorem continues_field (parts : PartsContinue short long) :
    Continues (readField short) (readField long) :=
  continues.bind fun _ => continues.bind fun _ => (parts _).bind fun _ =>
    continues.bind fun _ => continues.bind fun _ => (parts _).last _

theorem continues_option (parts : PartsContinue short long) (c : Category) :
    Continues (readLayer short (.option c)) (readLayer long (.option c)) := by
  refine (continues_number 1).bind fun found => ?_
  split
  · exact .pure _
  · exact (parts c).last _
  · exact .throw _

/-- A layer looks at no byte behind a record if no reader of its parts does. -/
theorem continues_layer (parts : PartsContinue short long) :
    PartsContinue (readLayer short) (readLayer long) := by
  intro c
  cases c
  case list c => exact (continues_number 8).bind fun _ => (continues_times (parts c) _).last _
  case option c => exact continues_option parts c
  case statement => exact continues_statement parts
  case branch | catchClause | body => exact (continues_statement parts).last _
  case function => exact continues_function parts
  case accessor => exact (continues_function parts).last _
  case field => exact continues_field parts
  case backingField => exact (continues_field parts).last _
  -- The parts follow one another, behind the number of a variant or without one.
  all_goals
    repeat
      first
      | exact .pure _
      | with_reducible apply Continues.last
        first | exact continues | exact parts _
      | refine continues.bind fun _ => ?_
      | refine (parts _).bind fun _ => ?_
      | refine continues_variant ?_
      | refine .cons ?_ ?_
      | exact .nil

end Layers

/-- A greater depth makes more bytes readable and changes nothing else. -/
theorem continues_nested {depth deeper : Nat} (le : depth ≤ deeper) :
    PartsContinue (readNested depth) (readNested deeper) := by
  induction depth generalizing deeper with
  | zero => exact fun c => .shortage rfl _
  | succ depth inductionHypothesis =>
    cases deeper with
    | zero => cases le
    | succ deeper => exact continues_layer (inductionHypothesis (Nat.le_of_succ_le_succ le))

/-- A record is read without a look at what follows its bytes. -/
theorem continues_read (c : Category) : Continues (Record.read c) (Record.read c) := by
  have deeper (input more : List UInt8) :
      2 * input.length + 2 ≤ 2 * (input ++ more).length + 2 := by
    rw [List.length_append]
    omega
  constructor
  · intro input rest r read more
    exact (continues_nested (deeper input more) c).ok read more
  · intro input fault read enough more
    exact (continues_nested (deeper input more) c).error read enough more

end Record

/-! ## Cutting off -/

/-- What is read from bytes as a declaration, or found wrong with them, is read or found
whatever follows, unless it is only found that they are too few; and this is all that is
found of the first bytes of a declaration.  The same holds of the headers of modules.

The length of a list or text is written as a word of eight bytes, which bounds what is
written. -/
theorem bytes_steady :
    (∀ bytes more : List UInt8, ¬ TooFew (Record.ofBytes .declaration bytes) →
      Record.ofBytes .declaration (bytes ++ more) = Record.ofBytes .declaration bytes) ∧
    (∀ (r : Record .declaration) (count : Nat), r.write.length < UInt64.size →
      count < r.write.length → TooFew (Record.ofBytes .declaration (r.write.take count))) ∧
    (∀ bytes more : List UInt8, ¬ TooFew (ModuleRecord.ofBytes bytes) →
      ModuleRecord.ofBytes (bytes ++ more) = ModuleRecord.ofBytes bytes) ∧
    (∀ (module : ModuleRecord) (count : Nat), (write module).length < UInt64.size →
      count < (write module).length → TooFew (ModuleRecord.ofBytes ((write module).take count))) ∧
    (∀ fault : Fault, fault.isShortage = true ↔
      fault.message = "io error: unexpected end of file" ∨ fault.message = "io error: ") := by
  refine ⟨?_, ?_, ?_, ?_, Fault.isShortage_iff⟩
  · intro bytes more enough
    exact (Record.continues_read .declaration).run' enough more
  · intro r count fits cut
    have whole := r.ofBytes_write_append rfl fits []
    rw [List.append_nil] at whole
    exact tooFew_take (Record.continues_read .declaration) (Record.exact_read rfl) whole cut
  · intro bytes more enough
    exact (continues (α := ModuleRecord)).run' enough more
  · intro module count fits cut
    have whole := module.ofBytes_write_append fits []
    rw [List.append_nil] at whole
    exact tooFew_take continues exact whole cut

/-- Bytes of a declaration up to the number of its declarator, which no declarator has. -/
def Record.garbled : List UInt8 :=
  join [write (Range.mk 0 12), write "DEFINED", word 8 0, write "a.kt", word 4 10]

theorem bytes_steady_greeting :
    Record.ofBytes .declaration (Record.garbled ++ [255]) =
        Record.ofBytes .declaration Record.garbled ∧
      TooFew (Record.ofBytes .declaration (Record.greeting.write.take 40)) ∧
      ModuleRecord.ofBytes (write ModuleRecord.single ++ [255]) =
        ModuleRecord.ofBytes (write ModuleRecord.single) ∧
      TooFew (ModuleRecord.ofBytes ((write ModuleRecord.single).take 20)) :=
  ⟨bytes_steady.1 Record.garbled [255] (by decide +kernel),
    bytes_steady.2.1 Record.greeting 40 (by decide +kernel) (by decide +kernel),
    bytes_steady.2.2.1 (write ModuleRecord.single) [255] (by decide +kernel),
    bytes_steady.2.2.2.1 ModuleRecord.single 20 (by decide +kernel) (by decide +kernel)⟩

end IrLink
