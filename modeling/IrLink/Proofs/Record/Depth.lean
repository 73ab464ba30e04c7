import IrLink.Proofs.Record.Parts
import Mathlib.Data.List.Forall2

/-!
# The depth of reading

The readers of records are given a depth, so that they are defined by recursion.
Of two layers that are nested at least one takes a byte: an access and a signature
begin with a part, and all other layers with bytes of their own.  So the depth that
`Record.read` begins with is never used up, and any greater one reads the same.
-/

namespace IrLink.Bytes

open Reader

variable {α β : Type} {n : Nat}

/-! ## Readers that agree on few bytes -/

/-- A reader takes a byte at least for every value. -/
def Consumes (reader : Reader α) : Prop :=
  ∀ {input rest : List UInt8} {a : α}, reader input = .ok (a, rest) →
    rest.length < input.length

/-- Two readers find the same in fewer than `n` bytes, and leave no more than that. -/
structure Agree (n : Nat) (reader deeper : Reader α) : Prop where
  same : ∀ {input : List UInt8}, input.length < n → reader input = deeper input
  shrinks : ∀ {input rest : List UInt8} {a : α}, reader input = .ok (a, rest) →
    rest.length ≤ input.length

theorem Consumes.agree {reader : Reader α} (consumes : Consumes reader) :
    Agree n reader reader where
  same _ := rfl
  shrinks read := Nat.le_of_lt (consumes read)

theorem consumes_read [Coded α] [LawfulCoded α] : Consumes (read : Reader α) := by
  intro input rest a taken
  rcases exact taken with ⟨bytes, rfl, rfl⟩
  have some := LawfulCoded.length_write_pos a
  rw [List.length_append]
  omega

theorem consumes_number (width : Nat) : Consumes (Reader.number (width + 1)) := by
  intro input rest a taken
  rcases exact_number (width + 1) taken with ⟨bytes, rfl, rfl⟩
  rw [List.length_append, length_word]
  omega

namespace Agree

theorem fewer {reader deeper : Reader α} (agree : Agree (n + 1) reader deeper) :
    Agree n reader deeper where
  same few := agree.same (Nat.lt_succ_of_lt few)
  shrinks := agree.shrinks

theorem pure (a : α) : Agree n (Pure.pure a) (Pure.pure a) where
  same _ := rfl
  shrinks := by
    rintro input rest b ⟨⟩
    exact Nat.le_refl _

theorem throw (fault : Fault) :
    Agree (α := α) n (MonadExcept.throw fault) (MonadExcept.throw fault) where
  same _ := rfl
  shrinks := by
    rintro input rest a ⟨⟩

theorem bind_shrinks {first : Reader α} {next : α → Reader β} {input rest : List UInt8} {b : β}
    {m : Nat}
    (front : ∀ {a : α} {middle : List UInt8}, first input = .ok (a, middle) → middle.length ≤ m)
    (back : ∀ {a : α} {middle : List UInt8}, next a middle = .ok (b, rest) →
      rest.length ≤ middle.length)
    (read : (first >>= next) input = .ok (b, rest)) : rest.length ≤ m := by
  change (first input).bind (fun split => next split.1 split.2) = _ at read
  cases taken : first input with
  | error fault => rw [taken] at read; cases read
  | ok split =>
    rw [taken] at read
    exact Nat.le_trans (back read) (front taken)

theorem bind {first deeperFirst : Reader α} {next deeperNext : α → Reader β}
    (front : Agree n first deeperFirst) (back : ∀ a, Agree n (next a) (deeperNext a)) :
    Agree n (first >>= next) (deeperFirst >>= deeperNext) where
  same := by
    intro input few
    change (first input).bind (fun split => next split.1 split.2) =
      (deeperFirst input).bind fun split => deeperNext split.1 split.2
    rw [← front.same few]
    cases taken : first input with
    | error fault => rfl
    | ok split => exact (back split.1).same (Nat.lt_of_le_of_lt (front.shrinks taken) few)
  shrinks := bind_shrinks front.shrinks fun read => (back _).shrinks read

/-- Behind a part that takes a byte, one fewer is left. -/
theorem after {first : Reader α} {next deeperNext : α → Reader β} (front : Consumes first)
    (back : ∀ a, Agree n (next a) (deeperNext a)) :
    Agree (n + 1) (first >>= next) (first >>= deeperNext) where
  same := by
    intro input few
    change (first input).bind (fun split => next split.1 split.2) =
      (first input).bind fun split => deeperNext split.1 split.2
    cases taken : first input with
    | error fault => rfl
    | ok split =>
      have fewer := front taken
      exact (back split.1).same (by omega)
  shrinks := bind_shrinks (fun taken => Nat.le_of_lt (front taken)) fun read =>
    (back _).shrinks read

/-- The last part of a value completes it. -/
theorem last {reader deeper : Reader α} (part : Agree n reader deeper) (complete : α → β) :
    Agree n (reader >>= fun a => Pure.pure (complete a))
      (deeper >>= fun a => Pure.pure (complete a)) :=
  part.bind fun a => .pure (complete a)

theorem times {item deeper : Reader α} (part : Agree n item deeper) (count : Nat) :
    Agree n (Reader.times item count) (Reader.times deeper count) := by
  induction count with
  | zero => exact .pure []
  | succ count inductionHypothesis =>
    exact part.bind fun head => inductionHypothesis.last (head :: ·)

theorem variant {readers deeper : List (Reader α)}
    (alternatives : List.Forall₂ (Agree n) readers deeper) :
    Agree (n + 1) (Reader.variant readers) (Reader.variant deeper) := by
  refine after (consumes_number 3) fun index => ?_
  rw [alternatives.length_eq]
  generalize Fault.variant index deeper.length = fault
  induction alternatives generalizing index with
  | nil => exact .throw _
  | cons head tail inductionHypothesis =>
    cases index with
    | zero => exact head
    | succ index => exact inductionHypothesis index

theorem part [Coded α] [LawfulCoded α] : Agree n (read : Reader α) read :=
  consumes_read.agree

end Agree

end IrLink.Bytes

/-! ## Layers -/

namespace IrLink

open Bytes Reader

/-- Whether records of a category have no bytes of their own in front of their parts. -/
def Category.beginsWithPart : Category → Bool
  | .access | .signature => true
  | _ => false

namespace Record

/-- All readers of the one family agree with those of the other on few bytes. -/
def PartsAgree (n : Nat) (readers deeper : Readers) : Prop :=
  ∀ c : Category, Agree n (readers c) (deeper c)

section Layers

variable {n : Nat} {readers deeper : Readers}

theorem agree_statement (parts : PartsAgree n readers deeper) :
    Agree (n + 1) (readStatement readers) (readStatement deeper) :=
  .after consumes_read fun _ => .fewer <| .variant <| .cons (.pure _) <|
    .cons ((parts _).last _) <| .cons ((parts _).bind fun _ => (parts _).last _) <|
    .cons ((parts _).bind fun _ => (parts _).last _) <| .cons ((parts _).last _) <|
    .cons ((parts _).last _) <| .cons (Agree.part.last _) .nil

theorem agree_function (parts : PartsAgree n readers deeper) :
    Agree (n + 1) (readFunction readers) (readFunction deeper) :=
  .after consumes_read fun _ => Agree.part.bind fun _ => (parts _).bind fun _ =>
    Agree.part.bind fun _ => Agree.part.bind fun _ => Agree.part.bind fun _ =>
    Agree.part.last _

theorem agree_field (parts : PartsAgree n readers deeper) :
    Agree (n + 1) (readField readers) (readField deeper) :=
  .after consumes_read fun _ => Agree.part.bind fun _ => (parts _).bind fun _ =>
    Agree.part.bind fun _ => Agree.part.bind fun _ => (parts _).last _

theorem agree_option (parts : PartsAgree n readers deeper) (c : Category) :
    Agree (n + 1) (readLayer readers (.option c)) (readLayer deeper (.option c)) := by
  refine .after (consumes_number 0) fun found => ?_
  split
  · exact .pure _
  · exact (parts c).last _
  · exact .throw _

/-- Layers that begin with bytes of their own agree if the readers of their parts agree
on one byte fewer. -/
theorem agree_layer (parts : PartsAgree n readers deeper) {c : Category}
    (begins : c.beginsWithPart = false) :
    Agree (n + 1) (readLayer readers c) (readLayer deeper c) := by
  cases c
  case access | signature => cases begins
  case list c =>
    exact .after (consumes_number 7) fun _ => (Agree.times (parts c) _).last _
  case option c => exact agree_option parts c
  case statement => exact agree_statement parts
  case branch | catchClause | body => exact (agree_statement parts).last _
  case function => exact agree_function parts
  case accessor => exact (agree_function parts).last _
  case field => exact agree_field parts
  case backingField => exact (agree_field parts).last _
  case' type | typeArgument | operation | varargElement | declarator =>
    refine .variant ?_
  case' call | fieldAccess | expression | declaration | valueParameter | typeParameter =>
    refine .after consumes_read fun _ => ?_
  all_goals
    repeat
      first
      | exact .pure _
      | with_reducible apply Agree.last
        first | exact Agree.part | exact parts _
      | refine Agree.part.bind fun _ => ?_
      | refine (parts _).bind fun _ => ?_
      | refine .cons ?_ ?_
      | exact .nil

/-- The other layers begin with a part that begins with bytes of its own. -/
theorem agree_leading
    (parts : ∀ c : Category, c.beginsWithPart = false → Agree n (readers c) (deeper c))
    {c : Category} (leads : c.beginsWithPart = true) :
    Agree n (readLayer readers c) (readLayer deeper c) := by
  cases c
  case access =>
    exact (parts _ rfl).bind fun _ => (parts _ rfl).bind fun _ => (parts _ rfl).bind fun _ =>
      (parts _ rfl).last _
  case signature =>
    exact (parts _ rfl).bind fun _ => (parts _ rfl).bind fun _ => (parts _ rfl).bind fun _ =>
      (parts _ rfl).bind fun _ => (parts _ rfl).bind fun _ => (parts _ rfl).last _
  all_goals cases leads

end Layers

/-- No record leaves more bytes than there were. -/
theorem agree_none (depth : Nat) (deeper : Readers) :
    PartsAgree 0 (readNested depth) deeper := by
  induction depth generalizing deeper with
  | zero =>
    refine fun c => ⟨fun few => absurd few (Nat.not_lt_zero _), ?_⟩
    rintro input rest r ⟨⟩
  | succ depth inductionHypothesis =>
    intro c
    have parts := inductionHypothesis (readNested depth)
    have layer : Agree 0 (readNested (depth + 1) c) (readNested (depth + 1) c) := by
      cases begins : c.beginsWithPart with
      | false => exact (agree_layer parts begins).fewer
      | true => exact agree_leading (fun c _ => parts c) begins
    exact ⟨fun few => absurd few (Nat.not_lt_zero _), layer.shrinks⟩

/-- In fewer than `n` bytes, records are nested less than `2 * n` layers deep. -/
theorem agree_nested (n : Nat) {depth deeper : Nat} (le : 2 * n ≤ depth)
    (deeperLe : 2 * n ≤ deeper) : PartsAgree n (readNested depth) (readNested deeper) := by
  induction n generalizing depth deeper with
  | zero => exact agree_none depth _
  | succ n inductionHypothesis =>
    have beginning {depth deeper : Nat} (le : 2 * n + 1 ≤ depth) (deeperLe : 2 * n + 1 ≤ deeper)
        (c : Category) (begins : c.beginsWithPart = false) :
        Agree (n + 1) (readNested depth c) (readNested deeper c) := by
      obtain ⟨depth, rfl⟩ := Nat.exists_eq_succ_of_ne_zero (show depth ≠ 0 by omega)
      obtain ⟨deeper, rfl⟩ := Nat.exists_eq_succ_of_ne_zero (show deeper ≠ 0 by omega)
      exact agree_layer (inductionHypothesis (by omega) (by omega)) begins
    intro c
    cases begins : c.beginsWithPart with
    | false => exact beginning (by omega) (by omega) c begins
    | true =>
      obtain ⟨depth, rfl⟩ := Nat.exists_eq_succ_of_ne_zero (show depth ≠ 0 by omega)
      obtain ⟨deeper, rfl⟩ := Nat.exists_eq_succ_of_ne_zero (show deeper ≠ 0 by omega)
      exact agree_leading (beginning (by omega) (by omega)) begins

/-- The depth of reading is never used up: a greater one finds the same. -/
theorem readNested_eq_read (c : Category) {bytes : List UInt8} {depth : Nat}
    (enough : 2 * bytes.length + 2 ≤ depth) : readNested depth c bytes = Record.read c bytes :=
  (agree_nested (bytes.length + 1) (by omega) (by omega) c).same (Nat.lt_succ_self _)

end Record

end IrLink
