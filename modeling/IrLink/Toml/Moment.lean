import IrLink.Bytes.Hex
import IrLink.Text.Reading
import IrLink.Toml.Value

/-!
# Dates and times of TOML

A date, a time, or both with a letter `T` or a space between them, and then
perhaps the distance to universal time.

A moment can also be written as a table: a table of which the first key is
`momentKey` stands for the moment that the text of this key states, and the
entries behind it say nothing.  `Value.plain?` puts the moments in the place of
such tables, and one array in the place of the tables that headers opened as
items of it.
-/

namespace IrLink.Toml

open Text Reading

/-- The number of days in a month. -/
def daysIn (year month : Nat) : Nat :=
  if month == 2 then
    if year % 4 == 0 && (year % 100 != 0 || year % 400 == 0) then 29 else 28
  else if month == 4 || month == 6 || month == 9 || month == 11 then 30
  else 31

/-- Take a number of a fixed count of digits between two bounds. -/
def numberWithin (width low high : Nat) : Reading Nat := do
  let digits ← times (one Char.isDigit) width
  let n := digitsValue 10 digits
  guarded (if low ≤ n && n ≤ high then some n else none)

/-- Take a date. -/
def date : Reading Date := do
  let year ← numberWithin 4 0 9999
  char '-'
  let month ← numberWithin 2 1 12
  char '-'
  return ⟨year, month, ← numberWithin 2 1 (daysIn year month)⟩

/-- Take an hour and a minute. -/
def hourAndMinute : Reading (Nat × Nat) := do
  let hour ← numberWithin 2 0 23
  char ':'
  return (hour, ← numberWithin 2 0 59)

/-- Take the digits of a fraction of a second. -/
def secondFraction : Reading (List Char) := do
  char '.'
  let head ← one Char.isDigit
  return head :: (← span Char.isDigit)

/-- Take a time of the day. -/
def time : Reading Time := do
  let (hour, minute) ← hourAndMinute
  char ':'
  let second ← numberWithin 2 0 60
  return ⟨hour, minute, second, String.ofList ((← optional secondFraction).getD [])⟩

/-- Take the distance to universal time in minutes. -/
def offset : Reading Int :=
  (discard (one fun c => c == 'Z' || c == 'z') *> return 0) <|> do
    let sign ← one fun c => c == '+' || c == '-'
    let (hours, minutes) ← hourAndMinute
    let distance : Int := hours * 60 + minutes
    return if sign == '-' then -distance else distance

/-- Take a time behind a date. -/
def timeOfDate : Reading (Time × Option Int) := do
  discard (one fun c => c == 'T' || c == 't' || c == ' ')
  return (← time, ← optional offset)

/-- Take a date, a time or both. -/
def moment : Reading Moment :=
  (do
    let date ← date
    match ← optional timeOfDate with
    | none => return .date date
    | some (time, none) => return .dateTime date time
    | some (time, some offset) => return .offsetDateTime date time offset) <|>
  (return .time (← time))

/-- The moment that a text states. -/
def Moment.ofText? (text : String) : Option Moment :=
  moment.whole? text

/-! ## Moments written as tables -/

/-- The key that makes a table a moment, if it is the first. -/
def momentKey : String := "$__toml_private_datetime"

/-- The moment that a value states. -/
def Value.statedMoment? : Value → Option Moment
  | .text said => Moment.ofText? said
  | _ => none

mutual

/-- The value with moments in the place of the tables that stand for them, if
each of these states one. -/
def Value.plain? : Value → Option Value
  | .array items => return .array (← plainItems? items)
  | .table opening entries => plainTable? opening entries
  | .tables items => return .array (← plainTables? items).reverse
  | value => some value

/-- The plain values of items. -/
def plainItems? : List Value → Option (List Value)
  | [] => some []
  | item :: rest => return (← item.plain?) :: (← plainItems? rest)

/-- The plain values of tables. -/
def plainTables? : List (List (String × Value)) → Option (List Value)
  | [] => some []
  | entries :: rest => return (← plainTable? .header entries) :: (← plainTables? rest)

/-- The plain value of a table: a moment, or a table of plain values. -/
def plainTable? (opening : Opening) : List (String × Value) → Option Value
  | [] => some (.table opening [])
  | (key, value) :: rest =>
    if key == momentKey then return .moment (← value.statedMoment?)
    else return .table opening ((key, ← value.plain?) :: (← plainEntries? rest))

/-- The entries with plain values. -/
def plainEntries? : List (String × Value) → Option (List (String × Value))
  | [] => some []
  | (key, value) :: rest => return (key, ← value.plain?) :: (← plainEntries? rest)

end

end IrLink.Toml
