/-!
# Values of TOML

What a document of the format TOML holds.  A table remembers how it was
opened, since that decides what may still be added to it.
-/

namespace IrLink.Toml

/-- A day of the calendar. -/
structure Date where
  year : Nat
  month : Nat
  day : Nat
  deriving DecidableEq, Repr

/-- A time of the day.  The second 60 is a leap second. -/
structure Time where
  hour : Nat
  minute : Nat
  second : Nat
  /-- The decimal digits of a fraction of the second. -/
  fraction : String
  deriving DecidableEq, Repr

/-- A point of time, or the date or the time of one alone. -/
inductive Moment where
  | date (date : Date)
  | time (time : Time)
  | dateTime (date : Date) (time : Time)
  /-- A point of time with the distance to universal time in minutes. -/
  | offsetDateTime (date : Date) (time : Time) (offset : Int)
  deriving DecidableEq, Repr

/-- A number with a fraction or an exponent, or none at all. -/
inductive Real where
  /-- The number `digits * 10 ^ scale`, or its negative. -/
  | decimal (negative : Bool) (digits : Nat) (scale : Int)
  | infinity (negative : Bool)
  | notANumber (negative : Bool)
  deriving DecidableEq, Repr

/-- How a table was opened. -/
inductive Opening where
  /-- Between braces.  Such a table is complete. -/
  | inline
  /-- By a header of its own, or as the table of all. -/
  | header
  /-- By the header of a table inside it. -/
  | implied
  /-- By a dotted key. -/
  | dotted
  deriving DecidableEq, Repr

/-- A value. -/
inductive Value where
  | text (value : String)
  | integer (value : Int)
  | real (value : Real)
  | boolean (value : Bool)
  | moment (value : Moment)
  | array (items : List Value)
  | table (opening : Opening) (entries : List (String × Value))
  /-- An array of tables that headers opened, the latest first. -/
  | tables (items : List (List (String × Value)))
  deriving Repr

end IrLink.Toml
