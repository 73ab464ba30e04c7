import IrLink.Toml.Value

/-!
# Tables of TOML

How tables grow from assignments and headers.  Nothing that was said can be
said again: a key has one value, a table one header, and what a dotted key or a
pair of braces has opened is not opened by a header.  `Table.within` finds the
table behind a path and opens what is missing there.

Keys stand in the order in which they arrive.  A key that gets another value
keeps its place, but a table that a header opens arrives with that header, also
where a header in front of it implied the table.
-/

namespace IrLink.Toml

/-- Entries with a value for a key: in the place of a value that the key has, or
else behind all others. -/
def place (key : String) (value : Value) : List (String × Value) → List (String × Value)
  | [] => [(key, value)]
  | entry :: rest =>
    if entry.1 == key then (key, value) :: rest else entry :: place key value rest

/-- A table under construction. -/
structure Table where
  opening : Opening
  entries : List (String × Value)
  deriving Repr

namespace Table

/-- A table without entries. -/
def empty (opening : Opening) : Table :=
  ⟨opening, []⟩

/-- The value of a key. -/
def get? (table : Table) (key : String) : Option Value :=
  table.entries.lookup key

/-- The table with a value for a key, in place of any that it had. -/
def set (table : Table) (key : String) (value : Value) : Table :=
  { table with entries := place key value table.entries }

/-- The table without a key. -/
def erase (table : Table) (key : String) : Table :=
  { table with entries := table.entries.filter fun entry => entry.1 != key }

/-- A table as a value. -/
def toValue (table : Table) : Value :=
  .table table.opening table.entries

/-- Whether a dotted key may lead into a table. -/
def admitsDots (table : Table) : Bool :=
  table.opening == .implied || table.opening == .dotted

/-- Change the table behind a path.  Tables that are missing are opened as
`step` says.  An array of tables leads into its latest table. -/
def within (step : Opening) (change : Table → Option Table) :
    (path : List String) → Table → Option Table
  | [], table => change table
  | key :: path, table => do
    match table.get? key with
    | none => return table.set key (← within step change path (empty step)).toValue
    | some (.table .inline _) => none
    | some (.table opening entries) =>
      let inner : Table := ⟨opening, entries⟩
      if step == .dotted && !inner.admitsDots then none
      else return table.set key (← within step change path inner).toValue
    | some (.tables (latest :: earlier)) =>
      let inner ← within step change path ⟨.header, latest⟩
      return table.set key (.tables (inner.entries :: earlier))
    | some _ => none

/-- Give a key behind a dotted path its value.  The path ends in a table that
dotted keys opened. -/
def assign (path : List String) (key : String) (value : Value) (table : Table) :
    Option Table :=
  table.within .dotted
    (fun inner =>
      if (inner.opening == .dotted) == path.isEmpty || (inner.get? key).isSome then none
      else some (inner.set key value))
    path

/-- Open the table of a header. -/
def openTable (path : List String) (key : String) (table : Table) : Option Table :=
  table.within .implied
    (fun parent =>
      match parent.get? key with
      | none => some (parent.set key (.table .header []))
      | some (.table .implied entries) =>
        some ((parent.erase key).set key (.table .header entries))
      | some _ => none)
    path

/-- Open one more table of the array of a header. -/
def appendTable (path : List String) (key : String) (table : Table) : Option Table :=
  table.within .implied
    (fun parent =>
      match parent.get? key with
      | none => some (parent.set key (.tables [[]]))
      | some (.tables items) => some (parent.set key (.tables ([] :: items)))
      | some _ => none)
    path

/-- A value that was placed is found. -/
@[simp]
theorem lookup_place_self (key : String) (value : Value) (entries : List (String × Value)) :
    (place key value entries).lookup key = some value := by
  induction entries with
  | nil => simp [place]
  | cons entry rest ih =>
    obtain ⟨name, former⟩ := entry
    by_cases same : name = key
    · simp [place, same]
    · have differs : (key == name) = false := by simpa using Ne.symm same
      simp [place, same, List.lookup_cons, differs, ih]

/-- To place a value leaves those of other keys. -/
theorem lookup_place_of_ne {key other : String} (different : other ≠ key) (value : Value)
    (entries : List (String × Value)) :
    (place key value entries).lookup other = entries.lookup other := by
  have differs : (other == key) = false := by simpa using different
  induction entries with
  | nil => simp [place, List.lookup_cons, differs]
  | cons entry rest ih =>
    obtain ⟨name, former⟩ := entry
    by_cases same : name = key
    · simp [place, same, List.lookup_cons, differs]
    · simp [place, same, List.lookup_cons, ih]

/-- A key without a value is placed behind all others. -/
theorem place_of_lookup_eq_none {key : String} (value : Value)
    {entries : List (String × Value)} (missing : entries.lookup key = none) :
    place key value entries = entries ++ [(key, value)] := by
  induction entries with
  | nil => rfl
  | cons entry rest ih =>
    obtain ⟨name, former⟩ := entry
    by_cases same : name = key
    · simp [same] at missing
    · have differs : (key == name) = false := by simpa using Ne.symm same
      simp only [List.lookup_cons, differs] at missing
      simp [place, same, ih missing]

/-- A value that was set is found. -/
@[simp]
theorem get?_set_self (table : Table) (key : String) (value : Value) :
    (table.set key value).get? key = some value := by
  simp [get?, set]

/-- To set a value leaves those of other keys. -/
theorem get?_set_of_ne (table : Table) {key other : String} (different : other ≠ key)
    (value : Value) : (table.set key value).get? other = table.get? other := by
  simp [get?, set, lookup_place_of_ne different]

end Table

end IrLink.Toml
