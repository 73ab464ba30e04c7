/-!
# Plain data

Values without any structure but lists and named fields.  Other forms of data,
text among them, are read into and written from plain data, and `Form` says how
a type of the library stands in it.  Absent fields are null.
-/

namespace IrLink

/-- Plain data. -/
inductive Data where
  | null
  | boolean (value : Bool)
  | integer (value : Int)
  /-- A floating-point number, by the bits of its 64-bit format. -/
  | real (bits : UInt64)
  | text (value : String)
  | list (items : List Data)
  | object (fields : List (String × Data))
  deriving Repr, Inhabited

namespace Data

/-- The data of a field; that of a field that is absent is null. -/
def field (data : Data) (name : String) : Data :=
  match data with
  | object fields => (fields.lookup name).getD null
  | _ => null

/-- The items of a list. -/
def items? : Data → Option (List Data)
  | list items => some items
  | _ => none

/-- A variant and what it holds: a bare name holds nothing, and an object with a
single field is the variant of the field's name. -/
def variant? : Data → Option (String × Data)
  | text name => some (name, null)
  | object [(name, held)] => some (name, held)
  | _ => none

/-- The variant of a given name. -/
def variant (name : String) (held : Data) : Data :=
  object [(name, held)]

/-- The fields of an object behind some others. -/
def extend (fields : List (String × Data)) : Data → Data
  | object more => object (fields ++ more)
  | _ => object fields

mutual

/-- How deep lists and objects are nested in data. -/
def depth : Data → Nat
  | list items => depthOfItems items + 1
  | object fields => depthOfFields fields + 1
  | _ => 0

/-- The greatest depth among the items of a list. -/
def depthOfItems : List Data → Nat
  | [] => 0
  | head :: tail => max head.depth (depthOfItems tail)

/-- The greatest depth among the fields of an object. -/
def depthOfFields : List (String × Data) → Nat
  | [] => 0
  | (_, head) :: tail => max head.depth (depthOfFields tail)

end

/-- Types whose values stand in plain data. -/
class Form (α : Type) where
  toData : α → Data
  ofData? : Data → Option α

export Form (toData ofData?)

/-- The value of a field. -/
def get? {α : Type} [Form α] (data : Data) (name : String) : Option α :=
  ofData? (data.field name)

instance : Form Bool where
  toData := boolean
  ofData?
    | boolean value => some value
    | _ => none

instance : Form String where
  toData := text
  ofData?
    | text value => some value
    | _ => none

instance {α : Type} [Form α] : Form (Option α) where
  toData
    | none => null
    | some a => toData a
  ofData?
    | null => some none
    | data => (ofData? data).map some

instance {α : Type} [Form α] : Form (List α) where
  toData as := list (as.map toData)
  ofData? data := data.items?.bind (·.mapM ofData?)

end Data

end IrLink
