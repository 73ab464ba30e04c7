import Std.Data.TreeMap
import IrLink.Text.Quoted

/-!
# Descriptors

A descriptor stands for a named entity of a program: a class, a function, a
property and so on.  Two descriptors are the same only if they have the same
identity, whatever they are called.  Identities are of three sorts: positions
in a universe, built-in entities, and the placeholders that stand in, one for
each of seven kinds, where no entity is recorded.
-/

namespace IrLink

/-- What kind of entity a descriptor describes. -/
inductive DescriptorKind where
  | klass
  | enumEntry
  | constructor
  | function
  | getter
  | setter
  | property
  | localVariable
  | valueParameter
  | typeParameter
  deriving DecidableEq, Repr, Inhabited

namespace DescriptorKind

/-- The name that is printed for a kind. -/
def name : DescriptorKind → String
  | klass => "class"
  | enumEntry => "enum entry"
  | constructor => "constructor"
  | function => "function"
  | getter => "getter"
  | setter => "setter"
  | property => "property"
  | localVariable => "variable"
  | valueParameter => "value parameter"
  | typeParameter => "type parameter"

/-- All kinds, in the order of their declaration. -/
def all : List DescriptorKind :=
  [klass, enumEntry, constructor, function, getter, setter, property,
    localVariable, valueParameter, typeParameter]

/-- The kind of a given name. -/
def ofName? (recorded : String) : Option DescriptorKind :=
  all.find? fun kind => kind.name == recorded

/-- Functions in the wide sense: plain functions and property accessors. -/
def isFunction : DescriptorKind → Bool
  | function | getter | setter => true
  | _ => false

/-- The kind whose placeholder stands in for an entity of this kind.  Enum
entries share the placeholder of classes, accessors that of functions. -/
def placeholderKind : DescriptorKind → DescriptorKind
  | enumEntry => klass
  | getter | setter => function
  | kind => kind

end DescriptorKind

/-- The identity of a descriptor. -/
inductive DescriptorId where
  /-- The entity at a position of the universe. -/
  | declared (position : Nat)
  /-- A built-in entity, numbered as its symbol is. -/
  | builtin (number : Nat)
  /-- The placeholder shared by all entities of a kind. -/
  | placeholder (kind : DescriptorKind)
  deriving DecidableEq, Repr, Inhabited

namespace DescriptorId

/-- A number that tells identities apart. -/
def rank : DescriptorId → Nat
  | declared position => 3 * position
  | builtin number => 3 * number + 1
  | placeholder kind => 3 * kind.ctorIdx + 2

/-- Identities are ordered by their rank. -/
instance : Ord DescriptorId where
  compare a b := compare a.rank b.rank

instance : Std.TransOrd DescriptorId where
  eq_swap := fun {a b} => Std.OrientedOrd.eq_swap (a := a.rank) (b := b.rank)
  isLE_trans := fun {a b c} =>
    Std.TransOrd.isLE_trans (a := a.rank) (b := b.rank) (c := c.rank)

/-- The rank of an identity tells it apart from all others. -/
theorem rank_injective {a b : DescriptorId} (same : a.rank = b.rank) :
    a = b := by
  cases a <;> cases b <;> simp only [rank] at same
  case declared.declared => congr 1; omega
  case builtin.builtin => congr 1; omega
  case placeholder.placeholder a b => cases a <;> cases b <;> simp_all [DescriptorKind.ctorIdx]
  all_goals omega

instance : Std.LawfulEqOrd DescriptorId where
  eq_of_compare := fun {a b} same =>
    rank_injective (Std.LawfulEqOrd.eq_of_compare (a := a.rank) (b := b.rank) same)

end DescriptorId

/-- An entity: its identity, what it is, and for a member of a class what it
overrides and how it is accessed.  Other descriptors are named by their
position in the universe. -/
structure Descriptor where
  id : DescriptorId
  kind : DescriptorKind
  name : String
  /-- The index under which references find this entity in its scope. -/
  index : Option UInt64
  /-- For a member that is inherited without being declared again, the members
  that it stands for. -/
  overridden : Option (List Nat) := none
  /-- The getter of a property. -/
  getter : Option Nat := none
  /-- The setter of a property. -/
  setter : Option Nat := none
  deriving DecidableEq, Repr, Inhabited

namespace Descriptor

/-- The descriptor that stands in for an entity of `kind` where none is
recorded. -/
def placeholder (kind : DescriptorKind) : Descriptor where
  id := .placeholder kind.placeholderKind
  kind := kind.placeholderKind
  name := "<placeholder " ++ kind.placeholderKind.name ++ ">"
  index := none

/-- Whether a descriptor is one of the shared placeholders. -/
def isPlaceholder (descriptor : Descriptor) : Bool :=
  match descriptor.id with
  | .placeholder _ => true
  | _ => false

/-- Whether a member is inherited without being declared again. -/
def isFakeOverride (descriptor : Descriptor) : Bool :=
  descriptor.overridden.isSome

/-- The positions of the universe that a descriptor mentions. -/
def mentions (descriptor : Descriptor) : List Nat :=
  descriptor.overridden.getD [] ++ descriptor.getter.toList ++
    descriptor.setter.toList

/-- A descriptor is written as its kind and its name. -/
def text (descriptor : Descriptor) : String :=
  descriptor.kind.name ++ " " ++ descriptor.name

/-- A descriptor as a list of names and values between braces. -/
def detailText (descriptor : Descriptor) : String :=
  "Descriptor \x7b kind: " ++ Text.joinWords ' ' descriptor.kind.name ++
    ", name: " ++ Text.readableQuoted descriptor.name ++ ", index: " ++
    (match descriptor.index with
      | none => "None"
      | some index => "Some(" ++ toString index.toNat ++ ")") ++ " \x7d"

end Descriptor

end IrLink
