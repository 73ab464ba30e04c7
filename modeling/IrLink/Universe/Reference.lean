import IrLink.Universe

/-!
# Descriptor references

A record names the entity behind a symbol by a reference: package, class,
name, index and a few flags.  `Universe.resolve?` finds the entity.  Enum
entries and the special members of enum classes are found by name; everything
else is the first candidate of the scope whose index matches, where the index
of an inherited member is that of the declared members behind it.
-/

namespace IrLink

/-- An identifier that records share, and whether it is local to its file. -/
structure UniqueId where
  index : UInt64
  isLocal : Bool
  deriving DecidableEq, Repr, Inhabited

/-- How a record names an entity of the universe. -/
structure DescriptorReference where
  package : String
  className : String
  name : String
  uniqueId : UniqueId
  isGetter : Bool
  isSetter : Bool
  isFakeOverride : Bool
  isDefaultConstructor : Bool
  isEnumEntry : Bool
  isEnumSpecial : Bool
  deriving DecidableEq, Repr, Inhabited

namespace Universe

/-- What is found where a candidate matches a reference: the setter or getter
that the reference asks for, if the candidate is a property, or else the
candidate itself. -/
def accessed? (world : Universe) (reference : DescriptorReference)
    (candidate : Descriptor) : Option Descriptor :=
  if candidate.kind != .property then some candidate
  else if reference.isSetter then world.setter? candidate
  else if reference.isGetter then world.getter? candidate
  else some candidate

/-- Whether the index of a reference is that of a candidate, or of a declared
member behind it if both sides speak of an inherited member. -/
def hasIndex (world : Universe) (reference : DescriptorReference)
    (candidate : Descriptor) : Bool :=
  let members :=
    if reference.isFakeOverride && candidate.isFakeOverride then
      world.realMembers candidate
    else
      [candidate]
  members.any fun member => member.index == some reference.uniqueId.index

/-- What a reference means among the candidates of its scope: the first
constructor if it asks for the default constructor, or the first candidate of
its index, whichever stands earlier. -/
def scan? (world : Universe) (reference : DescriptorReference) :
    List Descriptor → Option Descriptor
  | [] => none
  | candidate :: rest =>
    if reference.isDefaultConstructor && candidate.kind == .constructor then
      some candidate
    else if world.hasIndex reference candidate then
      world.accessed? reference candidate
    else
      world.scan? reference rest

/-- What a reference means in the scope of a class. -/
def resolveMember? (world : Universe) (reference : DescriptorReference)
    (scope : ClassScope) : Option Descriptor :=
  if reference.isEnumEntry then
    scope.contributedClassifier? reference.name
  else if reference.isEnumSpecial then
    match scope.staticFunctionsNamed reference.name with
    | [function] => some function
    | _ => none
  else
    world.scan? reference scope.candidates

/-- The entity that a reference means, if there is one. -/
def resolve? (world : Universe) (reference : DescriptorReference) : Option Descriptor :=
  if reference.className.isEmpty then
    world.scan? reference (world.packageMembers reference.package)
  else
    (world.findClass? reference.package reference.className).bind
      (world.resolveMember? reference)

end Universe

end IrLink
