import IrLink.Descriptor.Table

/-!
# Universes

The universe of a module knows the entities that its records may refer to:
the members of packages, and of each class the members, constructors and
static functions.  It answers by name; what a reference means is decided in
`IrLink.Universe.Reference`.
-/

namespace IrLink

/-- The descriptors that a class contributes. -/
structure ClassScope where
  descriptor : Descriptor
  members : List Descriptor
  constructors : List Descriptor
  staticFunctions : List Descriptor
  deriving DecidableEq, Repr

namespace ClassScope

/-- The first member of a given name that is a class or an enum entry. -/
def contributedClassifier? (scope : ClassScope) (name : String) : Option Descriptor :=
  scope.members.find? fun member =>
    (member.kind == .klass || member.kind == .enumEntry) && member.name == name

/-- The static functions of a given name. -/
def staticFunctionsNamed (scope : ClassScope) (name : String) : List Descriptor :=
  scope.staticFunctions.filter fun function => function.name == name

/-- What a reference into the class can mean: its members, then its
constructors. -/
def candidates (scope : ClassScope) : List Descriptor :=
  scope.members ++ scope.constructors

end ClassScope

/-- All entities that the records of a module may refer to. -/
structure Universe where
  /-- The name of the module. -/
  name : String
  table : DescriptorTable
  /-- The members of packages, in the order in which they were added. -/
  packages : List (String × Descriptor) := []
  /-- The scopes of classes by package and class name, the latest first. -/
  classes : List ((String × String) × ClassScope) := []

namespace Universe

/-- The universe with one more member of a package. -/
def addPackageMember (world : Universe) (package : String) (member : Descriptor) :
    Universe :=
  { world with packages := world.packages ++ [(package, member)] }

/-- The universe with the scope of a class, in place of any scope that was
there under the same names. -/
def addClass (world : Universe) (package className : String) (scope : ClassScope) :
    Universe :=
  { world with classes := ((package, className), scope) :: world.classes }

/-- The members of a package, in the order in which they were added. -/
def packageMembers (world : Universe) (package : String) : List Descriptor :=
  (world.packages.filter fun entry => entry.1 == package).map (·.2)

/-- The scope of a class. -/
def findClass? (world : Universe) (package className : String) : Option ClassScope :=
  world.classes.lookup (package, className)

/-- The declared members that a descriptor stands for. -/
def realMembers (world : Universe) (descriptor : Descriptor) : List Descriptor :=
  world.table.realMembers descriptor

/-- The getter of a property. -/
def getter? (world : Universe) (property : Descriptor) : Option Descriptor :=
  property.getter.bind world.table.get?

/-- The setter of a property. -/
def setter? (world : Universe) (property : Descriptor) : Option Descriptor :=
  property.setter.bind world.table.get?

end Universe

end IrLink
