/-!
# Attributes of types and declarations

The small enumerations that records and trees share, each with the texts that
are printed for it.  Visibilities are recorded by name; every name
that is not known stands for public visibility.
-/

namespace IrLink

/-- How a type argument or type parameter varies with its owner. -/
inductive Variance where
  | invariant
  | contravariant
  | covariant
  deriving DecidableEq, Repr, Inhabited

/-- The name of a variance. -/
def Variance.name : Variance → String
  | .invariant => "invariant"
  | .contravariant => "in"
  | .covariant => "out"

/-- The mark of a variance.  An invariant is not marked. -/
def Variance.text : Variance → String
  | .invariant => ""
  | .contravariant => "in"
  | .covariant => "out"

/-- From where a declaration can be seen. -/
inductive Visibility where
  | everyone
  | inheritors
  | module
  | owner
  | ownerInstance
  | enclosingBlock
  | invisibleFake
  | unknown
  deriving DecidableEq, Repr, Inhabited

namespace Visibility

/-- All visibilities beside their recorded names. -/
def names : List (String × Visibility) :=
  [("public", everyone), ("protected", inheritors), ("internal", module),
    ("private", owner), ("private_to_this", ownerInstance),
    ("local", enclosingBlock), ("invisible_fake", invisibleFake),
    ("unknown", unknown)]

/-- The visibility recorded under `name`; a name that is not known is public. -/
def ofName (name : String) : Visibility :=
  (names.lookup name).getD everyone

/-- The recorded name of a visibility. -/
def name : Visibility → String
  | everyone => "public"
  | inheritors => "protected"
  | module => "internal"
  | owner => "private"
  | ownerInstance => "private_to_this"
  | enclosingBlock => "local"
  | invisibleFake => "invisible_fake"
  | unknown => "unknown"

/-- The recorded name of every visibility reads back as that visibility. -/
theorem ofName_name (visibility : Visibility) : ofName visibility.name = visibility := by
  cases visibility <;> decide

end Visibility

/-- Whether and how a declaration can be overridden. -/
inductive Modality where
  | final
  | sealed
  | inheritable
  | abstract
  deriving DecidableEq, Repr, Inhabited

/-- What sort of class a class declaration declares. -/
inductive ClassKind where
  | plain
  | interface
  | enumClass
  | enumEntry
  | annotationClass
  | object
  deriving DecidableEq, Repr, Inhabited

/-- The marks of a class declaration. -/
structure ClassFlags where
  isCompanion : Bool
  isInner : Bool
  isData : Bool
  isExternal : Bool
  isInline : Bool
  deriving DecidableEq, Repr, Inhabited

/-- The marks of a field declaration. -/
structure FieldFlags where
  isFinal : Bool
  isExternal : Bool
  isStatic : Bool
  deriving DecidableEq, Repr, Inhabited

/-- The marks of a property declaration. -/
structure PropertyFlags where
  isVar : Bool
  isConst : Bool
  isLateinit : Bool
  isDelegated : Bool
  isExternal : Bool
  deriving DecidableEq, Repr, Inhabited

/-- The marks of a variable declaration. -/
structure VariableFlags where
  isVar : Bool
  isConst : Bool
  isLateinit : Bool
  deriving DecidableEq, Repr, Inhabited

/-- Whether a call stands for a primitive operation, and of how many operands. -/
inductive CallForm where
  | ordinary
  | nullary
  | unary
  | binary
  deriving DecidableEq, Repr, Inhabited

/-- The written form of what a call stands for. -/
def CallForm.text : CallForm → String
  | .ordinary => "ordinary"
  | .nullary => "nullary"
  | .unary => "unary"
  | .binary => "binary"

/-- The conversions and tests that one type operand describes. -/
inductive TypeOperator where
  | cast
  | implicitCast
  | implicitNotNull
  | implicitCoercionToUnit
  | implicitIntegerCoercion
  | safeCast
  | instanceOf
  | notInstanceOf
  deriving DecidableEq, Repr, Inhabited

/-- The bodies that a compiler writes for an enum class. -/
inductive SyntheticBody where
  | values
  | valueOf
  deriving DecidableEq, Repr, Inhabited

/-- The name of the function that a body makes. -/
def SyntheticBody.text : SyntheticBody → String
  | .values => "values"
  | .valueOf => "valueOf"

/-- Whether a loop tests its condition before or behind its body. -/
inductive LoopKind where
  | whileTrue
  | doWhile
  deriving DecidableEq, Repr, Inhabited

/-- The written form of a kind of loop. -/
def LoopKind.text : LoopKind → String
  | .whileTrue => "while"
  | .doWhile => "do-while"

end IrLink
