import IrLink.Bytes.Hex
import IrLink.Descriptor

/-!
# Symbols

A symbol stands between a declaration and everything that refers to it.  In
one session there is one symbol to an identifier, and all references share
it.  A symbol is bound to a real descriptor, or to none; then the placeholder
of its kind describes it.

A position in a record asks for symbols of certain kinds only; the table of
these requirements is `Requirement.accepts`.
-/

namespace IrLink

/-- What kind of declaration a symbol stands for. -/
inductive SymbolKind where
  | anonymousInitializer
  | klass
  | constructor
  | enumEntry
  | field
  | function
  | typeParameter
  | valueParameter
  | localVariable
  deriving DecidableEq, Repr, Inhabited

namespace SymbolKind

/-- The name that is printed for a kind. -/
def name : SymbolKind → String
  | anonymousInitializer => "anonymous initializer"
  | klass => "class"
  | constructor => "constructor"
  | enumEntry => "enum entry"
  | field => "field"
  | function => "function"
  | typeParameter => "type parameter"
  | valueParameter => "value parameter"
  | localVariable => "variable"

/-- All kinds, in the order of their declaration. -/
def all : List SymbolKind :=
  [anonymousInitializer, klass, constructor, enumEntry, field, function,
    typeParameter, valueParameter, localVariable]

/-- The kind of a given name. -/
def ofName? (printed : String) : Option SymbolKind :=
  all.find? fun kind => kind.name == printed

/-- The kind of the placeholder that describes a symbol without a descriptor.
Fields are described by their property. -/
def placeholderKind : SymbolKind → DescriptorKind
  | anonymousInitializer | klass | enumEntry => .klass
  | constructor => .constructor
  | field => .property
  | function => .function
  | typeParameter => .typeParameter
  | valueParameter => .valueParameter
  | localVariable => .localVariable

/-- Whether a descriptor of the given kind may stand behind a symbol. -/
def accepts : SymbolKind → DescriptorKind → Bool
  | anonymousInitializer, kind | klass, kind => kind == .klass
  | enumEntry, kind => kind == .enumEntry || kind == .klass
  | constructor, kind => kind == .constructor
  | field, kind => kind == .property
  | function, kind => kind.isFunction
  | typeParameter, kind => kind == .typeParameter
  | valueParameter, kind => kind == .valueParameter
  | localVariable, kind => kind == .localVariable

/-- The placeholder that describes symbols of a kind is of a kind that it accepts. -/
theorem accepts_placeholder (kind : SymbolKind) :
    kind.accepts (Descriptor.placeholder kind.placeholderKind).kind = true := by
  cases kind <;> rfl

/-- Classes and type parameters can classify a type. -/
def isClassifier : SymbolKind → Bool
  | klass | typeParameter => true
  | _ => false

/-- What can be called or referred to as a function. -/
def isFunctionLike : SymbolKind → Bool
  | function | constructor => true
  | _ => false

/-- What the read of a value can name. -/
def isValue : SymbolKind → Bool
  | localVariable | valueParameter => true
  | _ => false

end SymbolKind

/-- What a position of a record asks of the symbol that stands there. -/
inductive Requirement where
  | classifier
  | callee
  | returnTarget
  | value
  | assignedVariable
  | objectClass
  | superClass
  | constructor
  | accessedField
  | accessor
  | declaredClass
  | declaredConstructor
  | declaredEnumEntry
  | declaredField
  | declaredFunction
  | declaredVariable
  | declaredInitializer
  | declaredValueParameter
  | declaredTypeParameter
  | overriddenFunction
  | enumValue
  deriving DecidableEq, Repr, Inhabited

namespace Requirement

/-- The symbols that meet a requirement. -/
def accepts : Requirement → SymbolKind → Bool
  | classifier, kind => kind.isClassifier
  | callee, kind | returnTarget, kind => kind.isFunctionLike
  | value, kind => kind.isValue
  | assignedVariable, kind | declaredVariable, kind => kind == .localVariable
  | objectClass, kind | superClass, kind | declaredClass, kind => kind == .klass
  | constructor, kind | declaredConstructor, kind => kind == .constructor
  | accessedField, kind | declaredField, kind => kind == .field
  | accessor, kind | declaredFunction, kind | overriddenFunction, kind =>
      kind == .function
  | declaredEnumEntry, kind | enumValue, kind => kind == .enumEntry
  | declaredInitializer, kind => kind == .anonymousInitializer
  | declaredValueParameter, kind => kind == .valueParameter
  | declaredTypeParameter, kind => kind == .typeParameter

/-- What is said to be expected where a requirement is not met. -/
def text : Requirement → String
  | classifier => "classifier"
  | callee | declaredFunction | overriddenFunction => "function"
  | returnTarget => "return target"
  | value => "value"
  | assignedVariable | declaredVariable => "variable"
  | objectClass | declaredClass => "class"
  | superClass => "super class"
  | constructor | declaredConstructor => "constructor"
  | accessedField | declaredField => "field"
  | accessor => "accessor"
  | declaredEnumEntry | enumValue => "enum entry"
  | declaredInitializer => "anonymous initializer"
  | declaredValueParameter => "value parameter"
  | declaredTypeParameter => "type parameter"

end Requirement

/-- An identifier of symbols is written in base sixteen behind `sym`. -/
def symbolIdText (id : UInt64) : String :=
  "sym" ++ Text.hex id.toNat

/-- One symbol of a session. -/
structure Symbol where
  /-- How many symbols the session held when this one was made.  Symbols that
  were made apart differ in it, whatever else they share. -/
  serial : Nat
  id : UInt64
  kind : SymbolKind
  /-- The real descriptor behind the symbol, if one was recorded. -/
  bound : Option Descriptor
  deriving DecidableEq, Repr, Inhabited

namespace Symbol

/-- Whether a real descriptor was recorded for the symbol. -/
def isBound (symbol : Symbol) : Bool :=
  symbol.bound.isSome

/-- What describes a symbol: the descriptor it is bound to, or else the
placeholder of its kind. -/
def descriptor (symbol : Symbol) : Descriptor :=
  symbol.bound.getD (.placeholder symbol.kind.placeholderKind)

/-- The name of the entity behind a symbol. -/
def name (symbol : Symbol) : String :=
  symbol.descriptor.name

/-- A symbol is written as its kind, its identifier and, in parentheses, the
name of what it stands for. -/
def text (symbol : Symbol) : String :=
  symbol.kind.name ++ " " ++ symbolIdText symbol.id ++ " (" ++ symbol.name ++ ")"

end Symbol

end IrLink
