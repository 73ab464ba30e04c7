/-!
# Nodes

What records and trees have in common.  Both are one family of types, indexed
by the syntactic category of the node.  The index makes a misplaced child
unrepresentable, and one recursion serves the whole family, lists and optional
parts included.

A node stands in a range of its source file, and a declaration has an origin.
Elements that no source text stands for (annotations, built-in declarations)
have the zero range.  Origins are recorded by name, and `Origin.ofName?_name`
says that reading the name of an origin gives it back.
-/

namespace IrLink

/-! ## Categories -/

/-- The syntactic categories of records and trees. -/
inductive Category where
  | type
  | typeArgument
  | call
  | access
  | fieldAccess
  | expression
  | operation
  | varargElement
  | statement
  /-- A statement in the place of a branch. -/
  | branch
  /-- A statement in the place of a clause that catches. -/
  | catchClause
  /-- A statement in the place of a function's body. -/
  | body
  | declaration
  | declarator
  | signature
  /-- A function, as it is declared for itself or for a property. -/
  | function
  /-- A field, as it is declared for itself or for a property. -/
  | field
  /-- A function in the place of a property's getter or setter. -/
  | accessor
  /-- A field in the place of a property's storage. -/
  | backingField
  | valueParameter
  | typeParameter
  | list (item : Category)
  | option (item : Category)
  deriving DecidableEq, Repr

/-! ## Ranges -/

/-- The offsets between which an element stands in its source file. -/
structure Range where
  /-- Offset of the first character. -/
  start : Int32
  /-- Offset behind the last character. -/
  stop : Int32
  deriving DecidableEq, Repr, Inhabited

namespace Range

/-- The range of an element without a place in a source file. -/
def zero : Range := ⟨0, 0⟩

/-- The distance between the two offsets; negative if they are reversed. -/
def length (range : Range) : Int32 := range.stop - range.start

/-- A range holds nothing unless its end lies behind its start. -/
def isEmpty (range : Range) : Bool := range.stop ≤ range.start

/-- A range is written as its two offsets around two points. -/
def text (range : Range) : String :=
  toString range.start.toInt ++ ".." ++ toString range.stop.toInt

end Range

/-! ## Origins -/

/-- The reason for which a declaration exists. -/
inductive Origin where
  | defined
  | fakeOverride
  | forLoopIterator
  | forLoopVariable
  | forLoopImplicitVariable
  | propertyBackingField
  | defaultPropertyAccessor
  | delegate
  | delegatedPropertyAccessor
  | delegatedMember
  | enumClassSpecialMember
  | functionForDefaultParameter
  | fileClass
  | generatedDataClassMember
  | generatedInlineClassMember
  | localFunctionForLambda
  | catchParameter
  | instanceReceiver
  | primaryConstructorParameter
  | irTemporaryVariable
  | irExternalDeclarationStub
  | irBuiltinsStub
  | bridge
  | fieldForEnumEntry
  | fieldForEnumValues
  | fieldForObjectInstance
  deriving DecidableEq, Repr, Inhabited

namespace Origin

/-- The name under which an origin is recorded and printed. -/
def name : Origin → String
  | defined => "DEFINED"
  | fakeOverride => "FAKE_OVERRIDE"
  | forLoopIterator => "FOR_LOOP_ITERATOR"
  | forLoopVariable => "FOR_LOOP_VARIABLE"
  | forLoopImplicitVariable => "FOR_LOOP_IMPLICIT_VARIABLE"
  | propertyBackingField => "PROPERTY_BACKING_FIELD"
  | defaultPropertyAccessor => "DEFAULT_PROPERTY_ACCESSOR"
  | delegate => "DELEGATE"
  | delegatedPropertyAccessor => "DELEGATED_PROPERTY_ACCESSOR"
  | delegatedMember => "DELEGATED_MEMBER"
  | enumClassSpecialMember => "ENUM_CLASS_SPECIAL_MEMBER"
  | functionForDefaultParameter => "FUNCTION_FOR_DEFAULT_PARAMETER"
  | fileClass => "FILE_CLASS"
  | generatedDataClassMember => "GENERATED_DATA_CLASS_MEMBER"
  | generatedInlineClassMember => "GENERATED_INLINE_CLASS_MEMBER"
  | localFunctionForLambda => "LOCAL_FUNCTION_FOR_LAMBDA"
  | catchParameter => "CATCH_PARAMETER"
  | instanceReceiver => "INSTANCE_RECEIVER"
  | primaryConstructorParameter => "PRIMARY_CONSTRUCTOR_PARAMETER"
  | irTemporaryVariable => "IR_TEMPORARY_VARIABLE"
  | irExternalDeclarationStub => "IR_EXTERNAL_DECLARATION_STUB"
  | irBuiltinsStub => "IR_BUILTINS_STUB"
  | bridge => "BRIDGE"
  | fieldForEnumEntry => "FIELD_FOR_ENUM_ENTRY"
  | fieldForEnumValues => "FIELD_FOR_ENUM_VALUES"
  | fieldForObjectInstance => "FIELD_FOR_OBJECT_INSTANCE"

/-- All origins, in the order of their declaration. -/
def all : List Origin :=
  [defined, fakeOverride, forLoopIterator, forLoopVariable,
    forLoopImplicitVariable, propertyBackingField, defaultPropertyAccessor,
    delegate, delegatedPropertyAccessor, delegatedMember,
    enumClassSpecialMember, functionForDefaultParameter, fileClass,
    generatedDataClassMember, generatedInlineClassMember,
    localFunctionForLambda, catchParameter, instanceReceiver,
    primaryConstructorParameter, irTemporaryVariable,
    irExternalDeclarationStub, irBuiltinsStub, bridge, fieldForEnumEntry,
    fieldForEnumValues, fieldForObjectInstance]

/-- The origin recorded under a name. -/
def ofName? (recorded : String) : Option Origin :=
  all.find? fun origin => origin.name == recorded

/-- The name of every origin reads back as that origin. -/
theorem ofName?_name (origin : Origin) : ofName? origin.name = some origin := by
  cases origin <;> decide

end Origin

end IrLink
