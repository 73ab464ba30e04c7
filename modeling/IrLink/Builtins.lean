import IrLink.Tree.Declaration
import IrLink.Tree.Expression

/-!
# Built-in declarations

Thirteen classes and nine functions that every session knows from the start.
Symbols, descriptors and declarations of built-ins bear the same number, which
is their place in the list.
-/

namespace IrLink

/-- A built-in symbol and its declaration. -/
structure Builtin where
  symbol : Symbol
  declaration : Tree .declaration

namespace Builtin

/-- The names of the built-in classes. -/
def classNames : List String :=
  ["Any", "Nothing", "Unit", "Boolean", "Char", "Byte", "Short", "Int", "Long",
    "Float", "Double", "String", "Array"]

/-- The symbol of the built-in of a given number. -/
def symbolOf (number : Nat) (name : String) (kind : SymbolKind) : Symbol where
  serial := number
  id := UInt64.ofNat number
  kind := kind
  bound := some {
    id := .builtin number
    kind := kind.placeholderKind
    name := name
    index := some (UInt64.ofNat number) }

/-- The type without values. -/
def nothingType : Tree .type :=
  Tree.plainType (symbolOf 1 "Nothing" .klass)

/-- The type with a single value. -/
def unitType : Tree .type :=
  Tree.plainType (symbolOf 2 "Unit" .klass)

/-- The type of truth values. -/
def booleanType : Tree .type :=
  Tree.plainType (symbolOf 3 "Boolean" .klass)

/-- The names and result types of the built-in functions. -/
def functions : List (String × Tree .type) :=
  [("eqeq", booleanType), ("eqeqeq", booleanType), ("ieee754equals", booleanType),
    ("booleanNot", booleanType), ("noWhenBranchMatchedException", unitType),
    ("less", booleanType), ("lessOrEqual", booleanType), ("greater", booleanType),
    ("greaterOrEqual", booleanType)]

/-- The declaration of a built-in, which stands in no file. -/
def stub (number : Nat) (declarator : Tree .declarator) : Tree .declaration :=
  .declarationNode number .zero .irBuiltinsStub .none declarator .nil

/-- The built-in class of a given number. -/
def ofClass (number : Nat) (name : String) : Builtin :=
  let symbol := symbolOf number name .klass
  { symbol
    declaration := stub number
      (.classDeclarator symbol
        { name, kind := .plain, visibility := .everyone, modality := .final,
          flags := ⟨false, false, false, false, false⟩ }
        .nil .none .nil .nil) }

/-- The built-in function of a given number. -/
def ofFunction (number : Nat) (name : String) (result : Tree .type) : Builtin :=
  let symbol := symbolOf number name .function
  { symbol
    declaration := stub number
      (.functionDeclarator symbol
        { name, visibility := .everyone, modality := .final, isInline := false,
          isExternal := false, isTailrec := false, isSuspend := false }
        none (.signatureNode result .none .nil .none .none .nil) []) }

/-- All built-ins, in the order of their numbers. -/
def all : List Builtin :=
  classNames.mapIdx ofClass ++
    functions.mapIdx fun i (name, result) => ofFunction (classNames.length + i) name result

/-- The built-in with a given symbol identifier. -/
def get? (id : UInt64) : Option Builtin :=
  all[id.toNat]?

/-- Whether a symbol identifier is that of a built-in. -/
def contains (id : UInt64) : Bool :=
  id.toNat < all.length

/-- The first built-in of a given name. -/
def byName? (name : String) : Option Builtin :=
  all.find? fun builtin => builtin.symbol.name == name

end Builtin

end IrLink
