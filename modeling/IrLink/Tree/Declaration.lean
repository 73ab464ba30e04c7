import IrLink.Tree

/-!
# Declarations of trees

What can be asked of a declaration: its form, its name, the symbol that stands
for it and the descriptor behind it, and its text.  Properties have no symbol
and are described by the placeholder of properties; declarations that trees
cannot hold are described by that of classes.
-/

namespace IrLink

/-- The forms of declarations. -/
inductive DeclarationForm where
  | klass
  | function
  | constructor
  | field
  | property
  | localVariable
  | enumEntry
  | anonymousInitializer
  | error
  deriving DecidableEq, Repr

/-- The name that is printed for a form. -/
def DeclarationForm.name : DeclarationForm → String
  | klass => "class"
  | function => "function"
  | constructor => "constructor"
  | field => "field"
  | property => "property"
  | localVariable => "variable"
  | enumEntry => "enum entry"
  | anonymousInitializer => "anonymous initializer"
  | error => "error declaration"

namespace Tree

/-! ## Declarators -/

/-- The form of the declaration that a declarator makes. -/
def form : Tree .declarator → DeclarationForm
  | classDeclarator .. => .klass
  | functionDeclarator .. => .function
  | constructorDeclarator .. => .constructor
  | fieldDeclarator .. => .field
  | property .. => .property
  | variableDeclarator .. => .localVariable
  | enumEntry .. => .enumEntry
  | anonymousInitializer .. => .anonymousInitializer
  | errorDeclarator => .error

/-- The name of what a declarator declares. -/
def declaredName : Tree .declarator → String
  | classDeclarator _ head .. => head.name
  | functionDeclarator _ head .. => head.name
  | constructorDeclarator _ head .. => head.name
  | fieldDeclarator _ head .. => head.name
  | property head .. => head.name
  | variableDeclarator _ head .. => head.name
  | enumEntry _ name .. => name
  | anonymousInitializer .. => "<init>"
  | errorDeclarator => "<error>"

/-- The symbol that stands for what a declarator declares. -/
def declaredSymbol? : Tree .declarator → Option Symbol
  | classDeclarator symbol .. => .some symbol
  | functionDeclarator symbol .. => .some symbol
  | constructorDeclarator symbol .. => .some symbol
  | fieldDeclarator symbol .. => .some symbol
  | variableDeclarator symbol .. => .some symbol
  | enumEntry symbol .. => .some symbol
  | anonymousInitializer symbol .. => .some symbol
  | property .. | errorDeclarator => .none

/-- What describes the declaration that a declarator makes. -/
def declaredDescriptor (declarator : Tree .declarator) : Descriptor :=
  match declarator.declaredSymbol?, declarator.form with
  | .some symbol, _ => symbol.descriptor
  | .none, .property => .placeholder .property
  | .none, _ => .placeholder .klass

/-- The number of statements in the body of a function.  A body that a compiler
writes has none, and a function may have no body. -/
def bodyLength? : Tree (.option .body) → Option Nat
  | some (blockBody _ statements) => .some statements.toList.length
  | some (syntheticBody ..) => .some 0
  | none => .none

/-! ## Declarations -/

/-- The identity of a declaration. -/
def node : Tree .declaration → Nat
  | declarationNode node .. => node

/-- What a declaration is. -/
def declarator : Tree .declaration → Tree .declarator
  | declarationNode _ _ _ _ declarator _ => declarator

/-- What describes a declaration. -/
def descriptor (declaration : Tree .declaration) : Descriptor :=
  declaration.declarator.declaredDescriptor

/-- The descriptor behind a declaration, unless it is a placeholder. -/
def backingDescriptor? (declaration : Tree .declaration) : Option Descriptor :=
  let descriptor := declaration.descriptor
  if descriptor.isPlaceholder then .none else .some descriptor

/-- A declaration is written as its form, its name, its origin between square
brackets and its range. -/
def declarationText : Tree .declaration → String
  | declarationNode _ range origin _ declarator _ =>
    declarator.form.name ++ " " ++ declarator.declaredName ++ " [" ++ origin.name ++
      "] @" ++ range.text

end Tree

end IrLink
