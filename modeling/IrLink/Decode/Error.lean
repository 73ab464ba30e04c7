import IrLink.Bytes.Reader
import IrLink.Loop
import IrLink.Tree.Declaration
import IrLink.Universe.Reference

/-!
# Decoding errors

Why a record cannot be linked.  Each cause is a constructor with what is known
of it; the wording is in `DecodeError.message`.
-/

namespace IrLink

/-- The choices of a record that can be left unset. -/
inductive Choice where
  | type
  | typeArgument
  | operation
  | statement
  | varargElement
  | declarator
  deriving DecidableEq, Repr

/-- The name of a choice. -/
def Choice.name : Choice → String
  | type => "type"
  | typeArgument => "type argument"
  | operation => "operation"
  | statement => "statement"
  | varargElement => "vararg element"
  | declarator => "declarator"

/-- The forms of recorded statements. -/
inductive StatementForm where
  | unset
  | blockBody
  | branch
  | catchClause
  | declaration
  | expression
  | syntheticBody
  deriving DecidableEq, Repr

/-- The recorded name of a form. -/
def StatementForm.name : StatementForm → String
  | unset => "NotSet"
  | blockBody => "BlockBody"
  | branch => "Branch"
  | catchClause => "Catch"
  | declaration => "Declaration"
  | expression => "Expression"
  | syntheticBody => "SyntheticBody"

/-- The places that take statements of some forms only. -/
inductive StatementPlace where
  | body
  | branch
  | catchClause
  deriving DecidableEq, Repr

/-- The name of a place. -/
def StatementPlace.name : StatementPlace → String
  | body => "body"
  | branch => "when branch"
  | catchClause => "try catch"

/-- What trees cannot hold, although it can be recorded. -/
inductive Unsupported where
  /-- A choice that was never made. -/
  | unset (choice : Choice)
  /-- A symbol of a returnable block. -/
  | returnableBlock
  /-- A statement of another form than its place takes. -/
  | statement (place : StatementPlace) (found : StatementForm)
  /-- A clause that catches something other than a variable. -/
  | catchParameter (found : DeclarationForm)
  /-- An enum entry with a body that is no class. -/
  | enumEntryClass (found : DeclarationForm)
  /-- A type operand without a classifier; its text is given. -/
  | typeOperand (text : String)
  deriving DecidableEq, Repr

/-- The recorded thing and the variant of it that is not supported. -/
def Unsupported.names : Unsupported → String × String
  | unset choice => (choice.name, "NotSet")
  | returnableBlock => ("symbol kind", "ReturnableBlockSymbol")
  | statement place found => (place.name, found.name)
  | catchParameter found => ("catch parameter", found.name)
  | enumEntryClass found => ("enum entry body", found.name)
  | typeOperand text => ("type operand", text ++ " (no classifier)")

/-- In what way the kind of a symbol does not fit. -/
inductive Misfit where
  /-- The symbol was first met with another kind than is recorded now. -/
  | known (recorded found : SymbolKind)
  /-- The descriptor behind the symbol is of a kind that the symbol's excludes. -/
  | bound (recorded : SymbolKind) (found : DescriptorKind)
  /-- The symbol is of another kind than its place requires. -/
  | required (requirement : Requirement) (found : SymbolKind)
  deriving DecidableEq, Repr

/-- What was expected of a symbol, and what was found. -/
def Misfit.names : Misfit → String × String
  | known recorded found => (recorded.name, found.name)
  | bound recorded found => (recorded.name, found.name)
  | required requirement found => (requirement.text, found.name)

/-- Why a record cannot be linked. -/
inductive DecodeError where
  /-- A reference means nothing in the universe. -/
  | unresolvedReference (reference : DescriptorReference)
  /-- A jump names a loop that was not begun. -/
  | danglingLoopReference (id : Int32)
  | unsupported (what : Unsupported)
  /-- A constant without a value. -/
  | malformedConstant
  /-- A second declaration of one descriptor. -/
  | duplicateDeclaration (descriptor : Descriptor)
  /-- A symbol of a kind that does not fit. -/
  | symbolKindMismatch (id : UInt64) (misfit : Misfit)
  | unknownOrigin (name : String)
  /-- No declaration was decoded for a descriptor. -/
  | unknownDeclaration (descriptor : Descriptor)
  | depthLimitExceeded (limit : Nat)
  /-- The byte source has nothing under an identifier. -/
  | missingRecord (id : UInt64)
  /-- The bytes of a record are malformed. -/
  | malformedRecord (fault : Bytes.Fault)
  deriving DecidableEq, Repr

/-- What is said of an error. -/
def DecodeError.message : DecodeError → String
  | unresolvedReference r =>
    "Unresolved descriptor reference: " ++ r.package ++ "/" ++ r.className ++ "." ++
      r.name ++ " (index " ++ Text.hexMarked r.uniqueId.index.toNat ++ ")"
  | danglingLoopReference id =>
    "Dangling loop reference: " ++ loopIdText id ++ " was never registered"
  | unsupported what =>
    "Unsupported " ++ what.names.1 ++ " variant: " ++ what.names.2
  | malformedConstant => "Constant value is not set"
  | duplicateDeclaration descriptor =>
    "Declaration for " ++ descriptor.text ++ " registered twice"
  | symbolKindMismatch id misfit =>
    "Symbol " ++ symbolIdText id ++ ": expected " ++ misfit.names.1 ++ ", found " ++
      misfit.names.2
  | unknownOrigin name => "Unknown declaration origin: " ++ name
  | unknownDeclaration descriptor => "No declaration decoded for " ++ descriptor.text
  | depthLimitExceeded limit =>
    "Nesting depth limit exceeded (max " ++ toString limit ++ ")"
  | missingRecord id => "No record for content id " ++ Text.hexMarked id.toNat
  | malformedRecord fault => "Malformed record: " ++ fault.message

end IrLink
