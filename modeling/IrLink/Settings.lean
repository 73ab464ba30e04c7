/-!
# Settings

What can be chosen for a session: how deep expressions, statements and
declarations may be nested in one another, and whether symbols are refused
where their kind does not fit.
-/

namespace IrLink

/-- The choices for a session. -/
structure Settings where
  /-- The greatest nesting of expressions, statements and declarations. -/
  maxDepth : Nat := 65535
  /-- Whether symbols of a kind that does not fit their place are refused. -/
  checkSymbolKinds : Bool := true
  deriving DecidableEq, Repr

/-- What is wrong with chosen settings. -/
inductive Settings.Fault where
  /-- There is no file, or it holds no text. -/
  | unreadable
  /-- The text does not state settings. -/
  | malformed
  /-- Nothing can be nested. -/
  | noDepth
  deriving DecidableEq, Repr

namespace Settings

/-- What is said of a fault. -/
def Fault.message : Fault → String
  | unreadable => "Unreadable decoder config"
  | malformed => "Malformed decoder config"
  | noDepth => "Invalid decoder config: max_depth must be at least 1"

/-- Settings are usable if they allow for some depth. -/
def validate (settings : Settings) : Except Fault Unit :=
  if settings.maxDepth = 0 then .error .noDepth else .ok ()

/-- The settings as a list of names and values between braces. -/
def text (settings : Settings) : String :=
  "DecoderConfig \x7b max_depth: " ++ toString settings.maxDepth ++
    ", check_symbol_kinds: " ++ (if settings.checkSymbolKinds then "true" else "false") ++
    " \x7d"

end Settings

end IrLink
