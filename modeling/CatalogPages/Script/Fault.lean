/-
**Faults of a script.**

Why a page's script cannot be read or run.
-/

namespace CatalogPages

/-- Why a script cannot be read or run. -/
inductive ScriptFault where
  | malformed
  | badEscape
  | undefinedValue
  | invalidOperation
  | cannotUnpack
  | unknownFilter
  | unknownTest
  | unknownFunction
  | unknownMethod
  | unknownBlock
  | templateNotFound
  | missingArgument
  | tooManyArguments
  deriving DecidableEq, Repr

def ScriptFault.message : ScriptFault → String
  | malformed => "syntax error"
  | badEscape => "bad string escape"
  | undefinedValue => "undefined value"
  | invalidOperation => "invalid operation"
  | cannotUnpack => "cannot unpack"
  | unknownFilter => "unknown filter"
  | unknownTest => "unknown test"
  | unknownFunction => "unknown function"
  | unknownMethod => "unknown method"
  | unknownBlock => "unknown block"
  | templateNotFound => "template not found"
  | missingArgument => "missing argument"
  | tooManyArguments => "too many arguments"

end CatalogPages
