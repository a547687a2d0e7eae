import RowScript.Column
import RowScript.Duration
import RowScript.EntryPoint
import RowScript.Kind

/-!
# Errors

What can go wrong in a script, and what a host tells its caller.

* `ScriptError.isSetupFailure`: the script never became ready.
* `HostError.isUsageError`: the caller asked at the wrong time.
-/

namespace RowScript

/-- What a script engine reports. -/
inductive ScriptError
  | compilation (detail : String)
  | instantiation (detail : String)
  | missingEntry (entry : EntryPoint)
  | invocation (entry : String) (detail : String)
  | timeout (entry : String) (limit : Duration)
  deriving Repr, DecidableEq, Inhabited

namespace ScriptError

def message : ScriptError → String
  | compilation detail => s!"script compilation failed: {detail}"
  | instantiation detail => s!"script instantiation failed: {detail}"
  | missingEntry entry => s!"script does not define `{entry.name}` taking {entry.arity} argument(s)"
  | invocation entry detail => s!"`{entry}` failed: {detail}"
  | timeout entry limit => s!"`{entry}` exceeded its time limit of {limit.text}"

/-- The script cannot be loaded at all. -/
def isSetupFailure : ScriptError → Bool
  | compilation _ | instantiation _ | missingEntry _ => true
  | invocation _ _ | timeout _ _ => false

end ScriptError

/-- What is wrong with a configuration or with a value that should fit it. -/
inductive ConfigFault
  | cell (fault : CellFault)
  | noInputs
  | unnamedInput (type : ColumnType)
  | noCode (kind : Kind)
  | unknownKind (text : String)
  deriving Repr, DecidableEq, Inhabited

def ConfigFault.message : ConfigFault → String
  | cell fault => fault.message
  | noInputs => "at least one input column is required"
  | unnamedInput type => s!"input column names must not be empty (type {type.label})"
  | noCode kind => s!"no code configured for the {kind.id} transformer"
  | unknownKind text => s!"unknown transformer kind '{text}'"

/-- What a host reports. -/
inductive HostError
  | config (fault : ConfigFault)
  | script (error : ScriptError)
  | notInitialized
  | alreadyInitialized
  | closed
  | shapeMismatch (expected actual : Nat)
  deriving Repr, DecidableEq, Inhabited

namespace HostError

def message : HostError → String
  | config fault => s!"invalid configuration: {fault.message}"
  | script error => error.message
  | notInitialized => "transformer is not initialized"
  | alreadyInitialized => "transformer is already initialized"
  | closed => "transformer has been closed"
  | shapeMismatch expected actual => s!"output row has {actual} field(s), expected {expected}"

/-- The operation was called in a state that does not allow it. -/
def isUsageError : HostError → Bool
  | notInitialized | alreadyInitialized | closed => true
  | config _ | script _ | shapeMismatch _ _ => false

end HostError

end RowScript
