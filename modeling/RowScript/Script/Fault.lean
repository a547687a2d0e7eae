import RowScript.Script.Datum
import RowScript.Script.Token

/-!
# Faults of running scripts

A `Fault` is a cause, the place where it arose, and the calls it went through on its way out,
innermost first. `Cause.isCatchable` says which causes a script can handle itself.
-/

namespace RowScript.Script

inductive Cause
  /-- A value that the script itself threw. -/
  | thrown (value : Datum)
  | variableNotFound (name : String)
  /-- No function for a name and the kinds of its arguments. -/
  | functionNotFound (signature : String)
  /-- A number that cannot be computed or read. -/
  | arithmetic (text : String)
  | arrayBounds (length : Nat) (index : Int)
  | textBounds (length : Nat) (index : Int)
  | wrongKind (actual expected : String)
  | notIterable
  | noIndexer (signature : String)
  | unknownProperty (name : String)
  | noReceiver
  | constantAssigned (name : String)
  | constantChanged (method : String)
  | tooManyOperations
  | stackOverflow
  | tooLarge (what : String)
  | terminated
  deriving Inhabited

namespace Cause

/-- Limits are not for scripts to handle. -/
def isCatchable : Cause → Bool
  | tooManyOperations | stackOverflow | tooLarge _ | terminated => false
  | _ => true

def counted (n : Nat) (noun : String) : String :=
  toString n ++ " " ++ noun ++ (if n == 1 then "" else "s")

def message : Cause → String
  | thrown .unit => "Runtime error"
  | thrown (.string "") => "Runtime error"
  | thrown d => "Runtime error: " ++ d.errorText
  | variableNotFound name => "Variable not found: " ++ name
  | functionNotFound signature => "Function not found: " ++ signature
  | arithmetic text => text
  | arrayBounds length index =>
    "Array index " ++ toString index ++ " out of bounds: " ++
      if length == 0 then "array is empty" else "only " ++ counted length "element" ++ " in array"
  | textBounds length index =>
    "String index " ++ toString index ++ " out of bounds: " ++
      if length == 0 then "string is empty" else "only " ++ counted length "character" ++ " in string"
  | wrongKind actual expected =>
    if expected.isEmpty then "Data type incorrect: " ++ actual
    else "Data type incorrect: " ++ actual ++ " (expecting " ++ expected ++ ")"
  | notIterable => "For loop expects iterable type"
  | noIndexer signature => "Indexer unavailable: " ++ signature
  | unknownProperty name => name
  | noReceiver => "'this' not bound"
  | constantAssigned name => "Cannot modify constant " ++ name
  | constantChanged method => "Non-pure method '" ++ method ++ "' cannot be called on constant"
  | tooManyOperations => "Too many operations"
  | stackOverflow => "Stack overflow"
  | tooLarge what => what ++ " too large"
  | terminated => "Script terminated"

/-- The name of a cause, by which a handler can tell causes apart. -/
def label : Cause → String
  | thrown _ => "ErrorRuntime"
  | variableNotFound _ => "ErrorVariableNotFound"
  | functionNotFound _ => "ErrorFunctionNotFound"
  | arithmetic _ => "ErrorArithmetic"
  | arrayBounds _ _ => "ErrorArrayBounds"
  | textBounds _ _ => "ErrorStringBounds"
  | wrongKind _ _ => "ErrorMismatchDataType"
  | notIterable => "ErrorFor"
  | noIndexer _ => "ErrorIndexingType"
  | unknownProperty _ => "ErrorDotExpr"
  | noReceiver => "ErrorUnboundThis"
  | constantAssigned _ => "ErrorAssignmentToConstant"
  | constantChanged _ => "ErrorNonPureMethodCallOnConstant"
  | tooManyOperations => "ErrorTooManyOperations"
  | stackOverflow => "ErrorStackOverflow"
  | tooLarge _ => "ErrorDataTooLarge"
  | terminated => "ErrorTerminated"

/-- What a handler can read of a cause, beside its name, text and place. -/
def details : Cause → List (String × Datum)
  | variableNotFound name | constantAssigned name => [("variable", .string name)]
  | functionNotFound signature => [("function", .string signature)]
  | arrayBounds length index | textBounds length index =>
    [("index", .int (Int64.ofInt index)), ("length", .int (Int64.ofInt length))]
  | wrongKind actual expected => [("actual", .string actual), ("requested", .string expected)]
  | noIndexer signature => [("type", .string signature)]
  | unknownProperty name => [("property", .string name)]
  | constantChanged method => [("function", .string method)]
  | tooLarge what => [("type", .string what)]
  | _ => []

end Cause

/-- A call that a fault went through. -/
structure CallSite where
  function : String
  pos : Position
  deriving Inhabited

structure Fault where
  cause : Cause
  pos : Position := .unknown
  calls : List CallSite := []
  deriving Inhabited

namespace Fault

/-- The place of a fault that has none yet. -/
def locate (pos : Position) (f : Fault) : Fault :=
  match f.calls with
  | [] => { f with pos := f.pos.orElse pos }
  | _ => f

/-- A fault on its way out of a function that was called at `pos`. Limits forget where they were
reached. -/
def leaving (function : String) (pos : Position) (f : Fault) : Fault :=
  if f.cause.isCatchable then { f with calls := f.calls ++ [⟨function, pos⟩] } else { f with pos }

def atText (pos : Position) : String := if pos.isKnown then " (" ++ pos.text ++ ")" else ""

/-- Closures have names that no source can mention. -/
def calleeText (name : String) : String :=
  if name.startsWith "anon$" then "closure" else "function '" ++ name ++ "'"

/-- The message without the last place. -/
def body (f : Fault) : String × Position :=
  f.calls.foldl
    (fun (text, pos) site => (text ++ atText pos ++ "\nin call to " ++ calleeText site.function, site.pos))
    (f.cause.message, f.pos)

def message (f : Fault) : String :=
  let (text, pos) := f.body
  text ++ atText pos

/-- What a handler gets: the thrown value, or a map that describes the fault. -/
def caught (f : Fault) : Datum :=
  match f.cause with
  | .thrown d => d
  | cause =>
    let (text, pos) := f.body
    let place := if pos.isKnown then
        [("line", .int (Int64.ofNat pos.line)), ("position", .int (Int64.ofNat pos.column))]
      else []
    let more := match f.calls.getLast? with
      | some site =>
        [("error", .string "ErrorInFunctionCall"), ("function", .string site.function),
          ("source", .string "")]
      | none => ("error", .string cause.label) :: cause.details
    .map ((("message", .string text) :: (place ++ more)).foldl
      (fun m p => Entries.insertSorted m p.1 p.2) [])

end Fault

end RowScript.Script
