import RowScript.Script.Program
import RowScript.Text.Quoted

/-!
# Descriptions

One-line texts about an engine and a compiled script, for diagnostics. They show limits and entry
points and never the source.
-/

namespace RowScript

/-- A number that may be missing. -/
def describeOption : Option UInt64 → String
  | some n => s!"Some({n})"
  | none => "None"

/-- Named parts between braces. -/
def describeFields (name : String) (fields : List (String × String)) (complete : Bool) : String :=
  let parts := fields.map (fun (k, v) => k ++ ": " ++ v) ++ if complete then [] else [".."]
  name ++ " \x7b " ++ String.intercalate ", " parts ++ " \x7d"

def Limits.description (l : Limits) : String :=
  describeFields "EngineOptions"
    [("max_operations", describeOption l.maxOperations),
      ("max_call_levels", toString l.maxCallLevels),
      ("max_string_size", describeOption l.maxStringSize),
      ("timeout_ms", describeOption l.timeoutMs)] true

/-- The text about an engine that runs scripts under limits. -/
def describeEngine (l : Limits) : String :=
  describeFields "RhaiEngine" [("options", l.description)] false

/-- The text about a compiled script. -/
def ScriptUnit.description (u : ScriptUnit) : String :=
  let entries := u.functions.map fun e => s!"({quoteText e.name}, {e.arity})"
  describeFields "RhaiUnit" [("functions", "\x7b" ++ String.intercalate ", " entries ++ "\x7d")] false

end RowScript
