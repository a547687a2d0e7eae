/-!
# Log events

What scripts print and what a host warns of, as events with named fields.
-/

namespace RowScript

inductive LogLevel
  | debug
  | info
  | warn
  deriving Repr, DecidableEq, Inhabited

def LogLevel.label : LogLevel → String
  | debug => "DEBUG"
  | info => "INFO"
  | warn => "WARN"

structure LogEvent where
  level : LogLevel
  message : String
  fields : List (String × String)
  deriving Repr, DecidableEq, Inhabited

end RowScript
