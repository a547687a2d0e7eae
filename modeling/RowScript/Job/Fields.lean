import RowScript.Config.Fields
import RowScript.Job.Basic

/-!
# Jobs as documents

The fields of a job. A source is read as a file if it has a `path`, else as the rows it holds. Members
that nobody knows are passed over.
-/

namespace RowScript

namespace Source

def fileOf? (l : Layer) : Option Source := do
  let fields ← l.fields? .nested ["path"] false
  return .file (← Entries.required? fields "path" Document.asString?)

def rowsOf? (l : Layer) : Option Source := do
  let fields ← l.fields? .nested ["rows"] false
  let rows ← Entries.required? fields "rows" Document.asList?
  return .inline (← rows.mapM Document.asValueMap?)

def ofDocument? : Document → Option Source
  | .table members =>
    let l := (Document.table members).layer
    (fileOf? l).orElse fun _ => rowsOf? l
  | _ => none

def document : Source → Document
  | file path => fieldTable false [("path", .string path)]
  | inline rows => fieldTable false [("rows", .list (rows.map fun r => .ofValue (.object r)))]

end Source

def sinkDocument (path : String) : Document := fieldTable false [("path", .string path)]

/-- The path of a sink. -/
def sinkPath? : Document → Option String
  | .table members => do
    let fields ← (Document.table members).layer.fields? .nested ["path"] false
    Entries.required? fields "path" Document.asString?
  | _ => none

namespace Job

def fieldNames : List String := ["transformer", "engine", "source", "sink"]

/-- A job, given its outermost layer; its limits are read by the rules of `dialect`. -/
def ofLayer? (dialect : Dialect) (l : Layer) : Option Job := do
  let fields ← l.fields? dialect fieldNames false
  let member? {α : Type} (name : String) (read? : Document → Option α) : Option (Option α) :=
    Entries.optional? fields name none (Document.optional? read?)
  return {
    transformer := ← Entries.required? fields "transformer" TransformerConfig.ofDocument?
    limits := ← member? "engine" fun d => Limits.ofLayer? dialect d.layer
    source := ← member? "source" Source.ofDocument?
    sink := ← member? "sink" sinkPath? }

/-- A job as a document. Limits are left out where there are none, and with `omitNull` so is every
field without a value. -/
def document (omitNull : Bool) (j : Job) : Document :=
  let limits := match j.limits with
    | some l => [("engine", l.document omitNull)]
    | none => []
  fieldTable omitNull <|
    [("transformer", j.transformer.document omitNull)] ++ limits ++
      [("source", .ofOption Source.document j.source), ("sink", .ofOption sinkDocument j.sink)]

end Job

end RowScript
