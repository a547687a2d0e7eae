import RowScript.Config
import RowScript.Format.Basic

/-!
# Jobs

A job is all that one run needs: a transformer, limits for its script, where its rows come from and
where they go.
-/

namespace RowScript

/-- Where rows come from. -/
inductive Source
  /-- A CSV file with a header. -/
  | file (path : String)
  /-- Rows that the job itself holds. -/
  | inline (rows : List ValueMap)
  deriving Inhabited

structure Job where
  transformer : TransformerConfig
  /-- Limits of the script, if they are not those of whoever runs the job. -/
  limits : Option Limits := none
  source : Option Source := none
  /-- The CSV file that gets the rows. -/
  sink : Option String := none
  deriving Inhabited

/-- Equality of sources, rows compared as values. -/
def Source.same : Source → Source → Bool
  | file a, file b => a == b
  | inline as, inline bs => as.length == bs.length && (as.zip bs).all fun (a, b) => a.same b
  | _, _ => false

/-- Equality of jobs, rows compared as values. -/
def Job.same (a b : Job) : Bool :=
  a.transformer == b.transformer && a.limits == b.limits && a.sink == b.sink &&
    match a.source, b.source with
    | none, none => true
    | some x, some y => x.same y
    | _, _ => false

/-- Why there is no job. -/
inductive JobFault
  | malformed (format : Format)
  | unwritable (format : Format)
  | unsupportedFormat (name : String)
  deriving Repr, DecidableEq, Inhabited

def JobFault.message : JobFault → String
  | malformed format => s!"failed to parse job: not a job in {format.label}"
  | unwritable format => s!"failed to parse job: cannot be written as {format.label}"
  | unsupportedFormat name => s!"unsupported job format: {name}"

end RowScript
