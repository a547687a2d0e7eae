import RowScript.Files.Store
import RowScript.Format.Text
import RowScript.Config.Fields

/-!
# Settings

What a user sets for all runs, in a TOML file: how much is told, how runs go about their records, and
the limits of jobs without limits of their own. Members that nobody knows are passed over, except among
the limits.
-/

namespace RowScript

/-- What becomes of a run when one of its records fails. -/
inductive OnError
  | fail
  | skip
  deriving Repr, DecidableEq, Inhabited

namespace OnError

def all : List OnError := [fail, skip]

def id : OnError → String
  | fail => "fail"
  | skip => "skip"

def ofId? (s : String) : Option OnError := all.find? (·.id == s)

def ofDocument? (dialect : Dialect) (d : Document) : Option OnError :=
  (d.choice? dialect (all.map id)).bind (all[·]?)

end OnError

/-- What a user can set for commands. -/
structure Defaults where
  verbose : Bool := false
  quiet : Bool := false
  threads : Option UInt64 := none
  onError : Option OnError := none
  deriving Repr, DecidableEq, Inhabited

structure Settings where
  defaults : Defaults := {}
  limits : Option Limits := none
  deriving Repr, DecidableEq, Inhabited

namespace Defaults

def fieldNames : List String := ["verbose", "quiet", "threads", "on_error"]

def ofLayer? (dialect : Dialect) (l : Layer) : Option Defaults := do
  let fields ← l.fields? dialect fieldNames false
  return {
    verbose := ← Entries.optional? fields "verbose" false Document.asBool?
    quiet := ← Entries.optional? fields "quiet" false Document.asBool?
    threads := ← Entries.optional? fields "threads" none (Document.optional? Document.asUInt64?)
    onError :=
      ← Entries.optional? fields "on_error" none (Document.optional? (OnError.ofDocument? dialect)) }

end Defaults

/-- Why there are no settings in a file. -/
inductive SettingsFault
  | unread (path : String) (fault : FileFault)
  | malformed (path : String)
  deriving Repr, DecidableEq, Inhabited

/-- What is said of a fault, from the outside to its cause. -/
def SettingsFault.chain : SettingsFault → List String
  | unread path fault => [s!"failed to read config file {path}", fault.message]
  | malformed path => [s!"failed to parse config file {path}", "toml error"]

namespace Settings

def fieldNames : List String := ["defaults", "engine"]

def ofLayer? (dialect : Dialect) (l : Layer) : Option Settings := do
  let fields ← l.fields? dialect fieldNames false
  return {
    defaults := ← Entries.optional? fields "defaults" {} fun d => Defaults.ofLayer? dialect d.layer
    limits := ← Entries.optional? fields "engine" none
      (Document.optional? fun d => Limits.ofLayer? dialect d.layer) }

/-- Read settings. -/
def read (path : String) (data : ByteArray) : Except SettingsFault Settings :=
  let gs := glyphs data
  if (wholeText? gs).isNone then .error (.unread path .notText)
  else
    match (Format.layer? .toml fieldNames ["engine"] gs).bind (ofLayer? Format.toml.dialect) with
    | some s => .ok s
    | none => .error (.malformed path)

/-- Read the settings in a file. -/
def load {φ : Type} (store : Store φ) (files : φ) (path : String) : Except SettingsFault Settings :=
  match store.read files path with
  | .ok data => read path data
  | .error fault => .error (.unread path fault)

end Settings

end RowScript
