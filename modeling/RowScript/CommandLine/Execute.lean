import RowScript.CommandLine.Completion
import RowScript.CommandLine.Manual
import RowScript.Run.Script

/-!
# Carrying out commands

`execute` carries out a command line. What it writes goes into the files and the standard output of a
store; the `Report` holds what else there is to tell.
-/

namespace RowScript.CommandLine

/-- How much is told beside the output. -/
inductive Verbosity
  | quiet
  | normal
  | verbose
  deriving Repr, DecidableEq, Inhabited

namespace Verbosity

/-- Quiet wins over verbose. -/
def ofFlags (isVerbose isQuiet : Bool) : Verbosity :=
  if isQuiet then quiet else if isVerbose then verbose else normal

/-- Whether events of a level are shown. -/
def shows : Verbosity → LogLevel → Bool
  | quiet, _ => false
  | normal, .debug => false
  | _, _ => true

end Verbosity

/-- What a command leaves beside its output. -/
structure Report where
  exit : UInt8 := 0
  verbosity : Verbosity := .normal
  /-- Lines that tell the result. -/
  results : List String := []
  /-- What went wrong, from the outside to its cause. -/
  chain : List String := []
  /-- How the program is used, if it was not used like that. -/
  usage : Option String := none
  log : Array LogEvent := #[]
  deriving Inhabited

namespace Report

/-- Something went wrong. -/
def failure (chain : List String) : Report := { exit := 1, chain }

/-- The program was aborted. -/
def aborted : Report := { exit := 101 }

/-- A result, unless it is kept quiet. -/
def result (v : Verbosity) (text : String) : Report :=
  { results := if v = .quiet then [] else [text] }

def withLog (log : Array LogEvent) (r : Report) : Report := { r with log := log ++ r.log }

end Report

section

variable {φ : Type} (store : Store φ)

/-- Write to the standard output. -/
def print (text : String) (files : φ) : Report × φ := ({}, (store.append .standard text files).2)

/-- The kinds of transformers with their texts. -/
def kindList : String :=
  "Transformer kinds:\n\n" ++
    String.join (Kind.all.map fun k => s!"  {k.id} ({k.name})\n    {k.description}\n")

/-- Load a job and go on with it. -/
def withJob (path : String) (files : φ) (use : PlacedJob → Report × φ) : Report × φ :=
  match PlacedJob.load store files path with
  | .ok p => use p
  | .error fault => (.failure fault.chain, files)

/-- Load a script and close it again. -/
def checkJob (path : String) (p : PlacedJob) (limits : Option Limits) (v : Verbosity) : Report :=
  let t := p.transformer limits
  let tryOut : Attempt (Pipeline Unit ScriptInstance RowBuffer) (List String) Unit := do
    t.load.mapError fun e => [s!"{path} failed to load", e.message]
    t.close.mapError fun e => [s!"{path} failed to close", e.message]
  let (o, pipeline) := tryOut (Pipeline.new { engine := () } .empty)
  let report : Report := match o with
    | .ok () => .result v s!"{path}: ok ({p.job.transformer.kind.id})"
    | .error chain => .failure chain
    | .aborted => .aborted
  report.withLog pipeline.world.log

/-- Run a job. The summary is told if the rows do not go to the standard output. -/
def runJob (p : PlacedJob) (limits : Option Limits) (options : RunOptions) (v : Verbosity)
    (files : φ) : Report × φ :=
  let (o, r) := p.run store files limits options
  let report : Report := match o with
    | .ok () =>
      match p.target options with
      | .standard => {}
      | .file _ => Report.result v r.summary.text
    | .error fault => .failure fault.chain
    | .aborted => .aborted
  (report.withLog r.world.log, r.files)

/-- Carry out a command under settings. -/
def Command.execute (c : Command) (settings : Settings) (v : Verbosity) (files : φ) : Report × φ :=
  match c with
  | .list => print store kindList files
  | .columns job =>
    withJob store job files fun p =>
      let columns := (p.transformer settings.limits).outputColumns
      print store (String.join (columns.map (· ++ "\n"))) files
  | .check job => withJob store job files fun p => (checkJob job p settings.limits v, files)
  | .showDefault kind => print store (exampleScript kind) files
  | .run job input output threads onError =>
    withJob store job files fun p =>
      let options : RunOptions := {
        input, output
        threads := (threads.orElse fun _ => settings.defaults.threads).getD 1
        onError := (onError.orElse fun _ => settings.defaults.onError).getD .fail }
      runJob store p settings.limits options v files
  | .completions shell => print store (Completion.script shell) files
  | .manpage => print store Manual.page files

/-- The settings of a file that need not be there. -/
def settingsAt (files : φ) (path : String) : Except SettingsFault Settings :=
  match store.read files path with
  | .error fault => if fault.isLate then Settings.load store files path else .ok {}
  | .ok data => Settings.read path data

/-- The settings for a command line: from the file it names, or from the user's own. -/
def settingsFor (userSettings : Option String) (i : Invocation) (files : φ) :
    Except SettingsFault Settings :=
  match i.config, userSettings with
  | some path, _ => Settings.load store files path
  | none, some path => settingsAt store files path
  | none, none => .ok {}

/-- Settings that cannot be read are warned of and are taken to be empty. -/
def settingsOrWarning : Except SettingsFault Settings → Settings × Array LogEvent
  | .ok settings => (settings, #[])
  | .error fault =>
    ({}, #[⟨.warn, String.intercalate ": " fault.chain ++ "; using default settings", []⟩])

/-- Carry out an invocation. -/
def Invocation.execute (userSettings : Option String) (i : Invocation) (files : φ) : Report × φ :=
  let (settings, log) := settingsOrWarning (settingsFor store userSettings i files)
  let v := Verbosity.ofFlags (i.verbose || settings.defaults.verbose)
    (i.quiet || settings.defaults.quiet)
  let (report, files) := i.command.execute store settings v files
  ({ report.withLog log with verbosity := v }, files)

/-- Carry out a command line. -/
def execute (userSettings : Option String) (args : List String) (files : φ) : Report × φ :=
  match readArguments args with
  | .ok i => i.execute store userSettings files
  | .error (.help topic long) => print store (helpText topic long) files
  | .error (.misuse detail) =>
    ({ exit := 2, usage := some s!"error: {detail}\n\n{Scope.usage none}" }, files)

/-- The paths that a command line reads, as far as the files at hand let them be known. -/
def inputPaths (userSettings : Option String) (args : List String) (files : φ) : List String :=
  match readArguments args with
  | .error _ => []
  | .ok i =>
    let settings := (i.config.orElse fun _ => userSettings).toList
    match i.command with
    | .columns job | .check job => settings ++ [job]
    | .run job input output _ _ =>
      let more := match PlacedJob.load store files job with
        | .ok p => (p.inputPath? { input, output }).toList
        | .error _ => []
      settings ++ [job] ++ more
    | _ => settings

/-- The path that a command line writes, as far as the files at hand let it be known. -/
def outputPath? (args : List String) (files : φ) : Option String :=
  match readArguments args with
  | .ok { command := .run job input output _ _, .. } =>
    match PlacedJob.load store files job with
    | .ok p =>
      match p.target { input, output } with
      | .file path => some path
      | .standard => none
    | .error _ => none
  | _ => none

end

end RowScript.CommandLine
