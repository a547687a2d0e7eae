import RowScript.CommandLine.Execute

/-!
# The program

The command line of the program. The files that a command line reads are loaded first, the command line
is carried out on them in memory, and then what it wrote is written. If that cannot be done, the command
line is carried out again with the knowledge of it.
-/

namespace RowScript.Program

/-- A fault of the system as one of a file. -/
def faultOf : IO.Error → FileFault
  | .noFileOrDirectory .. => .missing
  | .inappropriateType _ code details =>
    if code = 21 then .isDirectory
    else if code = 20 then .notDirectory
    else .other s!"{details} (os error {code})"
  | .permissionDenied _ code details => .other s!"{details} (os error {code})"
  | e => .other (toString e)

/-- What there is where a file cannot be used. -/
def nodeOf? : FileFault → Option Node
  | .missing => none
  | .isDirectory => some .directory
  | fault => some (.blocked fault)

/-- Load a file. -/
def loadFile (files : Files) (path : String) : IO Files :=
  try
    return files.learn path (some (.file (← IO.FS.readBinFile path)))
  catch e =>
    let fault := faultOf e
    return if fault = .missing then files else files.learn path (nodeOf? fault)

/-- Load the files that a command line reads. Some are known only when others have been loaded. -/
def loadInputs (userSettings : Option String) (args : List String) : IO Files := do
  let first ← (CommandLine.inputPaths Files.store userSettings args {}).foldlM loadFile {}
  (CommandLine.inputPaths Files.store userSettings args first).foldlM loadFile {}

/-- The file in which a user keeps settings. -/
def userSettings? : IO (Option String) := do
  let directory? :=
    match ← IO.getEnv "XDG_CONFIG_HOME", ← IO.getEnv "HOME" with
    | some directory, home? =>
      if directory.startsWith "/" then some directory else home?.map (joinPath · ".config")
    | none, home? => home?.map (joinPath · ".config")
  return directory?.map (joinPath · (CommandLine.programName ++ "/config.toml"))

/-- Tell what there is to tell beside the output. -/
def tell (r : CommandLine.Report) : IO Unit := do
  for e in r.log do
    if r.verbosity.shows e.level then
      let fields := e.fields.map fun (name, text) => s!" {name}={text}"
      IO.eprintln s!"{e.level.label} {e.message}{String.join fields}"
  for text in r.results do
    IO.eprintln text
  if let some text := r.usage then
    IO.eprint text
  match r.chain with
  | [] => return ()
  | [text] => IO.eprintln s!"Error: {text}"
  | [text, cause] => IO.eprintln s!"Error: {text}\n\nCaused by:\n    {cause}"
  | text :: causes =>
    IO.eprintln s!"Error: {text}\n\nCaused by:"
    for (i, cause) in causes.zipIdx.map fun (cause, i) => (i, cause) do
      IO.eprintln s!"    {i}: {cause}"

/-- Whether a file in memory is new or other than before. -/
def isChanged (before after : Files) (path : String) : Bool :=
  match before.read path, after.read path with
  | .ok old, .ok new => old != new
  | .error _, .ok _ => true
  | _, .error _ => false

/-- Write a file as it is in memory, unless it has not changed. -/
def writeFile (before after : Files) (path : String) : IO (Option FileFault) := do
  match isChanged before after path, after.read path with
  | true, .ok data =>
    try
      IO.FS.writeBinFile path data
      return none
    catch e =>
      return some (faultOf e)
  | _, _ => return none

/-- Carry out a command line on the files of the system. -/
def execute (userSettings : Option String) (args : List String) : IO CommandLine.Report := do
  let files ← loadInputs userSettings args
  let finish (report : CommandLine.Report) (after : Files) : IO CommandLine.Report := do
    IO.print after.printed
    return report
  match CommandLine.outputPath? Files.store args files with
  | none =>
    let (report, after) := CommandLine.execute Files.store userSettings args files
    finish report after
  | some path =>
    let known := files.learn path none
    let (report, after) := CommandLine.execute Files.store userSettings args known
    match ← writeFile known after path with
    | none => finish report after
    | some fault =>
      let blocked := known.learn path (some (.blocked fault))
      let (report, after) := CommandLine.execute Files.store userSettings args blocked
      finish report after

end RowScript.Program

/-- Carry out a command line. -/
def main (args : List String) : IO UInt32 := do
  let report ← RowScript.Program.execute (← RowScript.Program.userSettings?) args
  RowScript.Program.tell report
  return report.exit.toUInt32
