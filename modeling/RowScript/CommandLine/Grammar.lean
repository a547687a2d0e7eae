import RowScript.Kind
import RowScript.Settings

/-!
# The command line

The commands of the program, with what can follow them. Everything that shows or reads the command line
goes by this one account of it.
-/

namespace RowScript.CommandLine

/-- The name of the program. -/
def programName : String := "graft"

def programAbout : String := "Run user scripts over tabular data"

inductive Shell
  | bash
  | elvish
  | fish
  | powershell
  | zsh
  deriving Repr, DecidableEq, Inhabited

namespace Shell

def all : List Shell := [bash, elvish, fish, powershell, zsh]

def id : Shell → String
  | bash => "bash"
  | elvish => "elvish"
  | fish => "fish"
  | powershell => "powershell"
  | zsh => "zsh"

def ofId? (s : String) : Option Shell := all.find? (·.id == s)

end Shell

/-- One of a few words that a value can be, and what it means if that is not clear. -/
structure Choice where
  word : String
  about : String := ""
  deriving Repr, DecidableEq, Inhabited

inductive CommandName
  | list
  | columns
  | check
  | showDefault
  | run
  | completions
  | manpage
  deriving Repr, DecidableEq, Inhabited

/-- What a command is about. -/
structure Operand where
  name : String
  about : String
  choices : List Choice := []
  deriving Repr, DecidableEq, Inhabited

namespace CommandName

def all : List CommandName := [list, columns, check, showDefault, run, completions, manpage]

def word : CommandName → String
  | list => "list"
  | columns => "columns"
  | check => "check"
  | showDefault => "show-default"
  | run => "run"
  | completions => "completions"
  | manpage => "manpage"

def about : CommandName → String
  | list => "List transformer kinds"
  | columns => "Print the output columns of a job"
  | check => "Compile and load a job's script without processing rows"
  | showDefault => "Print the example script of a transformer kind"
  | run => "Run a job over CSV rows"
  | completions => "Generate shell completions"
  | manpage => "Generate man page"

def ofWord? (s : String) : Option CommandName := all.find? (·.word == s)

def operand? : CommandName → Option Operand
  | list | manpage => none
  | columns | check | run => some { name := "JOB", about := "Job file (YAML, TOML, or JSON)" }
  | showDefault => some { name := "KIND", about := "simple, standard or advanced" }
  | completions =>
    some {
      name := "SHELL"
      about := "Shell to generate completions for"
      choices := Shell.all.map fun s => { word := s.id } }

end CommandName

/-- The word that asks for help like a command. -/
def helpWord : String := "help"

def helpAbout : String := "Print this message or the help of the given subcommand(s)"

inductive Opt
  | verbose
  | quiet
  | config
  | input
  | output
  | threads
  | onError
  | help
  deriving Repr, DecidableEq, Inhabited

namespace Opt

/-- The long name. -/
def long : Opt → String
  | verbose => "verbose"
  | quiet => "quiet"
  | config => "config"
  | input => "input"
  | output => "output"
  | threads => "threads"
  | onError => "on-error"
  | help => "help"

/-- The short name. -/
def short? : Opt → Option Char
  | verbose => some 'v'
  | quiet => some 'q'
  | input => some 'i'
  | output => some 'o'
  | help => some 'h'
  | config | threads | onError => none

/-- What the value is called, if there is one. -/
def valueName? : Opt → Option String
  | verbose | quiet | help => none
  | config => some "CONFIG"
  | input => some "INPUT"
  | output => some "OUTPUT"
  | threads => some "THREADS"
  | onError => some "ON_ERROR"

def about : Opt → String
  | verbose => "Verbose output (show debug info)"
  | quiet => "Quiet output (only errors)"
  | config => "Path to config file (default: ~/.config/graft/config.toml)"
  | input => "Input CSV (overrides the job's source)"
  | output => "Output CSV (overrides the job's sink; default stdout)"
  | threads => "Worker threads (requires the \x60parallel\x60 feature)"
  | onError => "What to do when a record fails"
  | help => "Print help"

def choices : Opt → List Choice
  | onError =>
    [{ word := OnError.fail.id, about := "Abort the run" },
      { word := OnError.skip.id, about := "Log the failure and continue with the next record" }]
  | _ => []

end Opt

/-- Where an option or an operand stands: before a command, or behind it. -/
abbrev Scope := Option CommandName

namespace Scope

/-- The options that can stand there, in the order in which help shows them. -/
def options : Scope → List Opt
  | some .run => [.input, .verbose, .output, .quiet, .config, .threads, .onError, .help]
  | _ => [.verbose, .quiet, .config, .help]

def operand? (s : Scope) : Option Operand := s.bind CommandName.operand?

def about : Scope → String
  | none => programAbout
  | some c => c.about

end Scope

end RowScript.CommandLine
