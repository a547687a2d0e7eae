import RowScript.CommandLine.Grammar

/-!
# Reading the command line

`readArguments` reads arguments from left to right, and ends at the first that asks for help or cannot
be understood.

* Options may stand before and behind the operand. Behind `--` there are only operands.
* A value may follow its option, or be joined to it: `--input=x`, `-ix`, `-i=x`. Short options may be
  joined to each other.
* An option cannot be repeated, except before and behind the command. Then the last counts.
* A value that is an argument of its own is looked at when the next argument has been read, but not
  before a command is read to its end.
-/

namespace RowScript.CommandLine

/-- What a value belongs to. -/
inductive Slot
  | option (o : Opt)
  | operand
  deriving Repr, DecidableEq, Inhabited

/-- What help is about. -/
inductive Topic
  | scope (s : Scope)
  /-- Help itself. -/
  | help
  deriving Repr, DecidableEq, Inhabited

/-- Why there is no command to carry out. -/
inductive Stop
  | help (topic : Topic) (long : Bool)
  | misuse (detail : String)
  deriving Repr, DecidableEq, Inhabited

/-- What has been read at one scope. -/
structure Given where
  values : List (Slot × String) := []
  /-- A slot that waits for its value, or for its value to be looked at. -/
  pending : Option (Slot × Option String) := none
  deriving Repr, DecidableEq, Inhabited

namespace Given

def has (g : Given) (slot : Slot) : Bool := g.values.any (·.1 == slot)

def value? (g : Given) (slot : Slot) : Option String := g.values.lookup slot

/-- An option has been read that has no value yet. -/
def isWaiting (g : Given) : Bool :=
  match g.pending with
  | some (_, none) => true
  | _ => false

/-- The operand has been read. -/
def hasOperand (g : Given) : Bool :=
  g.has .operand || (g.pending.map (·.1)) == some .operand

end Given

/-- A value that can be understood. -/
def accepts (scope : Scope) (slot : Slot) (value : String) : Bool :=
  match slot, scope with
  | .option .verbose, _ | .option .quiet, _ | .option .help, _ => true
  | .option .config, _ | .option .input, _ | .option .output, _ => !value.isEmpty
  | .option .threads, _ => (readUInt64 value).isOk
  | .option .onError, _ => (OnError.ofId? value).isSome
  | .operand, some .showDefault => (Kind.ofText? value).isSome
  | .operand, some .completions => (Shell.ofId? value).isSome
  | .operand, _ => !value.isEmpty

/-- The name of a slot in messages. -/
def slotName (scope : Scope) : Slot → String
  | .option o => s!"--{o.long}"
  | .operand => ((scope.operand?.map (·.name)).getD "")

/-- Give a slot its value. -/
def give (scope : Scope) (slot : Slot) (value : String) (g : Given) : Except Stop Given :=
  if g.has slot then
    .error (.misuse s!"the argument '{slotName scope slot}' cannot be used multiple times")
  else if accepts scope slot value then .ok { g with values := g.values ++ [(slot, value)] }
  else .error (.misuse s!"invalid value '{value}' for '{slotName scope slot}'")

/-- Look at a value that is pending. -/
def settle (scope : Scope) (g : Given) : Except Stop Given :=
  match g.pending with
  | none => .ok g
  | some (slot, some value) => give scope slot value { g with pending := none }
  | some (slot, none) =>
    .error (.misuse s!"a value is required for '{slotName scope slot}' but none was supplied")

/-- Read an option with the value joined to it, if any. -/
def readOption (scope : Scope) (o : Opt) (long : Bool) (joined : Option String) (g : Given) :
    Except Stop Given := do
  match o.valueName?, joined with
  | none, some _ => .error (.misuse s!"unexpected value for '--{o.long}'")
  | none, none =>
    let g ← settle scope g
    if o = .help then .error (.help (.scope scope) long) else give scope (.option o) "" g
  | some _, some value => give scope (.option o) value (← settle scope g)
  | some _, none => return { ← settle scope g with pending := some (.option o, none) }

/-- Split at the first equals sign. -/
def splitValue (s : String) : String × Option String :=
  let name := s.toList.takeWhile (· != '=')
  match s.toList.dropWhile (· != '=') with
  | [] => (String.ofList name, none)
  | _ :: value => (String.ofList name, some (String.ofList value))

/-- Read what follows two hyphens. -/
def readLong (scope : Scope) (text : String) (g : Given) : Except Stop Given :=
  let (name, joined) := splitValue text
  match scope.options.find? (·.long == name) with
  | some o => readOption scope o true joined g
  | none => .error (.misuse s!"unexpected argument '--{name}' found")

/-- Read what follows one hyphen. -/
def readShorts (scope : Scope) : List Char → Given → Except Stop Given
  | [], g => .ok g
  | c :: rest, g =>
    match scope.options.find? (·.short? == some c) with
    | none => .error (.misuse s!"unexpected argument '-{c}' found")
    | some o =>
      if o.valueName?.isNone then do readShorts scope rest (← readOption scope o false none g)
      else
        match rest with
        | [] => readOption scope o false none g
        | '=' :: value => readOption scope o false (some (String.ofList value)) g
        | value => readOption scope o false (some (String.ofList value)) g

/-- Read an operand. -/
def readOperand (scope : Scope) (word : String) (g : Given) : Except Stop Given := do
  if scope.operand?.isSome && !g.hasOperand then
    return { ← settle scope g with pending := some (.operand, some word) }
  else .error (.misuse s!"unexpected argument '{word}' found")

/-- What is asked about with the word for help and the words behind it. -/
def helpTopic : List String → Stop
  | [] => .help (.scope none) true
  | [word] =>
    if word == helpWord then .help .help true
    else
      match CommandName.ofWord? word with
      | some c => .help (.scope (some c)) true
      | none => .misuse s!"unrecognized subcommand '{word}'"
  | _ :: word :: _ => .misuse s!"unrecognized subcommand '{word}'"

/-- Read the arguments at a scope, up to the command if there is one to come. -/
def readFrom (scope : Scope) (onlyOperands : Bool) :
    List String → Given → Except Stop (Given × Option (CommandName × List String))
  | [], g => .ok (g, none)
  | word :: rest, g => do
    if onlyOperands then readFrom scope true rest (← readOperand scope word g)
    else if scope.isNone && !g.isWaiting && word == helpWord then .error (helpTopic rest)
    else
      match if scope.isNone && !g.isWaiting then CommandName.ofWord? word else none with
      | some c => .ok (g, some (c, rest))
      | none =>
        if word == "--" then readFrom scope true rest g
        else
          match word.toList with
          | '-' :: '-' :: text =>
            readFrom scope false rest (← readLong scope (String.ofList text) g)
          | '-' :: c :: text => readFrom scope false rest (← readShorts scope (c :: text) g)
          | _ =>
            match g.pending with
            | some (slot, none) =>
              readFrom scope false rest { g with pending := some (slot, some word) }
            | _ => readFrom scope false rest (← readOperand scope word g)

/-- A command with what it needs. -/
inductive Command
  | list
  | columns (job : String)
  | check (job : String)
  | showDefault (kind : Kind)
  | run (job : String) (input output : Option String) (threads : Option UInt64)
    (onError : Option OnError)
  | completions (shell : Shell)
  | manpage
  deriving Repr, DecidableEq, Inhabited

structure Invocation where
  verbose : Bool
  quiet : Bool
  /-- The file that holds the settings. -/
  config : Option String
  command : Command
  deriving Repr, DecidableEq, Inhabited

/-- The command that was given. -/
def commandOf? (name : CommandName) (g : Given) : Option Command :=
  let operand := g.value? .operand
  match name with
  | .list => some .list
  | .columns => operand.map .columns
  | .check => operand.map .check
  | .showDefault => (operand.bind Kind.ofText?).map .showDefault
  | .run =>
    operand.map fun job =>
      .run job (g.value? (.option .input)) (g.value? (.option .output))
        ((g.value? (.option .threads)).bind fun s => (readUInt64 s).toOption)
        ((g.value? (.option .onError)).bind OnError.ofId?)
  | .completions => (operand.bind Shell.ofId?).map .completions
  | .manpage => some .manpage

/-- Read the arguments of the program. -/
def readArguments (args : List String) : Except Stop Invocation := do
  match ← readFrom none false args {} with
  | (_, none) => .error (.misuse "a subcommand is required")
  | (outer, some (name, rest)) =>
    let (inner, _) ← readFrom (some name) false rest {}
    let inner ← settle (some name) inner
    match commandOf? name inner with
    | none => .error (.misuse "a required argument was not provided")
    | some command =>
      let outer ← settle none outer
      let has (o : Opt) : Bool := outer.has (.option o) || inner.has (.option o)
      return {
        verbose := has .verbose
        quiet := has .quiet
        config := (inner.value? (.option .config)).orElse fun _ => outer.value? (.option .config)
        command }

end RowScript.CommandLine
