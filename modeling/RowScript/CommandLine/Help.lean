import RowScript.CommandLine.Read

/-!
# Help texts

What the program tells of its commands and options. Where a choice needs an explanation there is a long
help beside the short one, which gives every item a paragraph.
-/

namespace RowScript.CommandLine

def spaces (n : Nat) : String := String.ofList (List.replicate n ' ')

/-- An item of a list and what there is to say of it. -/
structure Item where
  label : String
  about : String
  /-- Words to choose from. -/
  choices : List Choice := []
  deriving Repr, DecidableEq, Inhabited

namespace Item

/-- The words to choose from need explanation. -/
def isExplained (i : Item) : Bool := i.choices.any (!·.about.isEmpty)

/-- The words to choose from in one line. -/
def choiceList (i : Item) : String :=
  "[possible values: " ++ String.intercalate ", " (i.choices.map (·.word)) ++ "]"

/-- The item in short help, its text from a common column on. -/
def short (column : Nat) (i : Item) : String :=
  let choices := if i.choices.isEmpty then "" else " " ++ i.choiceList
  "  " ++ i.label ++ spaces (column - i.label.length) ++ i.about ++ choices ++ "\n"

/-- The item in long help. -/
def long (i : Item) : String :=
  let choices :=
    if i.isExplained then
      "\n          Possible values:\n" ++
        String.join (i.choices.map fun c => s!"          - {c.word}: {c.about}\n")
    else if i.choices.isEmpty then ""
    else "\n          " ++ i.choiceList ++ "\n"
  "  " ++ i.label ++ "\n          " ++ i.about ++ "\n" ++ choices

/-- Items with a heading. -/
def block (heading : String) (long : Bool) (items : List Item) : String :=
  if items.isEmpty then ""
  else
    let column := (items.map (·.label.length)).foldl max 0 + 2
    "\n" ++ heading ++ ":\n" ++
      if long then String.intercalate "\n" (items.map Item.long)
      else String.join (items.map (Item.short column))

end Item

namespace Opt

/-- An option with its names and its value. -/
def label (o : Opt) : String :=
  let short := match o.short? with
    | some c => s!"-{c}, "
    | none => "    "
  let value := match o.valueName? with
    | some name => s!" <{name}>"
    | none => ""
  short ++ "--" ++ o.long ++ value

def item (o : Opt) : Item := ⟨o.label, o.about, o.choices⟩

end Opt

def Operand.item (o : Operand) : Item := ⟨s!"<{o.name}>", o.about, o.choices⟩

/-- The commands, with the one that asks for help. -/
def commandItems : List Item :=
  (CommandName.all.map fun c => ⟨c.word, c.about, []⟩) ++ [⟨helpWord, helpAbout, []⟩]

namespace Scope

def usage : Scope → String
  | none => s!"Usage: {programName} [OPTIONS] <COMMAND>\n"
  | some c =>
    let operand := match c.operand? with
      | some o => s!" <{o.name}>"
      | none => ""
    s!"Usage: {programName} {c.word} [OPTIONS]{operand}\n"

/-- There is a long help that says more than the short one. -/
def hasLongHelp (s : Scope) : Bool := s.options.any (·.item.isExplained)

/-- The options, with what help says of itself. -/
def optionItems (s : Scope) (long : Bool) : List Item :=
  s.options.map fun o =>
    if o = .help && s.hasLongHelp then
      let other := if long then "see a summary with '-h'" else "see more with '--help'"
      { o.item with about := s!"{o.about} ({other})" }
    else o.item

/-- Help for what can stand at a scope. -/
def help (s : Scope) (long : Bool) : String :=
  let long := long && s.hasLongHelp
  s.about ++ "\n\n" ++ s.usage ++ Item.block "Commands" long (if s.isNone then commandItems else []) ++
    Item.block "Arguments" long (s.operand?.map Operand.item).toList ++
    Item.block "Options" long (s.optionItems long)

end Scope

/-- Help on a topic. -/
def helpText (topic : Topic) (long : Bool) : String :=
  match topic with
  | .scope s => s.help long
  | .help =>
    helpAbout ++ "\n\n" ++ s!"Usage: {programName} {helpWord} [COMMAND]...\n" ++
      Item.block "Arguments" false [⟨"[COMMAND]...", "Print help for the subcommand(s)", []⟩]

end RowScript.CommandLine
