import RowScript.CommandLine.Help

/-!
# The manual page

The manual page in the language of typesetting tools, where hyphens and apostrophes of the text have to
be written in another way than those of the language.
-/

namespace RowScript.CommandLine.Manual

/-- A text in which nothing is taken for a command. -/
def escape (s : String) : String :=
  String.join (s.toList.map fun
    | '-' => "\\-"
    | '\'' => "\\*(Aq"
    | '\\' => "\\\\"
    | c => c.toString)

def bold (s : String) : String := "\\fB" ++ escape s ++ "\\fR"

def italic (s : String) : String := "\\fI" ++ escape s ++ "\\fR"

/-- The names of an option. -/
def optionNames (o : Opt) : List String :=
  (o.short?.map fun c => bold s!"-{c}").toList ++ [bold s!"--{o.long}"]

def optionSynopsis (o : Opt) : String := "[" ++ String.intercalate "|" (optionNames o) ++ "]"

def optionEntry (o : Opt) : String :=
  let value := match o.valueName? with
    | some name => " " ++ italic s!"<{name}>"
    | none => ""
  ".TP\n" ++ String.intercalate ", " (optionNames o) ++ value ++ "\n" ++ escape o.about ++ "\n"

def commandEntry (i : Item) : String :=
  ".TP\n" ++ escape s!"{programName}-{i.label}(1)" ++ "\n" ++ escape i.about ++ "\n"

/-- The manual page. -/
def page : String :=
  let options := Scope.options none
  ".ie \\n(.g .ds Aq \\(aq\n.el .ds Aq '\n" ++
    s!".TH {programName} 1  \"{programName} \" \n" ++
    ".SH NAME\n" ++ programName ++ " \\- " ++ escape programAbout ++ "\n" ++
    ".SH SYNOPSIS\n" ++ bold programName ++ " " ++
    String.intercalate " " (options.map optionSynopsis) ++ " <" ++ italic "subcommands" ++ ">\n" ++
    ".SH DESCRIPTION\n" ++ escape programAbout ++ "\n" ++
    ".SH OPTIONS\n" ++ String.join (options.map optionEntry) ++
    ".SH SUBCOMMANDS\n" ++ String.join (commandItems.map commandEntry)

end RowScript.CommandLine.Manual
