import RowScript.CommandLine.Help

/-!
# Completions

Scripts that teach a shell to complete the command line: the commands first, and behind a command its
options and the words its operand can be.
-/

namespace RowScript.CommandLine.Completion

/-- A word to offer, and what it means. -/
structure Offer where
  word : String
  about : String
  deriving Repr, DecidableEq, Inhabited

def optionOffers (o : Opt) : List Offer :=
  (o.short?.map fun c => ⟨s!"-{c}", o.about⟩).toList ++ [⟨s!"--{o.long}", o.about⟩]

/-- What can follow at a scope. -/
def offers (s : Scope) : List Offer :=
  let commands := if s.isNone then commandItems.map fun i => ⟨i.label, i.about⟩ else []
  let words := match s.operand? with
    | some o => o.choices.map fun c => ⟨c.word, c.about⟩
    | none => []
  let values := s.options.flatMap fun o => o.choices.map fun c => ⟨c.word, c.about⟩
  commands ++ words ++ s.options.flatMap optionOffers ++ values

/-- The words that can follow at a scope. -/
def words (s : Scope) : String := String.intercalate " " ((offers s).map (·.word))

/-- A text between single quotes, in which `quote` stands for a quote. -/
def quoted (quote : String) (s : String) : String :=
  "'" ++ String.join (s.toList.map fun c => if c == '\'' then quote else c.toString) ++ "'"

/-- A part per command. -/
def perCommand (part : CommandName → String) : String := String.join (CommandName.all.map part)

def bash : String :=
  s!"_{programName}() \x7b\n    local cur opts\n    COMPREPLY=()\n" ++
    "    cur=\"$\x7bCOMP_WORDS[COMP_CWORD]\x7d\"\n    case \"$\x7bCOMP_WORDS[1]\x7d\" in\n" ++
    perCommand (fun c => s!"        {c.word})\n            opts=\"{words (some c)}\"\n            ;;\n") ++
    s!"        *)\n            opts=\"{words none}\"\n            ;;\n    esac\n" ++
    "    COMPREPLY=( $(compgen -W \"$\x7bopts\x7d\" -- \"$\x7bcur\x7d\") )\n    return 0\n\x7d\n\n" ++
    s!"complete -F _{programName} -o bashdefault -o default {programName}\n"

/-- Offers as words with explanations. -/
def zshOffers (indent : String) (s : Scope) : String :=
  String.join ((offers s).map fun o => indent ++ quoted "'\\''" s!"{o.word}:{o.about}" ++ "\n")

def zsh : String :=
  s!"#compdef {programName}\n\n_{programName}() \x7b\n    local -a offers\n    case $words[2] in\n" ++
    perCommand (fun c =>
      s!"        {c.word})\n            offers=(\n" ++ zshOffers "                " (some c) ++
        "            )\n            ;;\n") ++
    "        *)\n            offers=(\n" ++ zshOffers "                " none ++
    "            )\n            ;;\n    esac\n" ++
    s!"    _describe '{programName}' offers\n    _files\n\x7d\n\n_{programName} \"$@\"\n"

/-- A line that offers one thing where `condition` holds. -/
def fishLine (condition : String) (flags : String) (about : String) : String :=
  s!"complete -c {programName} -n \"{condition}\" {flags} -d " ++ quoted "\\'" about ++ "\n"

def fishOption (condition : String) (o : Opt) : String :=
  let short := match o.short? with
    | some c => s!"-s {c} "
    | none => ""
  fishLine condition (short ++ s!"-l {o.long}" ++ if o.valueName?.isSome then " -r" else "") o.about

def fish : String :=
  String.join (commandItems.map fun i =>
      fishLine "__fish_use_subcommand" s!"-f -a \"{i.label}\"" i.about) ++
    String.join ((Scope.options none).map (fishOption "__fish_use_subcommand")) ++
    perCommand fun c =>
      let condition := s!"__fish_seen_subcommand_from {c.word}"
      let choices := match c.operand? with
        | some o => o.choices
        | none => []
      String.join (choices.map fun w => fishLine condition s!"-f -a \"{w.word}\"" w.about) ++
        String.join ((Scope.options (some c)).map (fishOption condition))

/-- Offers as calls of `cand`. -/
def elvishOffers (s : Scope) : String :=
  String.join ((offers s).map fun o =>
    s!"            cand {o.word} " ++ quoted "''" o.about ++ "\n")

def elvish : String :=
  "\nuse builtin;\nuse str;\n\n" ++
    s!"set edit:completion:arg-completer[{programName}] = \x7b|@words|\n" ++
    "    fn cand \x7b|text desc|\n" ++
    "        edit:complex-candidate $text &display=$text' '$desc\n    \x7d\n" ++
    s!"    var command = '{programName}'\n" ++
    "    for word $words[1..-1] \x7b\n        if (str:has-prefix $word '-') \x7b\n" ++
    "            break\n        \x7d\n        set command = $command';'$word\n    \x7d\n" ++
    s!"    var completions = [\n        &'{programName}'= \x7b\n" ++ elvishOffers none ++ "        \x7d\n" ++
    perCommand (fun c =>
      s!"        &'{programName};{c.word}'= \x7b\n" ++ elvishOffers (some c) ++ "        \x7d\n") ++
    "    ]\n    $completions[$command]\n\x7d\n"

/-- Offers as objects of the shell. -/
def powershellOffers (s : Scope) : String :=
  String.join ((offers s).map fun o =>
    let word := quoted "''" o.word
    s!"            [CompletionResult]::new({word}, {word}, [CompletionResultType]::ParameterValue, " ++
      quoted "''" (if o.about.isEmpty then o.word else o.about) ++ ")\n")

def powershell : String :=
  "\nusing namespace System.Management.Automation\n" ++
    "using namespace System.Management.Automation.Language\n\n" ++
    s!"Register-ArgumentCompleter -Native -CommandName '{programName}' -ScriptBlock \x7b\n" ++
    "    param($wordToComplete, $commandAst, $cursorPosition)\n\n" ++
    "    $commandElements = $commandAst.CommandElements\n" ++
    s!"    $command = @(\n        '{programName}'\n" ++
    "        for ($i = 1; $i -lt $commandElements.Count; $i++) \x7b\n" ++
    "            $element = $commandElements[$i]\n" ++
    "            if ($element -isnot [StringConstantExpressionAst] -or\n" ++
    "                $element.Value.StartsWith('-')) \x7b\n                break\n            \x7d\n" ++
    "            $element.Value\n        \x7d) -join ';'\n\n" ++
    "    $completions = @(switch ($command) \x7b\n" ++
    s!"        '{programName}' \x7b\n" ++ powershellOffers none ++ "            break\n        \x7d\n" ++
    perCommand (fun c =>
      s!"        '{programName};{c.word}' \x7b\n" ++ powershellOffers (some c) ++
        "            break\n        \x7d\n") ++
    "    \x7d)\n\n    $completions.Where\x7b $_.CompletionText -like \"$wordToComplete*\" \x7d |\n" ++
    "        Sort-Object -Property ListItemText\n\x7d\n"

/-- The script for a shell. -/
def script : Shell → String
  | .bash => bash
  | .elvish => elvish
  | .fish => fish
  | .powershell => powershell
  | .zsh => zsh

end RowScript.CommandLine.Completion
