import RowScript.Text.Case

/-!
# Formats

The languages that documents are written in, by the names and the file extensions that say which it is.
-/

namespace RowScript

inductive Format
  | json
  | yaml
  | toml
  deriving Repr, DecidableEq, Inhabited

namespace Format

def label : Format → String
  | json => "JSON"
  | yaml => "YAML"
  | toml => "TOML"

/-- The format of a name in lower case. -/
def ofId? : String → Option Format
  | "json" => some json
  | "yaml" | "yml" => some yaml
  | "toml" => some toml
  | _ => none

/-- What follows the last period of a path. -/
def extension? (path : String) : Option String :=
  if path.contains '.' then
    some (String.ofList (path.toList.reverse.takeWhile (· != '.')).reverse)
  else none

/-- The format that the extension of a path says, whatever its case, or YAML. -/
def ofPath (path : String) : Format :=
  ((extension? path).bind fun e => ofId? (toLowerCase e)).getD yaml

end Format

end RowScript
