/-!
# Paths

Paths as texts with `/` between their names. `parentPath` and `joinPath` work on the text alone, so
that messages show paths as they were put together.
-/

namespace RowScript

/-- Leave out what a path can end in without meaning another place: empty names and periods. The
first name stays. -/
def trimmedNames : List String → List String
  | [] => []
  | first :: rest =>
    first :: (rest.reverse.dropWhile fun name => name.isEmpty || name == ".").reverse

/-- The directory that a path is in: empty if that is the current one or there is none. -/
def parentPath (path : String) : String :=
  match trimmedNames (trimmedNames (path.splitOn "/")).dropLast with
  | [] => ""
  | [""] => "/"
  | names => String.intercalate "/" names

/-- A path as seen from a directory. -/
def joinPath (base path : String) : String :=
  if path.startsWith "/" || base.isEmpty then path
  else if base.endsWith "/" then base ++ path
  else base ++ "/" ++ path

end RowScript
