import RowScript.Format.Basic
import RowScript.Json.Tree
import RowScript.Json.Write
import RowScript.Toml.Read
import RowScript.Toml.Write
import RowScript.Yaml.Meaning
import RowScript.Yaml.Write

/-!
# Documents as texts

Reading and writing of documents in each format. `layer?` reads no more than the outermost layer of a
structure, so that what nobody asks for need only have the right form.
-/

namespace RowScript

namespace Format

/-- What the outermost layer of a text allows. -/
def dialect : Format → Dialect
  | json | yaml => .json
  | toml => .toml

def document? (format : Format) (gs : List Glyph) : Option Document :=
  match format with
  | json => do (← Json.Tree.ofGlyphs? gs).document? Json.Tree.maxLevels
  | yaml => do
    let s ← Yaml.Stream.ofGlyphs? gs
    s.document? Yaml.Stream.maxLevels (← s.root)
  | toml => Toml.ofGlyphs? gs

/-- The outermost layer of a text as a structure with fields in order, of which those in `counts` hold
counts. -/
def layer? (format : Format) (fields counts : List String) (gs : List Glyph) : Option Layer :=
  match format with
  | json => (Json.Tree.ofGlyphs? gs).bind Json.Tree.layer?
  | yaml => (Yaml.Stream.ofGlyphs? gs).bind fun s => s.layer? fields counts
  | toml => (Toml.ofGlyphs? gs).map Document.layer

/-- The text of a document. -/
def text? : Format → Document → Option String
  | json, d => some (Json.pretty 0 d)
  | yaml, d => some (Yaml.text d)
  | toml, d => Toml.text? d

end Format

end RowScript
