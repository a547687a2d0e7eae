import RowScript.Format.Text
import RowScript.Job.Fields

/-!
# Jobs as texts

`Job.read` reads a job in one of the formats and `Job.write` writes one. A number without digits
has no text in JSON and is written as null there; TOML has no null, so a row that holds one cannot be
written.
-/

namespace RowScript.Job

/-- Fields that hold counts. -/
def countFields : List String := ["engine"]

def ofGlyphs? (format : Format) (gs : List Glyph) : Option Job :=
  (format.layer? fieldNames countFields gs).bind (ofLayer? format.dialect)

/-- Read a job. -/
def read (format : Format) (data : ByteArray) : Except JobFault Job :=
  match ofGlyphs? format (glyphs data) with
  | some job => .ok job
  | none => .error (.malformed format)

/-- Read a job in the format that a name says. -/
def readAs (format : String) (data : ByteArray) : Except JobFault Job :=
  match Format.ofId? format with
  | some format => read format data
  | none => .error (.unsupportedFormat format)

/-- Read a job in the format that a path says. -/
def readFrom (path : Option String) (data : ByteArray) : Except JobFault Job :=
  read ((path.map Format.ofPath).getD .yaml) data

/-- The text of a job. -/
def write (format : Format) (j : Job) : Except JobFault String :=
  match format.text? (j.document (format == .toml)) with
  | some text => .ok text
  | none => .error (.unwritable format)

/-- The text of a job in the format that a name says. -/
def writeAs (format : String) (j : Job) : Except JobFault String :=
  match Format.ofId? format with
  | some format => j.write format
  | none => .error (.unsupportedFormat format)

end RowScript.Job
