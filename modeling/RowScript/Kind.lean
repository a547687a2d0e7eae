import RowScript.Text.Case

/-!
# Kinds of transformers

The three variants in which a script is hosted, and the texts that name them.
-/

namespace RowScript

/-- How a script is hosted: one function, one function with hooks, or one that emits rows. -/
inductive Kind
  | simple
  | standard
  | advanced
  deriving Repr, DecidableEq, Inhabited

namespace Kind

def all : List Kind := [simple, standard, advanced]

/-- The name in configuration files. -/
def id : Kind → String
  | simple => "simple"
  | standard => "standard"
  | advanced => "advanced"

/-- The name for readers. -/
def name : Kind → String
  | simple => "Script (simple)"
  | standard => "Script"
  | advanced => "Script (advanced)"

def description : Kind → String
  | simple => "Single-function script returning one value per record. Always concurrent."
  | standard => "Script with optional initialize/close hooks returning one value per record."
  | advanced =>
    "Script that emits any number of multi-field rows per record through an output collector."

def ofId? (s : String) : Option Kind := all.find? (·.id == s)

/-- The kind named by `s`, in any case. -/
def ofText? (s : String) : Option Kind := all.find? fun k => equalIgnoringCase k.id s

end Kind

end RowScript
