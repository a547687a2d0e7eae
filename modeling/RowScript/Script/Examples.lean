import RowScript.Kind

/-!
# Example scripts

The scripts that run when a transformer has no code of its own.
-/

namespace RowScript

/-- Greets by the first column with a name in its name. -/
def simpleExample : String :=
"// Called once per record. `map` holds the input columns in order.
fn transform(map) \x7b
    for key in map.keys() \x7b
        if key.to_upper().contains(\"NAME\") \x7b
            return `Hello $\x7bmap[key]\x7d`;
        \x7d
    \x7d
    \"Hello\"
\x7d
"

/-- Writes the record. -/
def standardExample : String :=
"// Called once before the first record. Keep state on `this`.
fn initialize() \x7b
    this.records = 0;
\x7d

// Called once per record. `map` holds the input columns in order.
fn transform(map) \x7b
    map.to_string()
\x7d

// Called once after the last record.
fn close() \x7b
\x7d
"

/-- Emits a row of name and value per column. -/
def advancedExample : String :=
"fn initialize() \x7b
\x7d

// Called once per record. Each `output.put_values(...)` call emits one row.
fn transform(map, output) \x7b
    for key in map.keys() \x7b
        output.put_values(key, map[key]);
    \x7d
\x7d

fn close() \x7b
\x7d
"

/-- The example script of a kind. -/
def exampleScript : Kind → String
  | .simple => simpleExample
  | .standard => standardExample
  | .advanced => advancedExample

end RowScript
