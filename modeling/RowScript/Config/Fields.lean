import RowScript.Config
import RowScript.Document

/-!
# Configurations as documents

The fields of input columns, transformers and limits, by name and in the order in which a list can
give them. A field of a transformer or of limits that nobody knows is refused; a column passes over
it.
-/

namespace RowScript

/-- The members of a structure as a table. Fields without a value can be left out. -/
def fieldTable (omitNull : Bool) (fields : List (String × Document)) : Document :=
  .table ((fields.filter fun
    | (_, .null) => !omitNull
    | _ => true).map fun (name, d) => (.name name, d))

namespace ColumnType

def ofDocument? (dialect : Dialect) (d : Document) : Option ColumnType :=
  (d.choice? dialect (all.map id)).bind (all[·]?)

end ColumnType

namespace ShapePolicy

def ofDocument? (dialect : Dialect) (d : Document) : Option ShapePolicy :=
  (d.choice? dialect (all.map id)).bind (all[·]?)

end ShapePolicy

namespace InputColumn

def fieldNames : List String := ["name", "type"]

def ofLayer? (dialect : Dialect) (l : Layer) : Option InputColumn := do
  let fields ← l.fields? dialect fieldNames false
  return {
    name := ← Entries.required? fields "name" Document.asString?
    type := ← Entries.optional? fields "type" .any (ColumnType.ofDocument? dialect) }

def ofDocument? (d : Document) : Option InputColumn := ofLayer? .nested d.layer

def document (c : InputColumn) : Document :=
  fieldTable false [("name", .string c.name), ("type", .string c.type.id)]

end InputColumn

namespace TransformerConfig

/-- The fields of a kind of transformer, its kind apart. -/
def fieldNames : Kind → List String
  | .simple => ["inputs", "code"]
  | .standard => ["inputs", "concurrent", "code"]
  | .advanced => ["inputs", "concurrent", "output_fields", "shape", "emit_returned", "code"]

def variantOf? (kind : Kind) (fields : Entries Document) : Option Variant :=
  match kind with
  | .simple => some .simple
  | .standard => do
    return .standard (← Entries.optional? fields "concurrent" true Document.asBool?)
  | .advanced => do
    return .advanced {
      concurrent := ← Entries.optional? fields "concurrent" true Document.asBool?
      outputFields := ← Entries.optional? fields "output_fields" 2 Document.asUInt64?
      shape := ← Entries.optional? fields "shape" .unchecked (ShapePolicy.ofDocument? .nested)
      emitReturned := ← Entries.optional? fields "emit_returned" false Document.asBool? }

/-- A transformer of a known kind. -/
def ofFields? (kind : Kind) (l : Layer) : Option TransformerConfig := do
  let fields ← l.fields? .nested (fieldNames kind) true
  let columns ← Entries.required? fields "inputs" Document.asList?
  return {
    inputs := ← columns.mapM InputColumn.ofDocument?
    code := ← Entries.optional? fields "code" none (Document.optional? Document.asString?)
    variant := ← variantOf? kind fields }

def kindOf? (d : Document) : Option Kind := d.asString?.bind Kind.ofId?

/-- A transformer of the kind that its member `kind`, or the first item of a list, says. -/
def ofDocument? : Document → Option TransformerConfig
  | .table members =>
    match members.partition (·.1 == .name "kind") with
    | ([(_, kind)], rest) => do ofFields? (← kindOf? kind) (Document.table rest).layer
    | _ => none
  | .list (kind :: rest) => do ofFields? (← kindOf? kind) (Document.list rest).layer
  | _ => none

/-- The fields of a transformer beside `inputs` and `code`. -/
def variantFields : Variant → List (String × Document)
  | .simple => []
  | .standard concurrent => [("concurrent", .bool concurrent)]
  | .advanced c =>
    [("concurrent", .bool c.concurrent), ("output_fields", .ofUInt64 c.outputFields),
      ("shape", .string c.shape.id), ("emit_returned", .bool c.emitReturned)]

def document (omitNull : Bool) (c : TransformerConfig) : Document :=
  fieldTable omitNull <|
    [("kind", .string c.kind.id), ("inputs", .list (c.inputs.map InputColumn.document))] ++
      variantFields c.variant ++ [("code", .ofOption .string c.code)]

end TransformerConfig

namespace Limits

def fieldNames : List String := ["max_operations", "max_call_levels", "max_string_size", "timeout_ms"]

def ofLayer? (dialect : Dialect) (l : Layer) : Option Limits := do
  let fields ← l.fields? dialect fieldNames true
  let count? (name : String) : Option (Option UInt64) :=
    Entries.optional? fields name none (Document.optional? Document.asUInt64?)
  return {
    maxOperations := ← count? "max_operations"
    maxCallLevels := ← Entries.optional? fields "max_call_levels" 64 Document.asUInt64?
    maxStringSize := ← count? "max_string_size"
    timeoutMs := ← count? "timeout_ms" }

def document (omitNull : Bool) (l : Limits) : Document :=
  fieldTable omitNull
    [("max_operations", .ofOption .ofUInt64 l.maxOperations),
      ("max_call_levels", .ofUInt64 l.maxCallLevels),
      ("max_string_size", .ofOption .ofUInt64 l.maxStringSize),
      ("timeout_ms", .ofOption .ofUInt64 l.timeoutMs)]

end Limits

end RowScript
