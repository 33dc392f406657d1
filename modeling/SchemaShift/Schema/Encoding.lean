import SchemaShift.Json.Basic
import SchemaShift.Schema.Table

/-!
# Schemas as JSON

Each type is written as a record of all its fields. Reading accepts the fields in any order,
ignores others, and takes a missing optional field for null; a column may also lack its
generation expression, which is then empty.
-/

namespace SchemaShift

open Json

namespace KeyRole

def label : KeyRole → String
  | .primary => "Primary"
  | .unique => "Unique"
  | .multiple => "Multiple"
  | .none => "None"

def ofLabel? (label : String) : Option KeyRole :=
  if label = "Primary" then some .primary
  else if label = "Unique" then some .unique
  else if label = "Multiple" then some .multiple
  else if label = "None" then some .none
  else Option.none

def toJson (k : KeyRole) : Json :=
  .string k.label

def ofJson? (j : Json) : Option KeyRole :=
  (plainVariant? j).bind ofLabel?

end KeyRole

namespace Column

def fieldNames : List String :=
  ["name", "data_type", "column_type", "nullable", "default", "char_length", "numeric_precision",
    "numeric_scale", "datetime_precision", "key", "auto_increment", "comment", "extra",
    "generation_expression"]

def toJson (c : Column) : Json :=
  .object [
    ("name", .string c.name),
    ("data_type", .string c.dataType),
    ("column_type", .string c.columnType),
    ("nullable", .bool c.nullable),
    ("default", ofOption .string c.defaultValue),
    ("char_length", ofOption ofInt64 c.charLength),
    ("numeric_precision", ofOption ofInt64 c.numericPrecision),
    ("numeric_scale", ofOption ofInt64 c.numericScale),
    ("datetime_precision", ofOption ofInt64 c.datetimePrecision),
    ("key", c.key.toJson),
    ("auto_increment", .bool c.autoIncrement),
    ("comment", .string c.comment),
    ("extra", .string c.extra),
    ("generation_expression", .string c.generationExpression)]

def ofJson? (j : Json) : Option Column := do
  let r ← record? fieldNames 13 j
  return {
    name := ← r.field "name" string?
    dataType := ← r.field "data_type" string?
    columnType := ← r.field "column_type" string?
    nullable := ← r.field "nullable" bool?
    defaultValue := ← r.optional "default" string?
    charLength := ← r.optional "char_length" int64?
    numericPrecision := ← r.optional "numeric_precision" int64?
    numericScale := ← r.optional "numeric_scale" int64?
    datetimePrecision := ← r.optional "datetime_precision" int64?
    key := ← r.field "key" KeyRole.ofJson?
    autoIncrement := ← r.field "auto_increment" bool?
    comment := ← r.field "comment" string?
    extra := ← r.field "extra" string?
    generationExpression := ← r.fieldOr "generation_expression" string? "" }

end Column

namespace IndexKind

def ofLabel? (label : String) : Option IndexKind :=
  if label = "Primary" then some .primary
  else if label = "Unique" then some .unique
  else if label = "Normal" then some .normal
  else if label = "Fulltext" then some .fulltext
  else if label = "Spatial" then some .spatial
  else none

def toJson (k : IndexKind) : Json :=
  .string k.label

def ofJson? (j : Json) : Option IndexKind :=
  (plainVariant? j).bind ofLabel?

end IndexKind

namespace IndexMember

def fieldNames : List String :=
  ["index_name", "table_name", "non_unique", "column_name", "seq_in_index", "index_type", "comment"]

def toJson (m : IndexMember) : Json :=
  .object [
    ("index_name", .string m.indexName),
    ("table_name", .string m.tableName),
    ("non_unique", .bool m.nonUnique),
    ("column_name", .string m.columnName),
    ("seq_in_index", ofInt64 m.position),
    ("index_type", .string m.method),
    ("comment", .string m.comment)]

def ofJson? (j : Json) : Option IndexMember := do
  let r ← record? fieldNames 7 j
  return {
    indexName := ← r.field "index_name" string?
    tableName := ← r.field "table_name" string?
    nonUnique := ← r.field "non_unique" bool?
    columnName := ← r.field "column_name" string?
    position := ← r.field "seq_in_index" int64?
    method := ← r.field "index_type" string?
    comment := ← r.field "comment" string? }

end IndexMember

namespace Index

def fieldNames : List String := ["name", "kind", "members"]

def toJson (i : Index) : Json :=
  .object [
    ("name", .string i.name),
    ("kind", i.kind.toJson),
    ("members", ofList IndexMember.toJson i.members)]

def ofJson? (j : Json) : Option Index := do
  let r ← record? fieldNames 3 j
  return {
    name := ← r.field "name" string?
    kind := ← r.field "kind" IndexKind.ofJson?
    members := ← r.field "members" (list? IndexMember.ofJson?) }

end Index

namespace NameMap

def toJson {α : Type} (write : α → Json) (m : NameMap α) : Json :=
  .object (m.entries.map fun (name, a) => (name, write a))

/-- Of two members with one name the later counts. -/
def ofJson? {α : Type} (read : Json → Option α) : Json → Option (NameMap α)
  | .object members => (members? read members).map NameMap.ofList
  | _ => none

end NameMap

namespace Table

def fieldNames : List String := ["name", "engine", "collation", "comment", "columns", "indexes"]

def toJson (t : Table) : Json :=
  .object [
    ("name", .string t.name),
    ("engine", .string t.engine),
    ("collation", .string t.collation),
    ("comment", .string t.comment),
    ("columns", ofList Column.toJson t.columns),
    ("indexes", t.indexes.toJson Index.toJson)]

def ofJson? (j : Json) : Option Table := do
  let r ← record? fieldNames 6 j
  return {
    name := ← r.field "name" string?
    engine := ← r.field "engine" string?
    collation := ← r.field "collation" string?
    comment := ← r.field "comment" string?
    columns := ← r.field "columns" (list? Column.ofJson?)
    indexes := ← r.field "indexes" (NameMap.ofJson? Index.ofJson?) }

end Table

namespace SchemaOptions

def fieldNames : List String := ["charset", "collation"]

def toJson (o : SchemaOptions) : Json :=
  .object [("charset", .string o.charset), ("collation", .string o.collation)]

def ofJson? (j : Json) : Option SchemaOptions := do
  let r ← record? fieldNames 2 j
  return {
    charset := ← r.field "charset" string?
    collation := ← r.field "collation" string? }

end SchemaOptions

namespace Snapshot

def fieldNames : List String := ["name", "options", "tables"]

def toJson (s : Snapshot) : Json :=
  .object [
    ("name", .string s.name),
    ("options", s.options.toJson),
    ("tables", ofList Table.toJson s.tables)]

def ofJson? (j : Json) : Option Snapshot := do
  let r ← record? fieldNames 3 j
  return {
    name := ← r.field "name" string?
    options := ← r.field "options" SchemaOptions.ofJson?
    tables := ← r.field "tables" (list? Table.ofJson?) }

end Snapshot

end SchemaShift
