import SchemaShift.Diff.SchemaChange
import SchemaShift.Schema.Encoding

/-!
# Changes as JSON

A change is an object with one member: the name of what happens, and its record.
-/

namespace SchemaShift

open Json

namespace ColumnChange

def fieldNames : List String := ["old", "new"]

def toJson (c : ColumnChange) : Json :=
  .object [("old", c.old.toJson), ("new", c.new.toJson)]

def ofJson? (j : Json) : Option ColumnChange := do
  let r ← record? fieldNames 2 j
  return {
    old := ← r.field "old" Column.ofJson?
    new := ← r.field "new" Column.ofJson? }

end ColumnChange

namespace OptionsChange

def fieldNames : List String := ["engine", "collation", "comment"]

def toJson (o : OptionsChange) : Json :=
  .object [
    ("engine", ofOption .string o.engine),
    ("collation", ofOption .string o.collation),
    ("comment", ofOption .string o.comment)]

def ofJson? (j : Json) : Option OptionsChange := do
  let r ← record? fieldNames 3 j
  return {
    engine := ← r.optional "engine" string?
    collation := ← r.optional "collation" string?
    comment := ← r.optional "comment" string? }

end OptionsChange

namespace ChangeSet

def fieldNames : List String :=
  ["added_columns", "changed_columns", "added_indexes", "deleted_indexes", "options"]

def toJson (s : ChangeSet) : Json :=
  .object [
    ("added_columns", ofList Column.toJson s.addedColumns),
    ("changed_columns", ofList ColumnChange.toJson s.changedColumns),
    ("added_indexes", ofList Index.toJson s.addedIndexes),
    ("deleted_indexes", ofList Index.toJson s.deletedIndexes),
    ("options", ofOption OptionsChange.toJson s.options)]

def ofJson? (j : Json) : Option ChangeSet := do
  let r ← record? fieldNames 5 j
  return {
    addedColumns := ← r.field "added_columns" (list? Column.ofJson?)
    changedColumns := ← r.field "changed_columns" (list? ColumnChange.ofJson?)
    addedIndexes := ← r.field "added_indexes" (list? Index.ofJson?)
    deletedIndexes := ← r.field "deleted_indexes" (list? Index.ofJson?)
    options := ← r.optional "options" OptionsChange.ofJson? }

end ChangeSet

namespace SchemaChange

def toJson : SchemaChange → Json
  | .alterSchema name options =>
    .object [("AlterSchema", .object [("name", .string name), ("options", options.toJson)])]
  | .createTable t => .object [("CreateTable", t.toJson)]
  | .dropTable t => .object [("DropTable", t.toJson)]
  | .alterTable table changes =>
    .object [("AlterTable", .object [("table", .string table), ("changes", changes.toJson)])]

def ofJson? (j : Json) : Option SchemaChange := do
  let (variant, j) ← variant? j
  if variant = "AlterSchema" then
    let r ← record? ["name", "options"] 2 j
    return .alterSchema (← r.field "name" string?) (← r.field "options" SchemaOptions.ofJson?)
  else if variant = "CreateTable" then
    return .createTable (← Table.ofJson? j)
  else if variant = "DropTable" then
    return .dropTable (← Table.ofJson? j)
  else if variant = "AlterTable" then
    let r ← record? ["table", "changes"] 2 j
    return .alterTable (← r.field "table" string?) (← r.field "changes" ChangeSet.ofJson?)
  else none

end SchemaChange

end SchemaShift
