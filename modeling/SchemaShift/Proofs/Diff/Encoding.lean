import SchemaShift.Diff.Encoding
import SchemaShift.Proofs.Schema.Encoding

/-!
# Changes read back

Changes survive the way through JSON as snapshots do: each is read back from the value it is
written as, and from every restated form of that value.
-/

namespace SchemaShift

open Json

theorem ColumnChange.roundTrips :
    RoundTrips Column.blankExpression ColumnChange.toJson ColumnChange.ofJson? := by
  intro c k restated
  obtain ⟨r, read, gives⟩ := restated.record (by simp) fieldNames 2
  have old : r.field "old" Column.ofJson? = some c.old :=
    gives.field Column.roundTrips (by simp) (by decide)
  have new : r.field "new" Column.ofJson? = some c.new :=
    gives.field Column.roundTrips (by simp) (by decide)
  rw [ofJson?, read, Option.bind_eq_bind, Option.bind_some, old, new]
  rfl

theorem OptionsChange.roundTrips :
    RoundTrips Column.blankExpression OptionsChange.toJson OptionsChange.ofJson? := by
  intro o k restated
  obtain ⟨r, read, gives⟩ := restated.record (by simp) fieldNames 3
  have engine : r.optional "engine" string? = some o.engine :=
    gives.optional roundTrips_string rfl (by simp) (by decide)
  have collation : r.optional "collation" string? = some o.collation :=
    gives.optional roundTrips_string rfl (by simp) (by decide)
  have comment : r.optional "comment" string? = some o.comment :=
    gives.optional roundTrips_string rfl (by simp) (by decide)
  rw [ofJson?, read, Option.bind_eq_bind, Option.bind_some, engine, collation, comment]
  rfl

theorem ChangeSet.roundTrips :
    RoundTrips Column.blankExpression ChangeSet.toJson ChangeSet.ofJson? := by
  intro s k restated
  obtain ⟨r, read, gives⟩ := restated.record (by simp) fieldNames 5
  have addedColumns : r.field "added_columns" (list? Column.ofJson?) = some s.addedColumns :=
    gives.field Column.roundTrips.list (by simp) (by decide)
  have changedColumns :
      r.field "changed_columns" (list? ColumnChange.ofJson?) = some s.changedColumns :=
    gives.field ColumnChange.roundTrips.list (by simp) (by decide)
  have addedIndexes : r.field "added_indexes" (list? Index.ofJson?) = some s.addedIndexes :=
    gives.field Index.roundTrips.list (by simp) (by decide)
  have deletedIndexes : r.field "deleted_indexes" (list? Index.ofJson?) = some s.deletedIndexes :=
    gives.field Index.roundTrips.list (by simp) (by decide)
  have options : r.optional "options" OptionsChange.ofJson? = some s.options :=
    gives.optional OptionsChange.roundTrips rfl (by simp) (by decide)
  rw [ofJson?, read, Option.bind_eq_bind, Option.bind_some, addedColumns, changedColumns,
    addedIndexes, deletedIndexes, options]
  rfl

theorem SchemaChange.roundTrips :
    RoundTrips Column.blankExpression SchemaChange.toJson SchemaChange.ofJson? := by
  intro change k restated
  cases change with
  | alterSchema name options =>
    obtain ⟨value, rfl, inner⟩ := restated.of_variant (by decide)
    obtain ⟨r, read, gives⟩ := inner.record (by simp) ["name", "options"] 2
    have named : r.field "name" string? = some name :=
      gives.field roundTrips_string (by simp) (by decide)
    have given : r.field "options" SchemaOptions.ofJson? = some options :=
      gives.field SchemaOptions.roundTrips (by simp) (by decide)
    simp [ofJson?, variant?, read, named, given]
  | createTable t =>
    obtain ⟨value, rfl, inner⟩ := restated.of_variant (by decide)
    simp [ofJson?, variant?, Table.roundTrips t value inner]
  | dropTable t =>
    obtain ⟨value, rfl, inner⟩ := restated.of_variant (by decide)
    simp [ofJson?, variant?, Table.roundTrips t value inner]
  | alterTable table changes =>
    obtain ⟨value, rfl, inner⟩ := restated.of_variant (by decide)
    obtain ⟨r, read, gives⟩ := inner.record (by simp) ["table", "changes"] 2
    have named : r.field "table" string? = some table :=
      gives.field roundTrips_string (by simp) (by decide)
    have given : r.field "changes" ChangeSet.ofJson? = some changes :=
      gives.field ChangeSet.roundTrips (by simp) (by decide)
    simp [ofJson?, variant?, read, named, given]

/-- Snapshots and changes are read back from their JSON, also when its members come in another
order and empty generation expressions are left out of it. -/
theorem json_roundTrips :
    (∀ s : Snapshot, Snapshot.ofJson? s.toJson = some s ∧
      ∀ j, Restated Column.blankExpression s.toJson j → Snapshot.ofJson? j = some s) ∧
    (∀ change : SchemaChange, SchemaChange.ofJson? change.toJson = some change ∧
      ∀ j, Restated Column.blankExpression change.toJson j →
        SchemaChange.ofJson? j = some change) := by
  constructor
  · intro s
    exact ⟨Snapshot.roundTrips s _ (.same _), Snapshot.roundTrips s⟩
  · intro change
    exact ⟨SchemaChange.roundTrips change _ (.same _), SchemaChange.roundTrips change⟩

/-- A column with an empty default and without a length. -/
def letterBody : Column :=
  { name := "body", dataType := "text", columnType := "text", nullable := false
    defaultValue := some "", charLength := none, numericPrecision := none, numericScale := none
    datetimePrecision := none, key := .none, autoIncrement := false, comment := "", extra := ""
    generationExpression := "" }

def letters : Table :=
  { (Table.named "letters").addColumn letterBody with comment := "sent" }

def postOffice : Snapshot :=
  { name := "post", options := { charset := "utf8mb4", collation := "utf8mb4_bin" }
    tables := [letters] }

/-- The column without its generation expression. -/
def letterBodyJson : Json :=
  .object [
    ("name", .string "body"), ("data_type", .string "text"), ("column_type", .string "text"),
    ("nullable", .bool false), ("default", .string ""), ("char_length", .null),
    ("numeric_precision", .null), ("numeric_scale", .null), ("datetime_precision", .null),
    ("key", .string "None"), ("auto_increment", .bool false), ("comment", .string ""),
    ("extra", .string "")]

def lettersJson : Json :=
  .object [
    ("name", .string "letters"), ("engine", .string ""), ("collation", .string ""),
    ("comment", .string "sent"), ("columns", .array [letterBodyJson]), ("indexes", .object [])]

def postOfficeJson : Json :=
  .object [
    ("name", .string "post"),
    ("options", .object [("collation", .string "utf8mb4_bin"), ("charset", .string "utf8mb4")]),
    ("tables", .array [lettersJson])]

theorem post_roundTrips :
    Restated Column.blankExpression postOffice.toJson postOfficeJson ∧
      Snapshot.ofJson? postOfficeJson = some postOffice ∧
      Restated Column.blankExpression (SchemaChange.createTable letters).toJson
        (.object [("CreateTable", lettersJson)]) ∧
      SchemaChange.ofJson? (.object [("CreateTable", lettersJson)]) =
        some (.createTable letters) := by
  have column : Restated Column.blankExpression letterBody.toJson letterBodyJson := by
    refine .object (.refl _) ?_
    iterate 13 refine .keep (.same _) ?_
    exact .leaveOut .nil
  have table : Restated Column.blankExpression letters.toJson lettersJson := by
    refine .object (.refl _) ?_
    iterate 4 refine .keep (.same _) ?_
    exact .keep (.array (.cons column .nil)) (.keep (.same _) .nil)
  have options : Restated Column.blankExpression postOffice.options.toJson
      (.object [("collation", .string "utf8mb4_bin"), ("charset", .string "utf8mb4")]) :=
    .object (.swap _ _ _) (.keep (.same _) (.keep (.same _) .nil))
  have snapshot : Restated Column.blankExpression postOffice.toJson postOfficeJson :=
    .object (.refl _) (.keep (.same _) (.keep options
      (.keep (.array (.cons table .nil)) .nil)))
  have change : Restated Column.blankExpression (SchemaChange.createTable letters).toJson
      (.object [("CreateTable", lettersJson)]) :=
    .object (.refl _) (.keep table .nil)
  exact ⟨snapshot, (json_roundTrips.1 postOffice).2 postOfficeJson snapshot, change,
    (json_roundTrips.2 (.createTable letters)).2 _ change⟩

end SchemaShift
