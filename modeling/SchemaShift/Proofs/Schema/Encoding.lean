import SchemaShift.Proofs.Json.Restated
import SchemaShift.Schema.Encoding

/-!
# Schemas read back

Every part of a snapshot is read back from the JSON that it is written as. The one member that may
be left out is the generation expression of a column, when it is empty.
-/

namespace SchemaShift

open Json

/-- The member that a column which is not generated may lack. -/
def Column.blankExpression : String × Json :=
  ("generation_expression", .string "")

theorem KeyRole.roundTrips : RoundTrips Column.blankExpression KeyRole.toJson KeyRole.ofJson? := by
  intro role k restated
  obtain rfl := restated.of_string
  cases role <;> rfl

theorem Column.roundTrips : RoundTrips blankExpression Column.toJson Column.ofJson? := by
  intro c k restated
  obtain ⟨r, read, gives⟩ := restated.record (by simp) fieldNames 13
  have name : r.field "name" string? = some c.name :=
    gives.field roundTrips_string (by simp) (by decide)
  have dataType : r.field "data_type" string? = some c.dataType :=
    gives.field roundTrips_string (by simp) (by decide)
  have columnType : r.field "column_type" string? = some c.columnType :=
    gives.field roundTrips_string (by simp) (by decide)
  have nullable : r.field "nullable" bool? = some c.nullable :=
    gives.field roundTrips_bool (by simp) (by decide)
  have defaultValue : r.optional "default" string? = some c.defaultValue :=
    gives.optional roundTrips_string rfl (by simp) (by decide)
  have charLength : r.optional "char_length" int64? = some c.charLength :=
    gives.optional roundTrips_int64 rfl (by simp) (by decide)
  have numericPrecision : r.optional "numeric_precision" int64? = some c.numericPrecision :=
    gives.optional roundTrips_int64 rfl (by simp) (by decide)
  have numericScale : r.optional "numeric_scale" int64? = some c.numericScale :=
    gives.optional roundTrips_int64 rfl (by simp) (by decide)
  have datetimePrecision : r.optional "datetime_precision" int64? = some c.datetimePrecision :=
    gives.optional roundTrips_int64 rfl (by simp) (by decide)
  have key : r.field "key" KeyRole.ofJson? = some c.key :=
    gives.field KeyRole.roundTrips (by simp) (by decide)
  have autoIncrement : r.field "auto_increment" bool? = some c.autoIncrement :=
    gives.field roundTrips_bool (by simp) (by decide)
  have comment : r.field "comment" string? = some c.comment :=
    gives.field roundTrips_string (by simp) (by decide)
  have extra : r.field "extra" string? = some c.extra :=
    gives.field roundTrips_string (by simp) (by decide)
  have generationExpression :
      r.fieldOr "generation_expression" string? "" = some c.generationExpression :=
    gives.fieldOr roundTrips_string (by simp) (by simp [blankExpression])
  rw [ofJson?, read, Option.bind_eq_bind, Option.bind_some, name, dataType, columnType, nullable,
    defaultValue, charLength, numericPrecision, numericScale, datetimePrecision, key, autoIncrement,
    comment, extra, generationExpression]
  rfl

theorem IndexKind.roundTrips :
    RoundTrips Column.blankExpression IndexKind.toJson IndexKind.ofJson? := by
  intro kind k restated
  obtain rfl := restated.of_string
  cases kind <;> rfl

theorem IndexMember.roundTrips :
    RoundTrips Column.blankExpression IndexMember.toJson IndexMember.ofJson? := by
  intro m k restated
  obtain ⟨r, read, gives⟩ := restated.record (by simp) fieldNames 7
  have indexName : r.field "index_name" string? = some m.indexName :=
    gives.field roundTrips_string (by simp) (by decide)
  have tableName : r.field "table_name" string? = some m.tableName :=
    gives.field roundTrips_string (by simp) (by decide)
  have nonUnique : r.field "non_unique" bool? = some m.nonUnique :=
    gives.field roundTrips_bool (by simp) (by decide)
  have columnName : r.field "column_name" string? = some m.columnName :=
    gives.field roundTrips_string (by simp) (by decide)
  have position : r.field "seq_in_index" int64? = some m.position :=
    gives.field roundTrips_int64 (by simp) (by decide)
  have method : r.field "index_type" string? = some m.method :=
    gives.field roundTrips_string (by simp) (by decide)
  have comment : r.field "comment" string? = some m.comment :=
    gives.field roundTrips_string (by simp) (by decide)
  rw [ofJson?, read, Option.bind_eq_bind, Option.bind_some, indexName, tableName, nonUnique,
    columnName, position, method, comment]
  rfl

theorem Index.roundTrips : RoundTrips Column.blankExpression Index.toJson Index.ofJson? := by
  intro i k restated
  obtain ⟨r, read, gives⟩ := restated.record (by simp) fieldNames 3
  have name : r.field "name" string? = some i.name :=
    gives.field roundTrips_string (by simp) (by decide)
  have kind : r.field "kind" IndexKind.ofJson? = some i.kind :=
    gives.field IndexKind.roundTrips (by simp) (by decide)
  have members : r.field "members" (list? IndexMember.ofJson?) = some i.members :=
    gives.field IndexMember.roundTrips.list (by simp) (by decide)
  rw [ofJson?, read, Option.bind_eq_bind, Option.bind_some, name, kind, members]
  rfl

/-- A map is an object without spare members, as its values are not what a spare one has. -/
theorem NameMap.roundTrips {α : Type} {spare : String × Json} {write : α → Json}
    {read : Json → Option α} (back : RoundTrips spare write read) (full : ∀ a, write a ≠ spare.2) :
    RoundTrips spare (NameMap.toJson write) (NameMap.ofJson? read) := by
  intro m k restated
  obtain ⟨ns, ks, rfl, order, members⟩ := restated.of_object
  have reordered : ∃ entries : List (String × α), ns = entries.map (fun e => (e.1, write e.2)) ∧
      entries.Perm m.entries := by
    have comp := congrFun₂ (List.eq_map_comp_perm fun e : String × α => (e.1, write e.2)) ns
      m.entries
    exact comp.mpr order.symm
  obtain ⟨entries, rfl, same⟩ := reordered
  have needed : spare ∉ entries.map fun e => (e.1, write e.2) := by
    rintro member
    obtain ⟨e, -, equal⟩ := List.mem_map.1 member
    exact full e.2 (congrArg Prod.snd equal)
  rw [NameMap.ofJson?, back.members (members.pairs needed), Option.map_some, ofList_perm same]

theorem Table.roundTrips : RoundTrips Column.blankExpression Table.toJson Table.ofJson? := by
  intro t k restated
  obtain ⟨r, read, gives⟩ := restated.record (by simp) fieldNames 6
  have name : r.field "name" string? = some t.name :=
    gives.field roundTrips_string (by simp) (by decide)
  have engine : r.field "engine" string? = some t.engine :=
    gives.field roundTrips_string (by simp) (by decide)
  have collation : r.field "collation" string? = some t.collation :=
    gives.field roundTrips_string (by simp) (by decide)
  have comment : r.field "comment" string? = some t.comment :=
    gives.field roundTrips_string (by simp) (by decide)
  have columns : r.field "columns" (list? Column.ofJson?) = some t.columns :=
    gives.field Column.roundTrips.list (by simp) (by decide)
  have full : ∀ i : Index, i.toJson ≠ Column.blankExpression.2 := fun i same => by cases same
  have indexes : r.field "indexes" (NameMap.ofJson? Index.ofJson?) = some t.indexes :=
    gives.field (NameMap.roundTrips Index.roundTrips full) (by simp) (by decide)
  rw [ofJson?, read, Option.bind_eq_bind, Option.bind_some, name, engine, collation, comment,
    columns, indexes]
  rfl

theorem SchemaOptions.roundTrips :
    RoundTrips Column.blankExpression SchemaOptions.toJson SchemaOptions.ofJson? := by
  intro o k restated
  obtain ⟨r, read, gives⟩ := restated.record (by simp) fieldNames 2
  have charset : r.field "charset" string? = some o.charset :=
    gives.field roundTrips_string (by simp) (by decide)
  have collation : r.field "collation" string? = some o.collation :=
    gives.field roundTrips_string (by simp) (by decide)
  rw [ofJson?, read, Option.bind_eq_bind, Option.bind_some, charset, collation]
  rfl

theorem Snapshot.roundTrips :
    RoundTrips Column.blankExpression Snapshot.toJson Snapshot.ofJson? := by
  intro s k restated
  obtain ⟨r, read, gives⟩ := restated.record (by simp) fieldNames 3
  have name : r.field "name" string? = some s.name :=
    gives.field roundTrips_string (by simp) (by decide)
  have options : r.field "options" SchemaOptions.ofJson? = some s.options :=
    gives.field SchemaOptions.roundTrips (by simp) (by decide)
  have tables : r.field "tables" (list? Table.ofJson?) = some s.tables :=
    gives.field Table.roundTrips.list (by simp) (by decide)
  rw [ofJson?, read, Option.bind_eq_bind, Option.bind_some, name, options, tables]
  rfl

end SchemaShift
