import SchemaShift.Output.DiffFile
import SchemaShift.Proofs.Ddl.Emission

/-!
# Statements on one line

A diff file holds one statement per line. With names and types that have no line break, what
SQLite is told stays on one line exactly if no default that is written has a line break: a
literal keeps the line breaks of its text, also where the statement is a comment.
-/

namespace SchemaShift

open Text

namespace Text

/-! ### Characters that do not occur -/

def Lacks (c : Char) (s : String) : Prop :=
  c ∉ s.toList

instance (c : Char) (s : String) : Decidable (Lacks c s) :=
  inferInstanceAs (Decidable (c ∉ s.toList))

theorem lacks_append {c : Char} {s t : String} : Lacks c (s ++ t) ↔ Lacks c s ∧ Lacks c t := by
  simp [Lacks, not_or]

theorem lacks_join {c : Char} {sep : String} (plain : Lacks c sep) (ss : List String) :
    Lacks c (join sep ss) ↔ ∀ s ∈ ss, Lacks c s := by
  induction ss with
  | nil => simp [join, Lacks]
  | cons s rest ih =>
    cases rest with
    | nil => simp [join]
    | cons t rest =>
      rw [join, lacks_append, lacks_append, ih, List.forall_mem_cons (a := s), and_iff_left plain]

theorem mem_double {q c : Char} (cs : List Char) : c ∈ double q cs ↔ c ∈ cs := by
  induction cs with
  | nil => rfl
  | cons d cs ih =>
    rw [double]
    split
    · rename_i same
      subst same
      simp [ih]
    · simp [ih]

theorem lacks_quote {q c : Char} (different : c ≠ q) (s : String) :
    Lacks c (quote q s) ↔ Lacks c s := by
  simp [Lacks, quote, mem_double, different]

end Text

abbrev OneLine (s : String) : Prop :=
  Lacks '\n' s

/-! ### Names and types without line breaks -/

structure Column.PlainlyNamed (c : Column) : Prop where
  name : OneLine c.name
  type : OneLine c.columnType

structure Index.PlainlyNamed (i : Index) : Prop where
  name : OneLine i.name
  columns : ∀ name ∈ i.columns, OneLine name

namespace SchemaChange

/-- The names of tables, columns and indexes in the change have no line break, and neither have
the types that it declares. -/
def PlainlyNamed : SchemaChange → Prop
  | .alterSchema .. => True
  | .createTable t => OneLine t.name ∧ (∀ c ∈ t.columns, c.PlainlyNamed) ∧
    ∀ i ∈ t.indexes.values, i.PlainlyNamed
  | .dropTable t => OneLine t.name
  | .alterTable table changes => OneLine table ∧
    (∀ c ∈ changes.addedColumns, c.PlainlyNamed) ∧
    (∀ c ∈ changes.changedColumns, c.new.PlainlyNamed) ∧
    ∀ i ∈ changes.deletedIndexes ++ changes.addedIndexes, i.PlainlyNamed

/-- What the statements for SQLite hold besides the names of tables, columns and indexes and the
declared types: the name of a schema, and the defaults of the columns. A key that counts up by
itself is declared without its default. -/
def looseTexts : SchemaChange → List String
  | .alterSchema name _ => [name]
  | .createTable t =>
    (t.columns.filter fun c => Sqlite.countingKey? t != some c.name).filterMap (·.defaultValue)
  | .dropTable _ => []
  | .alterTable _ changes =>
    (changes.addedColumns ++ changes.changedColumns.map (·.new)).filterMap (·.defaultValue)

end SchemaChange

/-! ### The statements of SQLite -/

namespace Sqlite

theorem oneLine_quoteIdentifier (name : String) : OneLine (quoteIdentifier name) ↔ OneLine name :=
  lacks_quote (by decide) name

theorem oneLine_listed (ss : List String) :
    OneLine (join ", " ss) ↔ ∀ s ∈ ss, OneLine s :=
  lacks_join (by decide) ss

theorem oneLine_columnList (columns : List String) :
    OneLine (columnList columns) ↔ ∀ name ∈ columns, OneLine name := by
  simp +decide only [columnList, lacks_append, oneLine_listed, List.forall_mem_map,
    oneLine_quoteIdentifier, true_and, and_true]

theorem oneLine_defaultText (value : String) :
    OneLine (defaultText quoteLiteral value) ↔ OneLine value := by
  rw [defaultText]
  split
  · rfl
  · exact lacks_quote (by decide) value

/-- A column definition carries the line breaks of the default. -/
theorem oneLine_columnDefinition {c : Column} (named : c.PlainlyNamed) :
    OneLine (columnDefinition c) ↔ ∀ value, c.defaultValue = some value → OneLine value := by
  have nullability : OneLine (if c.nullable then "" else " NOT NULL") := by
    cases c.nullable <;> decide
  unfold columnDefinition
  cases c.defaultValue with
  | none =>
    simp +decide [lacks_append, oneLine_quoteIdentifier, named.name, named.type, nullability]
  | some value =>
    simp +decide [lacks_append, oneLine_quoteIdentifier, named.name, named.type, nullability,
      oneLine_defaultText]

theorem oneLine_createIndexText {unique table : String} {i : Index} (keyword : OneLine unique)
    (plain : OneLine table) (named : i.PlainlyNamed) :
    OneLine (createIndexText unique table i) := by
  have columns := (oneLine_columnList i.columns).2 named.columns
  unfold createIndexText
  simp +decide only [lacks_append, oneLine_quoteIdentifier, keyword, plain, named.name, columns,
    and_true]

theorem oneLine_createIndex {table : String} {i : Index} (plain : OneLine table)
    (named : i.PlainlyNamed) : OneLine (createIndex table i).sql := by
  have missing (label : String) (short : OneLine label) :
      OneLine (Statement.unsupported (some table)
        ("SQLite has no " ++ label ++ " index, skipped " ++ i.name)).sql := by
    simp +decide only [Statement.unsupported, lacks_append, short, named.name, and_true]
  unfold createIndex
  cases i.kind with
  | primary => simp +decide only [Statement.unsupported, lacks_append, plain, and_true]
  | unique => exact oneLine_createIndexText (by decide) plain named
  | normal => exact oneLine_createIndexText (by decide) plain named
  | fulltext => exact missing "Fulltext" (by decide)
  | spatial => exact missing "Spatial" (by decide)

theorem oneLine_dropIndex {table : String} {i : Index} (plain : OneLine table)
    (named : i.PlainlyNamed) : OneLine (dropIndex table i).sql := by
  unfold dropIndex
  split
  · simp +decide only [Statement.unsupported, lacks_append, plain, and_true]
  · simp +decide only [lacks_append, oneLine_quoteIdentifier, named.name, and_true]

theorem oneLine_addColumn {table : String} (c : Column) (plain : OneLine table) :
    OneLine (addColumn table c).sql ↔ OneLine (columnDefinition c) := by
  simp +decide only [addColumn, lacks_append, oneLine_quoteIdentifier, plain, true_and]

/-- The definition of the new form stands in the comment as it would stand in a statement. -/
theorem oneLine_modifyColumn {table : String} {c : ColumnChange} (plain : OneLine table)
    (named : c.new.PlainlyNamed) :
    OneLine (modifyColumn table c).sql ↔ OneLine (columnDefinition c.new) := by
  simp +decide only [modifyColumn, Statement.unsupported, lacks_append, plain, named.name,
    true_and, and_true]

theorem oneLine_primaryKey {t : Table} (columns : ∀ c ∈ t.columns, c.PlainlyNamed)
    (indexes : ∀ i ∈ t.indexes.values, i.PlainlyNamed) : ∀ name ∈ t.primaryKey, OneLine name := by
  unfold Table.primaryKey
  split
  · rename_i i found
    exact (indexes i (List.mem_of_find?_eq_some found)).columns
  · refine List.forall_mem_map.2 fun c member => ?_
    exact (columns c (List.mem_filter.1 member).1).name

/-- Of a new table the defaults count, but for that of a key that counts up by itself. -/
theorem oneLine_createTableText {t : Table} (plain : OneLine t.name)
    (columns : ∀ c ∈ t.columns, c.PlainlyNamed) (indexes : ∀ i ∈ t.indexes.values, i.PlainlyNamed) :
    OneLine (createTableText t) ↔ ∀ c ∈ t.columns, countingKey? t ≠ some c.name →
      ∀ value, c.defaultValue = some value → OneLine value := by
  have key := (oneLine_columnList t.primaryKey).2 (oneLine_primaryKey columns indexes)
  have constraint : ∀ text ∈ (if (countingKey? t).isNone && !t.primaryKey.isEmpty then
      ["PRIMARY KEY " ++ columnList t.primaryKey] else []), OneLine text := by
    split
    · refine List.forall_mem_singleton.2 ?_
      simp +decide only [lacks_append, key, and_true]
    · simp
  unfold createTableText
  simp +decide only [lacks_append, oneLine_listed, oneLine_quoteIdentifier, plain,
    List.forall_mem_append, List.forall_mem_map, true_and, and_true]
  rw [and_iff_left constraint]
  refine forall₂_congr fun c member => ?_
  split
  · rename_i counting
    simp +decide [lacks_append, oneLine_quoteIdentifier, (columns c member).name, counting]
  · rename_i ordinary
    simp [ordinary, oneLine_columnDefinition (columns c member)]

/-- What a change tells SQLite stays on one line exactly if all that it writes besides names and
types does. -/
theorem emit_oneLine_iff {change : SchemaChange} (named : change.PlainlyNamed) :
    (∀ s ∈ Dialect.sqlite.emit change, OneLine s.sql) ↔
      ∀ text ∈ change.looseTexts, OneLine text := by
  cases change with
  | alterSchema name options =>
    have comment : OneLine (Statement.unsupported none
        ("SQLite has no schema options, skipped options of " ++ name)).sql ↔ OneLine name := by
      simp +decide only [Statement.unsupported, lacks_append, true_and]
    exact List.forall_mem_singleton.trans (comment.trans List.forall_mem_singleton.symm)
  | createTable t =>
    obtain ⟨plain, columns, indexes⟩ := named
    have others : ∀ s ∈ (t.indexes.values.filter fun i => i.kind != .primary).map
        (createIndex t.name), OneLine s.sql := by
      refine List.forall_mem_map.2 fun i member => ?_
      exact oneLine_createIndex plain (indexes i (List.mem_filter.1 member).1)
    show (∀ s ∈ createTable t, OneLine s.sql) ↔ _
    rw [createTable, List.forall_mem_cons, and_iff_left others,
      oneLine_createTableText plain columns indexes, SchemaChange.looseTexts, forall_mem_filterMap]
    simp only [List.mem_filter, bne_iff_ne, and_imp]
  | dropTable t =>
    have dropped : OneLine ("DROP TABLE " ++ quoteIdentifier t.name) := by
      simp +decide only [lacks_append, oneLine_quoteIdentifier, true_and]
      exact named
    exact iff_of_true (List.forall_mem_singleton.2 dropped) (by simp [SchemaChange.looseTexts])
  | alterTable table changes =>
    obtain ⟨plain, added, changed, indexes⟩ := named
    obtain ⟨gone, come⟩ := List.forall_mem_append.1 indexes
    have dropped : ∀ s ∈ changes.deletedIndexes.map (dropIndex table), OneLine s.sql :=
      List.forall_mem_map.2 fun i member => oneLine_dropIndex plain (gone i member)
    have created : ∀ s ∈ changes.addedIndexes.map (createIndex table), OneLine s.sql :=
      List.forall_mem_map.2 fun i member => oneLine_createIndex plain (come i member)
    have options : ∀ s ∈ (if changes.options.isSome then [Statement.unsupported (some table)
        ("SQLite has no table options, skipped options of " ++ table)] else []),
        OneLine s.sql := by
      split
      · refine List.forall_mem_singleton.2 ?_
        simp +decide only [Statement.unsupported, lacks_append, plain, and_true]
      · simp
    have newColumns : (∀ s ∈ changes.addedColumns.map (addColumn table), OneLine s.sql) ↔
        ∀ c ∈ changes.addedColumns, ∀ value, c.defaultValue = some value → OneLine value := by
      refine List.forall_mem_map.trans (forall₂_congr fun c member => ?_)
      exact (oneLine_addColumn c plain).trans (oneLine_columnDefinition (added c member))
    have newForms : (∀ s ∈ changes.changedColumns.map (modifyColumn table), OneLine s.sql) ↔
        ∀ c ∈ changes.changedColumns.map (·.new), ∀ value, c.defaultValue = some value →
          OneLine value := by
      rw [List.forall_mem_map, List.forall_mem_map]
      refine forall₂_congr fun c member => ?_
      exact (oneLine_modifyColumn plain (changed c member)).trans
        (oneLine_columnDefinition (changed c member))
    show (∀ s ∈ alterTable table changes, OneLine s.sql) ↔ _
    rw [alterTable, List.forall_mem_append, List.forall_mem_append, List.forall_mem_append,
      List.forall_mem_append, and_iff_left options, and_iff_left created, and_iff_right dropped,
      newColumns, newForms, SchemaChange.looseTexts, forall_mem_filterMap, List.forall_mem_append]

/-- An index and a column with a quote in its default come, an option goes. -/
def notesChange : SchemaChange :=
  let note := (Column.ofType "note" "varchar(64)").withDefault "it's; -- fine"
  .alterTable "notes"
    { addedColumns := [note]
      changedColumns := []
      addedIndexes := [.ofMember (.ofColumn "ix_note" "notes" "note" 1 true)]
      deletedIndexes := []
      options := some { engine := some "", collation := none, comment := none } }

theorem notes_oneLine :
    notesChange.PlainlyNamed ∧ (Dialect.sqlite.emit notesChange).length = 3 ∧
      ∀ s ∈ Dialect.sqlite.emit notesChange, OneLine s.sql := by
  have named : notesChange.PlainlyNamed := by
    refine ⟨by decide, List.forall_mem_singleton.2 ⟨by decide, by decide +kernel⟩, by simp, ?_⟩
    exact List.forall_mem_singleton.2 ⟨by decide, by decide⟩
  exact ⟨named, rfl, (emit_oneLine_iff named).2 (by decide +kernel)⟩

/-- A column takes a default of two lines. -/
def brokenChange : SchemaChange :=
  let name := Column.ofType "name" "text"
  .alterTable "users"
    { addedColumns := []
      changedColumns := [{ old := name, new := name.withDefault "x\nDROP TABLE users; --" }]
      addedIndexes := []
      deletedIndexes := []
      options := none }

/-- The comment goes on behind the line break of a default, and its second line is a statement. -/
theorem broken_comment :
    brokenChange.PlainlyNamed ∧
      (Dialect.sqlite.emit brokenChange).map (·.isExecutable) = [false] ∧
      (splitOn '\n' (Output.statementLines (Dialect.sqlite.emit brokenChange)).toList).map
          String.ofList =
        ["-- SQLite cannot modify column users.name to \"name\" text DEFAULT 'x",
          "DROP TABLE users; --', rebuild the table", ""] := by
  have named : brokenChange.PlainlyNamed := by
    refine ⟨by decide, by simp, List.forall_mem_singleton.2 ⟨by decide, by decide +kernel⟩, ?_⟩
    simp
  exact ⟨named, rfl, by decide +kernel⟩

end Sqlite

end SchemaShift
