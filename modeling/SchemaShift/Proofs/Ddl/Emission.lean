import Mathlib.Data.List.Forall2
import SchemaShift.Ddl.Dialect
import SchemaShift.Proofs.Diff.Walk

/-!
# Emitted statements

No change of a diff is lost on its way to SQL and none comes out twice. MySQL answers a change
with one statement. SQLite answers it part by part, and `Sqlite.parts` lists the parts of a
change in the order in which their statements follow one another.
-/

namespace SchemaShift

open Text

/-! ### One thing after another -/

section Forall₂

variable {α β γ : Type} {R : α → β → Prop}

theorem forall₂_flatMap_one {emit : α → List β} {l : List α}
    (one : ∀ a ∈ l, ∃ b, emit a = [b] ∧ R a b) : List.Forall₂ R l (l.flatMap emit) := by
  induction l with
  | nil => exact .nil
  | cons a l ih =>
    obtain ⟨⟨b, emitted, related⟩, rest⟩ := List.forall_mem_cons.1 one
    rw [List.flatMap_cons, emitted]
    exact .cons related (ih rest)

theorem forall₂_map_map {f : γ → α} {g : γ → β} {l : List γ} (each : ∀ c ∈ l, R (f c) (g c)) :
    List.Forall₂ R (l.map f) (l.map g) := by
  rw [List.forall₂_map_left_iff, List.forall₂_map_right_iff]
  exact List.forall₂_same.2 each

end Forall₂

/-! ### Phrases in a text -/

/-- The phrases stand in the text one after another. -/
def Carries (text : String) : List String → Prop
  | [] => True
  | phrase :: phrases => ∃ front back, text = front ++ phrase ++ back ∧ Carries back phrases

theorem Carries.after {text : String} {phrases : List String} (carries : Carries text phrases)
    (front : String) : Carries (front ++ text) phrases := by
  cases phrases with
  | nil => exact trivial
  | cons phrase phrases =>
    obtain ⟨before, back, rfl, later⟩ := carries
    exact ⟨front ++ before, back, by simp only [String.append_assoc], later⟩

theorem Carries.append {first second : String} {these those : List String}
    (left : Carries first these) (right : Carries second those) :
    Carries (first ++ second) (these ++ those) := by
  induction these generalizing first with
  | nil => exact right.after first
  | cons phrase these ih =>
    obtain ⟨front, back, rfl, later⟩ := left
    exact ⟨front, back ++ second, by simp only [String.append_assoc], ih later⟩

theorem Carries.before {text : String} {phrases : List String} (carries : Carries text phrases)
    (back : String) : Carries (text ++ back) phrases := by
  have none : Carries back [] := trivial
  have whole := carries.append none
  rwa [List.append_nil] at whole

theorem carries_one (phrase : String) : Carries phrase [phrase] :=
  ⟨"", "", by simp, trivial⟩

theorem carries_join (sep : String) (phrases : List String) :
    Carries (join sep phrases) phrases := by
  induction phrases with
  | nil => exact trivial
  | cons phrase phrases ih =>
    cases phrases with
    | nil => exact carries_one phrase
    | cons next phrases => exact ((carries_one phrase).before sep).append ih

/-- The text is written out and never run. -/
def Statement.IsComment (s : Statement) : Prop :=
  s.kind = .unsupported ∧ ∃ message, s.sql = "-- " ++ message

theorem Statement.unsupported_isComment (table : Option String) (message : String) :
    (unsupported table message).IsComment :=
  ⟨rfl, message, rfl⟩

/-! ### Statements for MySQL -/

namespace SchemaChange

def kind : SchemaChange → StatementKind
  | .alterSchema .. => .alterSchema
  | .createTable _ => .createTable
  | .dropTable _ => .dropTable
  | .alterTable .. => .alterTable

/-- The columns that the change defines. -/
def definedColumns : SchemaChange → List Column
  | .alterSchema .. => []
  | .createTable t => t.columns
  | .dropTable _ => []
  | .alterTable _ changes => changes.addedColumns ++ changes.changedColumns.map (·.new)

/-- One of the columns that the change defines is generated from a blank expression. -/
def DefinesBlank (change : SchemaChange) : Prop :=
  ∃ c ∈ change.definedColumns, c.isGenerated = true ∧ allBlank c.generationExpression = true

end SchemaChange

namespace MySql

/-- What a statement carries: the name of what it is about, and then a clause for each part of the
change. -/
def phrases : SchemaChange → List String
  | .alterSchema name options => [quoteIdentifier name, options.charset, options.collation]
  | .createTable t =>
    quoteIdentifier t.name :: (t.columns.map columnDefinition ++
      (t.indexes.values.filter fun i => i.kind == .primary).map indexDefinition ++
      (t.indexes.values.filter fun i => i.kind != .primary).map indexDefinition ++
      tableOptions t)
  | .dropTable t => [quoteIdentifier t.name]
  | .alterTable table changes =>
    quoteIdentifier table :: (changes.deletedIndexes.map dropIndexClause ++
      changes.addedColumns.map (fun c => "ADD COLUMN " ++ columnDefinition c) ++
      changes.changedColumns.map (fun c => "MODIFY COLUMN " ++ columnDefinition c.new) ++
      changes.addedIndexes.map (fun i => "ADD " ++ indexDefinition i) ++
      changes.options.toList.flatMap changedOptions)

/-- The statement carries out the change, or is a comment because of a column that cannot be
written. -/
structure Answers (change : SchemaChange) (s : Statement) : Prop where
  table : s.table = change.tableName
  executable : s.isExecutable = true ↔ ¬change.DefinesBlank
  kind : ¬change.DefinesBlank → s.kind = change.kind
  phrases : ¬change.DefinesBlank → Carries s.sql (phrases change)
  comment : change.DefinesBlank → s.IsComment

theorem lacksExpression_iff (c : Column) :
    lacksExpression c = true ↔ c.isGenerated = true ∧ allBlank c.generationExpression = true := by
  simp [lacksExpression]

theorem answers_written {change : SchemaChange} {s : Statement} (written : ¬change.DefinesBlank)
    (table : s.table = change.tableName) (kind : s.kind = change.kind)
    (carries : Carries s.sql (phrases change)) : Answers change s := by
  refine ⟨table, ?_, fun _ => kind, fun _ => carries, fun blank => absurd blank written⟩
  rw [Statement.isExecutable, kind]
  cases change <;> simpa [SchemaChange.kind] using written

theorem answers_skipped {change : SchemaChange} {table : String} {s : Statement}
    (about : change.tableName = some table)
    (skipped : skipUnknown table change.definedColumns = some s) : Answers change s := by
  obtain ⟨c, found, rfl⟩ := Option.map_eq_some_iff.1 skipped
  have blank : change.DefinesBlank :=
    ⟨c, List.mem_of_find?_eq_some found, (lacksExpression_iff c).1 (List.find?_some found)⟩
  refine ⟨about.symm, ?_, fun written => absurd blank written, fun written => absurd blank written,
    fun _ => ?_⟩
  · simp [Statement.isExecutable, Statement.unsupported, blank]
  · exact Statement.unsupported_isComment _ _

theorem not_definesBlank (change : SchemaChange) {table : String}
    (none : skipUnknown table change.definedColumns = none) : ¬change.DefinesBlank := by
  rintro ⟨c, member, blank⟩
  have absent := List.find?_eq_none.1 (Option.map_eq_none_iff.1 none) c member
  exact absent ((lacksExpression_iff c).2 blank)

theorem changedOptions_ne_nil {old new : Table} (differ : old.optionsDiffer new = true) :
    changedOptions (.between old new) ≠ [] := by
  intro none
  have same : old.optionsDiffer new = false := by
    rw [Table.optionsDiffer_iff]
    simpa [changedOptions, OptionsChange.between, OptionsChange.newValue, and_assoc] using none
  rw [same] at differ
  cases differ

/-- A change set of a table that differs has a clause to write. -/
theorem alterTable_changesTo (table : String) {old new : Table} (changed : old.changed new = true)
    (written : skipUnknown table ((old.changesTo new).addedColumns ++
      (old.changesTo new).changedColumns.map (·.new)) = none) :
    ∃ sql, alterTable table (old.changesTo new) =
        [{ kind := .alterTable, table := some table, sql }] ∧
      Carries sql (phrases (.alterTable table (old.changesTo new))) := by
  have listed : (old.changesTo new).isEmpty ≠ true := by
    rw [ne_eq, Table.isEmpty_changesTo_iff, changed]
    decide
  unfold alterTable
  rw [written]
  dsimp only
  split
  · rename_i none
    -- Without a clause every list is empty, and options that differ would have given a clause.
    refine absurd ?_ listed
    simp only [List.isEmpty_iff, List.append_eq_nil_iff, List.map_eq_nil_iff] at none
    obtain ⟨⟨⟨⟨deleted, added⟩, modified⟩, indexes⟩, options⟩ := none
    have unchanged : (old.changesTo new).options = none := by
      cases differ : old.optionsDiffer new with
      | false => simp [Table.changesTo, differ]
      | true =>
        refine absurd ?_ (changedOptions_ne_nil differ)
        simpa [Table.changesTo, differ] using options
    simp [ChangeSet.isEmpty, deleted, added, modified, indexes, unchanged]
  · refine ⟨_, rfl, ?_⟩
    have name := ((carries_one (quoteIdentifier table)).after "ALTER TABLE ").before " "
    refine name.append ?_
    cases (old.changesTo new).options with
    | none => exact carries_join ", " _
    | some o =>
      rw [Option.toList_some, List.flatMap_singleton]
      exact carries_join ", " _

theorem carries_createTable (t : Table) (options : String)
    (carries : Carries options (tableOptions t)) :
    Carries ("CREATE TABLE " ++ quoteIdentifier t.name ++ " " ++
        parenthesized (join ", " (t.columns.map columnDefinition ++
          ((t.indexes.values.filter fun i => i.kind == .primary) ++
            t.indexes.values.filter fun i => i.kind != .primary).map indexDefinition)) ++ options)
      (phrases (.createTable t)) := by
  have name := ((carries_one (quoteIdentifier t.name)).after "CREATE TABLE ").before " "
  rw [List.map_append, ← List.append_assoc]
  have parts := ((carries_join ", " (t.columns.map columnDefinition ++
    (t.indexes.values.filter fun i => i.kind == .primary).map indexDefinition ++
    (t.indexes.values.filter fun i => i.kind != .primary).map indexDefinition)).after "(").before
      ")"
  exact (name.append parts).append carries

theorem carries_tableOptions (t : Table) :
    Carries (if (tableOptions t).isEmpty then "" else " " ++ join " " (tableOptions t))
      (tableOptions t) := by
  split
  · rename_i none
    rw [List.isEmpty_iff.1 none]
    exact trivial
  · exact (carries_join " " (tableOptions t)).after " "

theorem carries_alterSchema (name : String) (options : SchemaOptions) :
    Carries ("ALTER SCHEMA " ++ quoteIdentifier name ++
        (if options.charset = "" then "" else " DEFAULT CHARACTER SET " ++ options.charset) ++
        (if options.collation = "" then "" else " COLLATE " ++ options.collation))
      (phrases (.alterSchema name options)) := by
  have option (value label : String) :
      Carries (if value = "" then "" else label ++ value) [value] := by
    split
    · rename_i none
      rw [none]
      exact carries_one ""
    · exact (carries_one value).after label
  exact (((carries_one _).after _).append (option _ _)).append (option _ _)

theorem emit_schema (name : String) (options : SchemaOptions) :
    ∃ s, Dialect.mysql.emit (.alterSchema name options) = [s] ∧
      Answers (.alterSchema name options) s := by
  refine ⟨_, rfl, answers_written ?_ rfl rfl (carries_alterSchema name options)⟩
  rintro ⟨c, member, -⟩
  cases member

theorem emit_one {src dst : Option Table} {change : SchemaChange}
    (listed : tableChange src dst = some change) :
    ∃ s, Dialect.mysql.emit change = [s] ∧ Answers change s := by
  cases change with
  | alterSchema name options => exact emit_schema name options
  | dropTable t =>
    refine ⟨_, rfl, answers_written ?_ rfl rfl ((carries_one _).after "DROP TABLE ")⟩
    rintro ⟨c, member, -⟩
    cases member
  | createTable t =>
    show ∃ s, createTable t = [s] ∧ _
    unfold createTable
    cases skipped : skipUnknown t.name t.columns with
    | none =>
      exact ⟨_, rfl, answers_written (not_definesBlank (.createTable t) skipped) rfl rfl
        (carries_createTable t _ (carries_tableOptions t))⟩
    | some s => exact ⟨s, rfl, answers_skipped rfl skipped⟩
  | alterTable table changes =>
    show ∃ s, alterTable table changes = [s] ∧ _
    cases skipped : skipUnknown table
        (changes.addedColumns ++ changes.changedColumns.map (·.new)) with
    | none =>
      obtain ⟨s, d, -, -, changed, -, rfl⟩ := tableChange_alter listed
      obtain ⟨sql, emitted, carries⟩ := alterTable_changesTo table changed skipped
      refine ⟨_, emitted, answers_written ?_ rfl rfl carries⟩
      exact not_definesBlank (.alterTable table (s.changesTo d)) skipped
    | some s =>
      refine ⟨s, ?_, answers_skipped rfl skipped⟩
      unfold alterTable
      rw [skipped]

end MySql

/-! ### Statements for SQLite -/

namespace Sqlite

/-- What SQLite answers by a statement of its own. -/
inductive Part where
  | schemaOptions (name : String)
  | newTable (t : Table)
  | oldTable (t : Table)
  | oldIndex (i : Index)
  | newColumn (c : Column)
  | newForm (c : ColumnChange)
  | newIndex (i : Index)
  | tableOptions (o : OptionsChange)

namespace Part

def kind : Part → StatementKind
  | .schemaOptions _ => .unsupported
  | .newTable _ => .createTable
  | .oldTable _ => .dropTable
  | .oldIndex i => if i.kind = .primary then .unsupported else .dropIndex
  | .newColumn _ => .alterTable
  | .newForm _ => .unsupported
  | .newIndex i => if i.kind = .unique ∨ i.kind = .normal then .createIndex else .unsupported
  | .tableOptions _ => .unsupported

/-- The words by which the statement tells the part from others of its kind. -/
def words : Part → String
  | .schemaOptions name => name
  | .newTable t => quoteIdentifier t.name
  | .oldTable t => quoteIdentifier t.name
  | .oldIndex i => if i.kind = .primary then "primary key" else quoteIdentifier i.name
  | .newColumn c => columnDefinition c
  | .newForm c => c.new.name ++ " to " ++ columnDefinition c.new
  | .newIndex i =>
    match i.kind with
    | .primary => "primary key"
    | .unique => quoteIdentifier i.name
    | .normal => quoteIdentifier i.name
    | .fulltext => i.name
    | .spatial => i.name
  | .tableOptions _ => "table options"

end Part

/-- The parts of a change. The indexes that go stand before the columns, and the columns before
the indexes that come. -/
def parts : SchemaChange → List Part
  | .alterSchema name _ => [.schemaOptions name]
  | .createTable t =>
    .newTable t :: (t.indexes.values.filter fun i => i.kind != .primary).map .newIndex
  | .dropTable t => [.oldTable t]
  | .alterTable _ changes =>
    changes.deletedIndexes.map .oldIndex ++ changes.addedColumns.map .newColumn ++
      changes.changedColumns.map .newForm ++ changes.addedIndexes.map .newIndex ++
      changes.options.toList.map .tableOptions

def partCount : SchemaChange → Nat
  | .alterSchema .. => 1
  | .createTable t => 1 + (t.indexes.values.filter fun i => i.kind != .primary).length
  | .dropTable _ => 1
  | .alterTable _ changes =>
    changes.deletedIndexes.length + changes.addedColumns.length +
      changes.changedColumns.length + changes.addedIndexes.length +
      if changes.options.isSome then 1 else 0

theorem length_parts (change : SchemaChange) : (parts change).length = partCount change := by
  cases change with
  | alterSchema name options => rfl
  | createTable t => simp [parts, partCount, Nat.add_comm]
  | dropTable t => rfl
  | alterTable table changes =>
    simp only [parts, partCount, List.length_append, List.length_map]
    cases changes.options <;> rfl

structure Answers (table : Option String) (p : Part) (s : Statement) : Prop where
  table : s.table = table
  kind : s.kind = p.kind
  words : ∃ front back, s.sql = front ++ p.words ++ back

theorem answers_oldIndex (table : String) (i : Index) :
    Answers (some table) (.oldIndex i) (dropIndex table i) := by
  unfold dropIndex
  split
  · rename_i primary
    refine ⟨rfl, by simp [Part.kind, primary, Statement.unsupported], ?_⟩
    refine ⟨"-- SQLite cannot drop the ", " of " ++ table, ?_⟩
    simp [Part.words, primary, Statement.unsupported, ← String.append_assoc]
  · rename_i other
    refine ⟨rfl, by simp [Part.kind, other], "DROP INDEX ", "", ?_⟩
    simp [Part.words, other]

theorem answers_newIndex (table : String) (i : Index) :
    Answers (some table) (.newIndex i) (createIndex table i) := by
  unfold createIndex createIndexText
  cases kind : i.kind with
  | primary =>
    refine ⟨rfl, by simp [Part.kind, kind, Statement.unsupported], ?_⟩
    refine ⟨"-- SQLite cannot add a ", " to existing table " ++ table, ?_⟩
    simp [Part.words, kind, Statement.unsupported, ← String.append_assoc]
  | unique =>
    refine ⟨rfl, by simp [Part.kind, kind], "CREATE UNIQUE INDEX ",
      " ON " ++ quoteIdentifier table ++ " " ++ columnList i.columns, ?_⟩
    simp [Part.words, kind, ← String.append_assoc]
  | normal =>
    refine ⟨rfl, by simp [Part.kind, kind], "CREATE INDEX ",
      " ON " ++ quoteIdentifier table ++ " " ++ columnList i.columns, ?_⟩
    simp [Part.words, kind, ← String.append_assoc]
  | fulltext =>
    refine ⟨rfl, by simp [Part.kind, kind, Statement.unsupported], ?_⟩
    refine ⟨"-- SQLite has no Fulltext index, skipped ", "", ?_⟩
    simp [Part.words, kind, IndexKind.label, Statement.unsupported, ← String.append_assoc]
  | spatial =>
    refine ⟨rfl, by simp [Part.kind, kind, Statement.unsupported], ?_⟩
    refine ⟨"-- SQLite has no Spatial index, skipped ", "", ?_⟩
    simp [Part.words, kind, IndexKind.label, Statement.unsupported, ← String.append_assoc]

theorem answers_newColumn (table : String) (c : Column) :
    Answers (some table) (.newColumn c) (addColumn table c) := by
  refine ⟨rfl, rfl, "ALTER TABLE " ++ quoteIdentifier table ++ " ADD COLUMN ", "", ?_⟩
  simp [Part.words, addColumn]

theorem answers_newForm (table : String) (c : ColumnChange) :
    Answers (some table) (.newForm c) (modifyColumn table c) := by
  refine ⟨rfl, rfl, "-- SQLite cannot modify column " ++ table ++ ".", ", rebuild the table", ?_⟩
  simp [Part.words, modifyColumn, Statement.unsupported, ← String.append_assoc]

theorem answers_newTable (t : Table) :
    Answers (some t.name) (.newTable t)
      { kind := .createTable, table := some t.name, sql := createTableText t } := by
  refine ⟨rfl, rfl, "CREATE TABLE ", ?_⟩
  show ∃ back, createTableText t = "CREATE TABLE " ++ quoteIdentifier t.name ++ back
  unfold createTableText
  simp only [String.append_assoc]
  exact ⟨_, rfl⟩

/-- SQLite answers each part of a change once and in its place. -/
theorem answers_parts (change : SchemaChange) :
    List.Forall₂ (Answers change.tableName) (parts change) (Dialect.sqlite.emit change) := by
  cases change with
  | alterSchema name options =>
    refine .cons ⟨rfl, rfl, "-- SQLite has no schema options, skipped options of ", "", ?_⟩ .nil
    simp [Part.words, Statement.unsupported, ← String.append_assoc]
  | createTable t =>
    exact .cons (answers_newTable t) (forall₂_map_map fun i _ => answers_newIndex t.name i)
  | dropTable t =>
    refine .cons ⟨rfl, rfl, "DROP TABLE ", "", ?_⟩ .nil
    simp [Part.words, Dialect.quoteIdentifier]
  | alterTable table changes =>
    have options : List.Forall₂ (Answers (some table)) (changes.options.toList.map .tableOptions)
        (if changes.options.isSome then
          [.unsupported (some table) ("SQLite has no table options, skipped options of " ++ table)]
        else []) := by
      cases changes.options with
      | none => exact .nil
      | some o =>
        refine .cons ⟨rfl, rfl, "-- SQLite has no ", ", skipped options of " ++ table, ?_⟩ .nil
        simp [Part.words, Statement.unsupported, ← String.append_assoc]
    refine List.rel_append (List.rel_append (List.rel_append (List.rel_append ?_ ?_) ?_) ?_) options
    · exact forall₂_map_map fun i _ => answers_oldIndex table i
    · exact forall₂_map_map fun c _ => answers_newColumn table c
    · exact forall₂_map_map fun c _ => answers_newForm table c
    · exact forall₂_map_map fun i _ => answers_newIndex table i

end Sqlite

/-! ### The statements of a diff -/

theorem Snapshot.exists_tableChange_of_mem {src dst : Snapshot} {change : SchemaChange}
    (listed : change ∈ src.changesTo dst) :
    change = .alterSchema src.name dst.options ∨
      ∃ before after, tableChange before after = some change := by
  simp only [changesTo, List.mem_append, List.mem_filterMap] at listed
  rcases listed with (options | ⟨t, -, found⟩) | ⟨t, -, found⟩
  · split at options
    · cases options
    · exact .inl (List.mem_singleton.1 options)
  · exact .inr ⟨_, _, found⟩
  · exact .inr ⟨_, _, found⟩

/-- MySQL answers each change of a diff with one statement about the same table, which is a
comment exactly if the change defines a generated column with a blank expression, and which has a
clause for each part of the change otherwise. SQLite answers each part of every change with one
statement. -/
theorem Snapshot.emission_complete (src dst : Snapshot) :
    List.Forall₂ MySql.Answers (src.changesTo dst)
        (Dialect.mysql.emitAll (src.changesTo dst)) ∧
      ∀ change : SchemaChange,
        List.Forall₂ (Sqlite.Answers change.tableName) (Sqlite.parts change)
            (Dialect.sqlite.emit change) ∧
          (Dialect.sqlite.emit change).length = Sqlite.partCount change := by
  constructor
  · refine forall₂_flatMap_one fun change listed => ?_
    rcases exists_tableChange_of_mem listed with rfl | ⟨before, after, found⟩
    · exact MySql.emit_schema _ _
    · exact MySql.emit_one found
  · intro change
    have answered := Sqlite.answers_parts change
    exact ⟨answered, answered.length_eq.symm.trans (Sqlite.length_parts change)⟩

end SchemaShift
