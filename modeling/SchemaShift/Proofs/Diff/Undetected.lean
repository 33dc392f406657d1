import SchemaShift.Catalog.MySql
import SchemaShift.Ddl.Dialect
import SchemaShift.Proofs.Catalog.Defaults
import SchemaShift.Proofs.Diff.EmptyDiff
import SchemaShift.Proofs.Schema.Modifiers

/-!
# Changes that are not detected

The comparison of two columns passes over their auto-increment flags, which MySQL is told of. The
flag says no more than the modifiers do, whatever way a column was made, and those are compared. So
what is not detected does not change the definition.
-/

namespace SchemaShift

open Text

/-! ### The making of columns -/

inductive ColumnStep where
  | notNull
  | default (value : String)
  | key (role : KeyRole)
  | autoIncrement
  | comment (text : String)
  | extra (modifiers : String)
  | generated (expression : String) (stored : Bool)

namespace Column

def take (c : Column) : ColumnStep → Column
  | .notNull => c.notNull
  | .default value => c.withDefault value
  | .key role => c.withKey role
  | .autoIncrement => c.withAutoIncrement
  | .comment text => c.withComment text
  | .extra modifiers => c.withExtra modifiers
  | .generated expression stored => c.generatedAs expression stored

inductive Made : Column → Prop
  | ofType (name declared : String) : Made (.ofType name declared)
  | take {c : Column} (made : Made c) (step : ColumnStep) : Made (c.take step)
  | mysql {row : Store.ColumnRow} {c : Column} (read : Catalog.MySql.column row = .ok c) : Made c
  | sqlite {t : Store.CatalogTable} {c : Column}
      (listed : c ∈ (Catalog.Sqlite.table t).columns) : Made c

/-- The flag follows the modifiers. -/
def FlagSaid (c : Column) : Prop :=
  c.autoIncrement = saysAutoIncrement c.extra

theorem flagSaid_ofType (name declared : String) : (ofType name declared).FlagSaid := by
  have unsaid : saysAutoIncrement "" = false := by decide
  exact unsaid.symm

theorem flagSaid_withAutoIncrement (c : Column) : c.withAutoIncrement.FlagSaid := by
  unfold FlagSaid withAutoIncrement
  dsimp only
  split
  · rename_i said
    exact said.symm
  · have itself : saysAutoIncrement "auto_increment" = true := by decide
    rw [saysAutoIncrement_addModifier, itself, Bool.or_true]

/-- The words for a generated column are none of those for a counting one. -/
theorem flagSaid_generatedAs {c : Column} (flag : c.FlagSaid) (expression : String)
    (stored : Bool) : (c.generatedAs expression stored).FlagSaid := by
  have unsaid : saysAutoIncrement (if stored then "STORED GENERATED" else "VIRTUAL GENERATED") =
      false := by
    cases stored <;> decide
  unfold FlagSaid generatedAs
  rw [saysAutoIncrement_addModifier, unsaid, Bool.or_false]
  exact flag

theorem flagSaid_take {c : Column} (flag : c.FlagSaid) (step : ColumnStep) :
    (c.take step).FlagSaid := by
  cases step with
  | notNull => exact flag
  | default value => exact flag
  | key role => exact flag
  | autoIncrement => exact flagSaid_withAutoIncrement c
  | comment text => exact flag
  | extra modifiers => simp only [FlagSaid, take, withExtra]
  | generated expression stored => exact flagSaid_generatedAs flag expression stored

end Column

/-! ### Columns that a catalog describes -/

namespace Catalog

theorem bind_ok {α β : Type} {first : Except DatabaseError α}
    {next : α → Except DatabaseError β} {b : β} (read : (first >>= next) = .ok b) :
    ∃ a, first = .ok a ∧ next a = .ok b := by
  cases first with
  | error e => cases read
  | ok a => exact ⟨a, rfl, read⟩

theorem MySql.column_ok {row : Store.ColumnRow} {c : Column} (read : MySql.column row = .ok c) :
    (∃ word, c.dataType = lower word) ∧ (∃ type, c.columnType = lower type) ∧ c.FlagSaid := by
  unfold MySql.column at read
  obtain ⟨name, -, read⟩ := bind_ok read
  obtain ⟨dataType, -, read⟩ := bind_ok read
  obtain ⟨columnType, -, read⟩ := bind_ok read
  obtain ⟨isNullable, -, read⟩ := bind_ok read
  obtain ⟨key, -, read⟩ := bind_ok read
  obtain ⟨extra, -, read⟩ := bind_ok read
  obtain ⟨comment, -, read⟩ := bind_ok read
  cases read
  exact ⟨⟨dataType, rfl⟩, ⟨columnType, rfl⟩, rfl⟩

theorem MySql.flagSaid_column {row : Store.ColumnRow} {c : Column}
    (read : MySql.column row = .ok c) : c.FlagSaid :=
  (MySql.column_ok read).2.2

namespace Sqlite

open Store

theorem columns_table (t : CatalogTable) : ∃ role : Column → KeyRole, (table t).columns =
    t.listed.map fun c => (column (isCounting t) c).withKey (role (column (isCounting t) c)) := by
  obtain ⟨role, assigned⟩ := assignKeyRoles_eq (t.listed.map (column (isCounting t)))
    (indexes t).values
  refine ⟨role, ?_⟩
  rw [table, assigned, List.map_map]
  rfl

theorem flagSaid_column (counting : Bool) (c : CatalogColumn) : (column counting c).FlagSaid := by
  unfold column
  dsimp only
  split
  · exact Column.flagSaid_withAutoIncrement _
  · exact Column.flagSaid_ofType c.name c.declared

theorem flagSaid_table (t : CatalogTable) : ∀ c ∈ (table t).columns, c.FlagSaid := by
  obtain ⟨role, columns⟩ := columns_table t
  rw [columns]
  exact List.forall_mem_map.2 fun c _ => flagSaid_column (isCounting t) c

end Sqlite

end Catalog

/-! ### The definition of an unchanged column -/

namespace Column

theorem Made.flagSaid {c : Column} (made : c.Made) : c.FlagSaid := by
  induction made with
  | ofType name declared => exact flagSaid_ofType name declared
  | take _ step flag => exact flagSaid_take flag step
  | mysql read => exact Catalog.MySql.flagSaid_column read
  | sqlite listed => exact Catalog.Sqlite.flagSaid_table _ _ listed

/-- Nothing but its role in the keys is left to tell the columns apart. -/
theorem eq_withKey {a b : Column} (same : a.SameDefinition b)
    (flag : a.autoIncrement = b.autoIncrement)
    (expression : a.generationExpression = b.generationExpression) : a = b.withKey a.key := by
  cases a
  cases b
  obtain ⟨⟩ := same
  simp_all [withKey]

theorem columnDefinition_withKey (d : Dialect) (c : Column) (key : KeyRole) :
    d.columnDefinition (c.withKey key) = d.columnDefinition c := by
  cases d <;> rfl

theorem columnDefinition_unchanged {a b : Column} (ha : a.Made) (hb : b.Made)
    (expression : a.generationExpression = b.generationExpression)
    (unchanged : a.differs b = false) (d : Dialect) :
    d.columnDefinition a = d.columnDefinition b := by
  have same := (differs_eq_false_iff a b).1 unchanged
  have flag : a.autoIncrement = b.autoIncrement := by
    rw [ha.flagSaid, hb.flagSaid, same.extra]
  rw [eq_withKey same flag expression, columnDefinition_withKey]

/-- A table of tasks, counted up by their number. -/
def tasksTable : Store.CatalogTable :=
  { name := "tasks"
    definition := "tasks (id INTEGER PRIMARY KEY AUTOINCREMENT)"
    columns :=
      [{ name := "id", declared := "INTEGER", notNull := false, default? := none, keyOrdinal := 1,
         isGenerated := false }]
    indexes := [] }

/-- The label of a task, which the server makes from its title. -/
def labelRow : Store.ColumnRow :=
  { schema := some "work", table := some "tasks", ordinal := some 2, name := some "label"
    dataType := some "varchar", columnType := some "varchar(80)", isNullable := some "YES"
    default? := none, charLength := some 80, numericPrecision := none, numericScale := none
    datetimePrecision := none, key := some "MUL", extra := some "STORED GENERATED"
    comment := some "", generation := some "upper(title)" }

theorem tasks_columnDefinition_unchanged :
    let id := (ofType "id" " integer").take .autoIncrement
    let label := (ofType "label" "VARCHAR(80)").take (.generated "upper(title)" true)
    (∃ c ∈ (Catalog.Sqlite.table tasksTable).columns, c.differs id = false ∧ c.key ≠ id.key ∧
      ∀ d : Dialect, d.columnDefinition c = d.columnDefinition id) ∧
    ∃ c, Catalog.MySql.column labelRow = .ok c ∧ c.differs label = false ∧ c.key ≠ label.key ∧
      ∀ d : Dialect, d.columnDefinition c = d.columnDefinition label := by
  have id := (Made.ofType "id" " integer").take .autoIncrement
  have label := (Made.ofType "label" "VARCHAR(80)").take (.generated "upper(title)" true)
  refine ⟨⟨(ofType "id" "INTEGER").withAutoIncrement.withKey .primary, ?_, ?_⟩, _, rfl, ?_⟩
  · decide +kernel
  · have listed : (ofType "id" "INTEGER").withAutoIncrement.withKey .primary ∈
        (Catalog.Sqlite.table tasksTable).columns := by decide +kernel
    exact ⟨by decide +kernel, by decide +kernel, columnDefinition_unchanged (.sqlite listed) id
      (by decide +kernel) (by decide +kernel)⟩
  · have read : Catalog.MySql.column labelRow = .ok _ := rfl
    exact ⟨by decide +kernel, by decide +kernel, columnDefinition_unchanged (.mysql read) label
      (by decide +kernel) (by decide +kernel)⟩

end Column

end SchemaShift
