import Mathlib.Tactic.SplitIfs
import SchemaShift.Proofs.Catalog.ListedTables
import SchemaShift.Proofs.Catalog.OwnRows
import SchemaShift.Proofs.Diff.Undetected
import SchemaShift.Proofs.Schema.IndexGrowth

/-!
# What introspection finds

The two catalogs have little in common: one gives declared types, from which keys and modifiers are
worked out, and the other gives rows with all of that in them. Whatever they hold, the snapshots
that are read from them are introspected in the same sense.
-/

namespace SchemaShift

open Text Store

/-! ### Names in the order of their bytes -/

namespace Text

/-- The bytes of the UTF-8 form. -/
def utf8Bytes (s : String) : List UInt8 :=
  s.toUTF8.data.toList

theorem utf8Bytes_eq (s : String) :
    utf8Bytes s = s.toList.flatMap String.utf8EncodeChar := by
  have bytes : s.toByteArray = (s.toList.flatMap String.utf8EncodeChar).toByteArray :=
    String.utf8Encode_toList.symm
  show s.toByteArray.data.toList = _
  rw [bytes]
  simp

/-- The bytes of a character tell it from every greater one, whatever follows. -/
theorem encode_lt {c d : Char} (lt : c < d) (xs ys : List UInt8) :
    String.utf8EncodeChar c ++ xs < String.utf8EncodeChar d ++ ys := by
  have below : c.val.toNat < d.val.toNat := lt
  have last : d.val.toNat < 0x110000 := by
    rcases d.valid with low | ⟨-, high⟩
    · exact Nat.lt_trans low (by decide)
    · exact high
  -- The bytes hold the digits to base 64; both quotients are to be written with that base.
  have twice (n : Nat) : n / 4096 = n / 64 / 64 := (Nat.div_div_eq_div_mul n 64 64).symm
  have thrice (n : Nat) : n / 262144 = n / 64 / 64 / 64 := by
    rw [Nat.div_div_eq_div_mul, Nat.div_div_eq_div_mul]
  unfold String.utf8EncodeChar
  generalize c.val.toNat = v at *
  generalize d.val.toNat = w at *
  dsimp only
  split_ifs
  all_goals
    simp only [List.cons_append, List.nil_append, List.cons_lt_cons_iff, UInt8.lt_iff_toNat_lt,
      ← UInt8.toNat_inj, UInt8.toNat_ofNat', twice, thrice]
    omega

theorem utf8Bytes_lt {a b : String} (lt : a < b) : utf8Bytes a < utf8Bytes b := by
  have chars : a.toList < b.toList := lt
  rw [utf8Bytes_eq, utf8Bytes_eq]
  generalize a.toList = cs at chars
  generalize b.toList = ds at chars
  induction cs generalizing ds with
  | nil =>
    cases ds with
    | nil => cases chars
    | cons d ds =>
      obtain ⟨x, xs, first⟩ :=
        List.exists_cons_of_ne_nil (String.utf8EncodeChar_ne_nil (c := d))
      rw [List.flatMap_cons, first]
      exact List.nil_lt_cons _ _
  | cons c cs ih =>
    cases ds with
    | nil => cases chars
    | cons d ds =>
      rw [List.flatMap_cons, List.flatMap_cons]
      rcases List.cons_lt_cons_iff.1 chars with less | ⟨rfl, later⟩
      · exact encode_lt less _ _
      · exact List.append_left_lt (ih ds later)

theorem utf8Bytes_le {a b : String} (le : a ≤ b) : utf8Bytes a ≤ utf8Bytes b := by
  by_cases same : a = b
  · subst same
    exact Std.le_refl _
  · exact Std.le_of_lt (utf8Bytes_lt (Std.lt_of_le_of_ne le same))

end Text

/-! ### Introspected snapshots -/

/-- The flag says what the modifiers say, and the types are written without capitals. -/
structure Column.Introspected (c : Column) : Prop where
  flag : c.autoIncrement = true ↔
    "auto_increment".toList <:+: c.extra.toList.map Char.toLower
  dataType : ∀ x ∈ c.dataType.toList, x.isUpper = false
  columnType : ∀ x ∈ c.columnType.toList, x.isUpper = false

/-- The index of this name: it has members, all of them carry the name, and the first of them
settles the kind. -/
structure Index.Introspected (name : String) (i : Index) : Prop where
  named : i.name = name
  first : ∃ first rest, i.members = first :: rest ∧ i.kind = first.kind
  members : ∀ m ∈ i.members, m.indexName = name

structure Table.Introspected (t : Table) : Prop where
  name : t.name ≠ bookkeepingName
  columns : ∀ c ∈ t.columns, c.Introspected
  indexes : ∀ name i, t.indexes.find? name = some i → i.Introspected name

structure Snapshot.Introspected (found : Snapshot) : Prop where
  ascending : found.tables.Pairwise fun a b => utf8Bytes a.name ≤ utf8Bytes b.name
  tables : ∀ t ∈ found.tables, t.Introspected

theorem Index.introspected_group {rows : List IndexMember} {name : String} {i : Index}
    (found : (group rows).find? name = some i) : i.Introspected name := by
  rw [find?_group] at found
  have named : ∀ m ∈ rows.filter fun r => r.indexName == name, m.indexName = name :=
    fun m member => beq_iff_eq.1 (List.mem_filter.1 member).2
  cases same : rows.filter fun r => r.indexName == name with
  | nil =>
    rw [same] at found
    cases found
  | cons first rest =>
    rw [same] at found named
    cases found
    exact ⟨named first List.mem_cons_self, ⟨first, rest, rfl, rfl⟩, named⟩

theorem Column.FlagSaid.iff {c : Column} (flag : c.FlagSaid) : c.autoIncrement = true ↔
    "auto_increment".toList <:+: c.extra.toList.map Char.toLower := by
  rw [flag, saysAutoIncrement, contains_iff, toList_lower]

theorem Text.isUpper_of_mem_lower {s : String} {x : Char} (member : x ∈ (lower s).toList) :
    x.isUpper = false := by
  rw [toList_lower] at member
  obtain ⟨c, -, rfl⟩ := List.mem_map.1 member
  exact isUpper_toLower c

namespace Catalog

/-! ### Tables from declared types -/

namespace Sqlite

theorem mem_base {declared : String} {x : Char}
    (member : x ∈ (DeclaredType.parse declared).base.toList) :
    x ∈ declared.toList.map Char.toLower := by
  rw [DeclaredType.parse, String.toList_ofList] at member
  obtain ⟨front, back, whole, -, -⟩ := strip_between (declared.toList.map Char.toLower)
  have word := (List.takeWhile_sublist _).subset member
  have rest := (List.dropWhile_sublist _).subset word
  have inside := (List.takeWhile_sublist _).subset rest
  rw [whole]
  exact List.mem_append_right front (List.mem_append_left back inside)

theorem introspected_column (counting : Bool) (c : CatalogColumn) (role : KeyRole) :
    ((column counting c).withKey role).Introspected := by
  have flag : ((column counting c).withKey role).FlagSaid := flagSaid_column counting c
  have dataType : ((column counting c).withKey role).dataType =
      (Column.ofType c.name c.declared).dataType := by
    unfold column
    dsimp only
    split <;> rfl
  have columnType : ((column counting c).withKey role).columnType =
      (Column.ofType c.name c.declared).columnType := by
    unfold column
    dsimp only
    split <;> rfl
  refine ⟨flag.iff, ?_, ?_⟩
  · rw [dataType]
    intro x member
    obtain ⟨y, -, rfl⟩ := List.mem_map.1 (mem_base member)
    exact isUpper_toLower y
  · rw [columnType]
    exact fun x member => isUpper_of_mem_lower member

theorem introspected_table {t : CatalogTable} (shown : isHidden t.name = false) :
    (table t).Introspected := by
  obtain ⟨role, columns⟩ := columns_table t
  refine ⟨?_, ?_, fun name i found => Index.introspected_group found⟩
  · have other : (t.name == bookkeepingName) = false := (Bool.or_eq_false_iff.1 shown).2
    exact beq_eq_false_iff_ne.1 other
  · rw [columns]
    exact List.forall_mem_map.2 fun c _ => introspected_column _ c _

theorem introspected_tables {s : Store} {schema : String} {found : List Table}
    (read : tables s schema = .ok found) :
    (found.Pairwise fun a b => a.name ≤ b.name) ∧ ∀ t ∈ found, t.Introspected := by
  cases listed : schemaTables s schema with
  | error e =>
    rw [tables, listed] at read
    cases read
  | ok entries =>
    rw [tables_ok listed] at read
    cases read
    refine ⟨List.pairwise_map.2 ?_, List.forall_mem_map.2 fun t member => ?_⟩
    · exact mergeSort_ascending _
    · have kept := (List.mem_filter.1 (List.mem_mergeSort.1 member)).2
      exact introspected_table (by simpa using kept)

end Sqlite

/-! ### Tables from rows -/

theorem mapM_ok {α β : Type} {f : α → Except DatabaseError β} {l : List α} {found : List β}
    (read : l.mapM f = .ok found) : l.map f = found.map .ok := by
  induction l generalizing found with
  | nil =>
    cases read
    rfl
  | cons a l ih =>
    rw [List.mapM_cons] at read
    obtain ⟨b, first, read⟩ := bind_ok read
    obtain ⟨rest, later, read⟩ := bind_ok read
    cases read
    rw [List.map_cons, first, ih later, List.map_cons]

theorem mem_of_mapM_ok {α β : Type} {f : α → Except DatabaseError β} {l : List α}
    {found : List β} (read : l.mapM f = .ok found) {b : β} (member : b ∈ found) :
    ∃ a ∈ l, f a = .ok b := by
  have listed : Except.ok b ∈ l.map f := mapM_ok read ▸ List.mem_map_of_mem member
  exact List.mem_map.1 listed

theorem pairwise_of_mapM_ok {α β : Type} {f : α → Except DatabaseError β} {l : List α}
    {found : List β} {R : α → α → Prop} {T : β → β → Prop}
    (read : l.mapM f = .ok found) (sorted : l.Pairwise R)
    (step : ∀ a b x y, f a = .ok x → f b = .ok y → R a b → T x y) :
    found.Pairwise T := by
  have lifted : (l.map f).Pairwise fun p q => ∀ x y, p = .ok x → q = .ok y → T x y :=
    List.pairwise_map.2 (sorted.imp fun {a b} related x y first second =>
      step a b x y first second related)
  rw [mapM_ok read, List.pairwise_map] at lifted
  exact lifted.imp fun related => related _ _ rfl rfl

namespace MySql

theorem introspected_column {row : ColumnRow} {c : Column} (read : column row = .ok c) :
    c.Introspected := by
  obtain ⟨⟨word, dataType⟩, ⟨type, columnType⟩, flag⟩ := column_ok read
  refine ⟨flag.iff, ?_, ?_⟩
  · rw [dataType]
    exact fun x member => isUpper_of_mem_lower member
  · rw [columnType]
    exact fun x member => isUpper_of_mem_lower member

theorem table_ok {i : InformationSchema} {schema : String} {row : TableRow} {t : Table}
    (read : table i schema row = .ok t) :
    row.name = some t.name ∧ (∃ rows, t.indexes = Index.group rows) ∧
      ∀ c ∈ t.columns, ∃ r, column r = .ok c := by
  unfold table at read
  obtain ⟨name, named, read⟩ := bind_ok read
  obtain ⟨columns, described, read⟩ := bind_ok read
  obtain ⟨rows, -, read⟩ := bind_ok read
  cases read
  refine ⟨?_, ⟨rows, rfl⟩, fun c member => ?_⟩
  · cases cell : row.name with
    | none =>
      rw [cell] at named
      cases named
    | some text =>
      rw [cell] at named
      cases named
      rfl
  · obtain ⟨r, -, from_row⟩ := mem_of_mapM_ok described member
    exact ⟨r, from_row⟩

theorem introspected_table {i : InformationSchema} {schema : String} {row : TableRow} {t : Table}
    (shown : isShown schema row = true) (read : table i schema row = .ok t) : t.Introspected := by
  obtain ⟨named, ⟨rows, grouped⟩, columns⟩ := table_ok read
  refine ⟨?_, fun c member => ?_, fun name i found => ?_⟩
  · rw [isShown, named] at shown
    simpa using (Bool.and_eq_true_iff.1 shown).2
  · obtain ⟨r, described⟩ := columns c member
    exact introspected_column described
  · rw [grouped] at found
    exact Index.introspected_group found

theorem introspected_tables {s : Store} {schema : String} {found : List Table}
    (read : tables s schema = .ok found) :
    (found.Pairwise fun a b => a.name ≤ b.name) ∧ ∀ t ∈ found, t.Introspected := by
  unfold tables at read
  obtain ⟨i, -, read⟩ := bind_ok read
  refine ⟨?_, fun t member => ?_⟩
  · have sorts := textLe_sorts.cell.on TableRow.name
    have sorted := List.pairwise_mergeSort sorts.trans sorts.total
      (i.tables.filter (isShown schema))
    -- A table that could be read has a name, so the nulls of the order play no part.
    refine pairwise_of_mapM_ok read sorted fun a b x y first second le => ?_
    rw [(table_ok first).1, (table_ok second).1] at le
    exact of_decide_eq_true le
  · obtain ⟨row, listed, described⟩ := mem_of_mapM_ok read member
    exact introspected_table (List.mem_filter.1 (List.mem_mergeSort.1 listed)).2 described

end MySql

end Catalog

/-! ### Snapshots -/

/-- Whatever is in the catalog that a driver reads a snapshot from, the snapshot is introspected. -/
theorem Snapshot.introspected {d : Driver} (known : d = .mysql ∨ d = .sqlite) {s : Store}
    {schema : String} {found : Snapshot} (read : d.snapshot s schema = .ok found) :
    found.Introspected := by
  have tables := Driver.snapshot_tables read
  have listed : (found.tables.Pairwise fun a b => a.name ≤ b.name) ∧
      ∀ t ∈ found.tables, t.Introspected := by
    rcases known with rfl | rfl
    · exact Catalog.MySql.introspected_tables tables
    · exact Catalog.Sqlite.introspected_tables tables
  exact ⟨listed.1.imp fun le => utf8Bytes_le le, listed.2⟩

namespace Catalog

open Store

def crateColumn : CatalogColumn :=
  { name := "id", declared := " INTEGER", notNull := false, default? := none, keyOrdinal := 1,
    isGenerated := false }

def crateRow : ColumnRow :=
  { schema := some "stock", table := some "crates", ordinal := some 1, name := some "id"
    dataType := some "BIGINT", columnType := some "BIGINT UNSIGNED", isNullable := some "NO"
    default? := none, charLength := none, numericPrecision := some 20, numericScale := some 0
    datetimePrecision := none, key := some "PRI", extra := some "Auto_Increment"
    comment := some "", generation := none }

def stockRow (name : String) : TableRow :=
  { schema := some "stock", name := some name, type := some "BASE TABLE", engine := some "InnoDB"
    collation := none, comment := none }

/-- A store that both drivers can read, with the bookkeeping table in both catalogs. -/
def stockStore : Store :=
  { Store.fresh "2024-01-01 00:00:00" with
    tables :=
      [{ name := "ksql_migrate_info", definition := "", columns := [], indexes := [] },
       { name := "crates", definition := "crates (id INTEGER PRIMARY KEY AUTOINCREMENT, at TEXT)"
         columns := [crateColumn, { crateColumn with name := "at", keyOrdinal := 0 }]
         indexes := [{ name := "by_time", unique := true, origin := .statement,
                       members := [some "at", none] }] }]
    informationSchema := some
      { schemata := []
        tables := ["ksql_migrate_info", "crates"].map stockRow
        columns := [crateRow]
        statistics :=
          [{ schema := some "stock", table := some "crates", index := some "PRIMARY"
             nonUnique := some 0, column := some "id", position := some 1, method := some "BTREE"
             comment := some "" }] } }

def outline (found : Snapshot) : List (String × List Bool × List String) :=
  found.tables.map fun t => (t.name, t.columns.map (·.autoIncrement), t.indexes.keys)

theorem stock_introspected :
    (∃ found, Driver.mysql.snapshot stockStore "stock" = .ok found ∧ found.Introspected ∧
      outline found = [("crates", [true], ["PRIMARY"])]) ∧
    ∃ found, Driver.sqlite.snapshot stockStore "main" = .ok found ∧ found.Introspected ∧
      outline found = [("crates", [true, false], ["PRIMARY", "by_time"])] := by
  have rows : (Driver.mysql.snapshot stockStore "stock").toOption.map outline =
      some [("crates", [true], ["PRIMARY"])] := by
    decide +kernel
  have declared : (Driver.sqlite.snapshot stockStore "main").toOption.map outline =
      some [("crates", [true, false], ["PRIMARY", "by_time"])] := by
    decide +kernel
  constructor
  · cases read : Driver.mysql.snapshot stockStore "stock" with
    | error e =>
      rw [read] at rows
      cases rows
    | ok found =>
      rw [read] at rows
      exact ⟨found, rfl, Snapshot.introspected (.inl rfl) read, Option.some.inj rows⟩
  · cases read : Driver.sqlite.snapshot stockStore "main" with
    | error e =>
      rw [read] at declared
      cases declared
    | ok found =>
      rw [read] at declared
      exact ⟨found, rfl, Snapshot.introspected (.inr rfl) read, Option.some.inj declared⟩

end Catalog

end SchemaShift
