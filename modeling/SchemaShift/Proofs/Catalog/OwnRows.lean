import Mathlib.Data.List.Nodup
import SchemaShift.Catalog.Driver

/-!
# Rows of one schema

INFORMATION_SCHEMA describes all schemas of a server at once. A snapshot of one of them is read
from its own rows alone, and where the keys of these rows are unique, from their order neither.
-/

namespace SchemaShift

open Store

/-! ### Contents -/

namespace Store.InformationSchema

/-- The rows about one schema. -/
def only (i : InformationSchema) (schema : String) : InformationSchema :=
  { schemata := i.schemata.filter fun r => r.schema == some schema
    tables := i.tables.filter fun r => r.schema == some schema
    columns := i.columns.filter fun r => r.schema == some schema
    statistics := i.statistics.filter fun r => r.schema == some schema }

/-- The same rows, in whatever order. -/
structure SameRows (i j : InformationSchema) : Prop where
  schemata : i.schemata.Perm j.schemata
  tables : i.tables.Perm j.tables
  columns : i.columns.Perm j.columns
  statistics : i.statistics.Perm j.statistics

/-- What rows about a single schema do not share. -/
structure Keyed (i : InformationSchema) : Prop where
  schemata : i.schemata.length ≤ 1
  tables : (i.tables.map (·.name)).Nodup
  columns : (i.columns.map fun r => (r.table, r.ordinal)).Nodup
  statistics : (i.statistics.map fun r => (r.table, r.index, r.position)).Nodup

end Store.InformationSchema

namespace Catalog.MySql

/-- What a snapshot of the schema is made of: its options, and its tables by name. -/
def contents (i : InformationSchema) (schema : String) :
    Except DatabaseError SchemaOptions × Except DatabaseError (List Table) :=
  (match i.schemata.find? fun r => r.schema == some schema with
    | none => .ok { charset := "", collation := "" }
    | some r => do
      let charset ← need r.charset
      let collation ← need r.collation
      return { charset, collation },
    ((i.tables.filter (isShown schema)).mergeSort fun a b => cellLe textLe a.name b.name).mapM
      (table i schema))

theorem contents_eq {s : Store} {i : InformationSchema} (held : s.informationSchema = some i)
    (schema : String) : contents i schema = (options s schema, tables s schema) := by
  unfold contents options tables described
  rw [held]
  rfl

/-! ### The order of rows -/

/-- The test puts values in order by their keys. -/
structure Sorts {α κ : Type} (le : α → α → Bool) (key : α → κ) : Prop where
  trans : ∀ a b c, le a b → le b c → le a c
  total : ∀ a b, (le a b || le b a) = true
  ties : ∀ a b, le a b → le b a → key a = key b

theorem Sorts.mergeSort_eq {α κ : Type} {le : α → α → Bool} {key : α → κ} (sorts : Sorts le key)
    {l m : List α} (same : l.Perm m) (distinct : (l.map key).Nodup) :
    l.mergeSort le = m.mergeSort le := by
  have order : (l.mergeSort le).Perm (m.mergeSort le) :=
    ((List.mergeSort_perm l le).trans same).trans (List.mergeSort_perm m le).symm
  refine order.eq_of_pairwise ?_ (List.pairwise_mergeSort sorts.trans sorts.total l)
    (List.pairwise_mergeSort sorts.trans sorts.total m)
  intro a b first second below above
  refine List.inj_on_of_nodup_map distinct ?_ ?_ (sorts.ties a b below above)
  · exact List.mem_mergeSort.1 first
  · exact same.mem_iff.2 (List.mem_mergeSort.1 second)

theorem Sorts.on {α β κ : Type} {le : α → α → Bool} {key : α → κ} (sorts : Sorts le key)
    (f : β → α) : Sorts (fun a b => le (f a) (f b)) fun b => key (f b) where
  trans := fun a b c => sorts.trans (f a) (f b) (f c)
  total := fun a b => sorts.total (f a) (f b)
  ties := fun a b => sorts.ties (f a) (f b)

theorem textLe_sorts : Sorts textLe fun a => a where
  trans := by
    intro a b c ab bc
    rw [textLe, decide_eq_true_iff] at ab bc ⊢
    exact String.le_trans ab bc
  total := by
    intro a b
    rw [Bool.or_eq_true, textLe, textLe, decide_eq_true_iff, decide_eq_true_iff]
    exact String.le_total a b
  ties := by
    intro a b ab ba
    rw [textLe, decide_eq_true_iff] at ab ba
    exact String.le_antisymm ab ba

theorem numberLe_sorts : Sorts numberLe fun a => a where
  trans := by
    intro a b c ab bc
    rw [numberLe, decide_eq_true_iff] at ab bc ⊢
    exact Int64.le_trans ab bc
  total := by
    intro a b
    rw [Bool.or_eq_true, numberLe, numberLe, decide_eq_true_iff, decide_eq_true_iff]
    exact Int64.le_total a b
  ties := by
    intro a b ab ba
    rw [numberLe, decide_eq_true_iff] at ab ba
    exact Int64.le_antisymm ab ba

theorem Sorts.cell {α : Type} {le : α → α → Bool} (sorts : Sorts le fun a => a) :
    Sorts (cellLe le) fun a => a where
  trans := by
    intro a b c ab bc
    cases a with
    | none => rfl
    | some a =>
      cases b with
      | none => cases ab
      | some b =>
        cases c with
        | none => cases bc
        | some c => exact sorts.trans a b c ab bc
  total := by
    intro a b
    cases a with
    | none => rfl
    | some a =>
      cases b with
      | none => rfl
      | some b => exact sorts.total a b
  ties := by
    intro a b ab ba
    cases a with
    | none =>
      cases b with
      | none => rfl
      | some b => cases ba
    | some a =>
      cases b with
      | none => cases ab
      | some b => exact congrArg some (sorts.ties a b ab ba)

theorem rowLe_sorts : Sorts rowLe fun r => (r.index, r.position) where
  trans := by
    intro a b c ab bc
    unfold rowLe at ab bc ⊢
    by_cases first : a.index = b.index
    · rw [if_pos first] at ab
      rw [first]
      by_cases second : b.index = c.index
      · rw [if_pos second] at bc ⊢
        exact numberLe_sorts.cell.trans _ _ _ ab bc
      · rw [if_neg second] at bc ⊢
        exact bc
    · rw [if_neg first] at ab
      by_cases second : b.index = c.index
      · rw [← second, if_neg first]
        exact ab
      · rw [if_neg second] at bc
        have outer := textLe_sorts.cell.trans _ _ _ ab bc
        by_cases round : a.index = c.index
        · rw [← round] at bc
          exact absurd (textLe_sorts.cell.ties _ _ ab bc) first
        · rw [if_neg round]
          exact outer
  total := by
    intro a b
    unfold rowLe
    by_cases same : a.index = b.index
    · rw [if_pos same, if_pos same.symm]
      exact numberLe_sorts.cell.total a.position b.position
    · rw [if_neg same, if_neg (Ne.symm same)]
      exact textLe_sorts.cell.total a.index b.index
  ties := by
    intro a b ab ba
    unfold rowLe at ab ba
    by_cases same : a.index = b.index
    · rw [if_pos same] at ab
      rw [if_pos same.symm] at ba
      rw [same, numberLe_sorts.cell.ties _ _ ab ba]
    · rw [if_neg same] at ab
      rw [if_neg (Ne.symm same)] at ba
      exact absurd (textLe_sorts.cell.ties _ _ ab ba) same

/-! ### Rows of other schemas -/

/-- Rows that are picked from the own ones are the rows that are picked from all. -/
theorem filter_own {α : Type} {own picked : α → Bool} (l : List α)
    (inside : ∀ a, picked a = true → own a = true) :
    (l.filter own).filter picked = l.filter picked := by
  rw [List.filter_filter]
  refine List.filter_congr fun a _ => ?_
  cases chosen : picked a with
  | false => rfl
  | true => rw [inside a chosen, Bool.and_self]

section Only

variable (i : InformationSchema) (schema : String)

theorem columns_only (name : String) :
    columns (i.only schema) schema name = columns i schema name := by
  unfold columns InformationSchema.only
  dsimp only
  rw [filter_own _ fun r both => (Bool.and_eq_true_iff.1 both).1]

theorem indexRows_only (name : String) :
    indexRows (i.only schema) schema name = indexRows i schema name := by
  unfold indexRows InformationSchema.only
  dsimp only
  rw [filter_own _ fun r both => (Bool.and_eq_true_iff.1 both).1]

theorem table_only (r : TableRow) : table (i.only schema) schema r = table i schema r := by
  unfold table
  simp only [columns_only, indexRows_only]

theorem contents_only : contents (i.only schema) schema = contents i schema := by
  have rows : (i.only schema).tables.filter (isShown schema) = i.tables.filter (isShown schema) :=
    filter_own _ fun r shown => (Bool.and_eq_true_iff.1 (Bool.and_eq_true_iff.1 shown).1).1
  have options : (i.only schema).schemata.find? (fun r => r.schema == some schema) =
      i.schemata.find? fun r => r.schema == some schema := by
    rw [← List.head?_filter, ← List.head?_filter]
    exact congrArg List.head? (filter_own _ fun r own => own)
  unfold contents
  rw [rows, options, funext (table_only i schema)]

end Only

/-! ### Rows in another order -/

section SameRows

variable {i j : InformationSchema} (same : i.SameRows j) (keyed : i.Keyed)

/-- Within a table the rest of the key tells its rows apart. -/
theorem nodup_ofTable {α κ : Type} {table : α → Option String} {key : α → κ} {rows : List α}
    (distinct : (rows.map fun r => (table r, key r)).Nodup) (name : String) (picked : α → Bool)
    (inside : ∀ r, picked r = true → table r = some name) :
    ((rows.filter picked).map key).Nodup := by
  have fewer : ((rows.filter picked).map fun r => (table r, key r)).Nodup :=
    distinct.sublist ((List.filter_sublist).map _)
  have keys : ((rows.filter picked).map fun r => (table r, key r)) =
      ((rows.filter picked).map key).map (Prod.mk (some name)) := by
    rw [List.map_map]
    refine List.map_congr_left fun r member => ?_
    rw [inside r (List.mem_filter.1 member).2]
    rfl
  rw [keys] at fewer
  exact fewer.of_map _

include same keyed

theorem columns_sameRows (schema name : String) :
    columns i schema name = columns j schema name := by
  have distinct := nodup_ofTable keyed.columns name
    (fun r => r.schema == some schema && r.table == some name)
    fun r both => beq_iff_eq.1 (Bool.and_eq_true_iff.1 both).2
  unfold columns
  dsimp only
  rw [(numberLe_sorts.cell.on ColumnRow.ordinal).mergeSort_eq (same.columns.filter _) distinct]

theorem indexRows_sameRows (schema name : String) :
    indexRows i schema name = indexRows j schema name := by
  have distinct := nodup_ofTable keyed.statistics name
    (fun r => r.schema == some schema && r.table == some name)
    fun r both => beq_iff_eq.1 (Bool.and_eq_true_iff.1 both).2
  unfold indexRows
  dsimp only
  rw [rowLe_sorts.mergeSort_eq (same.statistics.filter _) distinct]

theorem table_sameRows (schema : String) (r : TableRow) :
    table i schema r = table j schema r := by
  unfold table
  simp only [columns_sameRows same keyed, indexRows_sameRows same keyed]

theorem contents_sameRows (schema : String) : contents i schema = contents j schema := by
  have distinct : ((i.tables.filter (isShown schema)).map (·.name)).Nodup :=
    keyed.tables.sublist (List.filter_sublist.map _)
  have rows := (textLe_sorts.cell.on TableRow.name).mergeSort_eq
    (same.tables.filter (isShown schema)) distinct
  have options : i.schemata = j.schemata := by
    obtain ⟨order, single⟩ := And.intro same.schemata keyed.schemata
    match held : i.schemata with
    | [] => exact (List.nil_perm.1 (held ▸ order)).symm
    | [r] => exact List.singleton_perm.1 (held ▸ order)
    | _ :: _ :: _ =>
      rw [held] at single
      simp at single
  unfold contents
  rw [rows, options, funext (table_sameRows same keyed schema)]

end SameRows

end Catalog.MySql

namespace Driver

theorem snapshot_mysql {s : Store} {i : InformationSchema} (held : s.informationSchema = some i)
    (schema : String) : mysql.snapshot s schema = (do
      let options ← (Catalog.MySql.contents i schema).1
      let tables ← (Catalog.MySql.contents i schema).2
      return { name := schema, options, tables }) := by
  rw [Catalog.MySql.contents_eq held]
  rfl

/-- Two servers that have the same rows about a schema give the same snapshot of it, or fail alike,
whatever else they describe and in whatever order their rows stand. -/
theorem snapshot_own_rows {s t : Store} {i j : InformationSchema} {schema : String}
    (first : s.informationSchema = some i) (second : t.informationSchema = some j)
    (same : (i.only schema).SameRows (j.only schema)) (keyed : (i.only schema).Keyed) :
    mysql.snapshot s schema = mysql.snapshot t schema := by
  have equal : Catalog.MySql.contents i schema = Catalog.MySql.contents j schema := by
    calc Catalog.MySql.contents i schema
      _ = Catalog.MySql.contents (i.only schema) schema :=
        (Catalog.MySql.contents_only i schema).symm
      _ = Catalog.MySql.contents (j.only schema) schema :=
        Catalog.MySql.contents_sameRows same keyed schema
      _ = Catalog.MySql.contents j schema := Catalog.MySql.contents_only j schema
  rw [snapshot_mysql first, snapshot_mysql second, equal]

/-! ### A neighbour with the same names -/

def listedTable (schema name : String) : TableRow :=
  { schema := some schema, name := some name, type := some "BASE TABLE", engine := some "InnoDB"
    collation := none, comment := none }

def listedColumn (schema name : String) (ordinal : Int64) : ColumnRow :=
  { schema := some schema, table := some "notes", ordinal := some ordinal, name := some name
    dataType := some "BIGINT", columnType := some "BIGINT UNSIGNED", isNullable := some "NO"
    default? := none, charLength := none, numericPrecision := some 20, numericScale := some 0
    datetimePrecision := none, key := some "", extra := some "", comment := some ""
    generation := none }

def listedMember (schema index column : String) (position : Int64) : StatisticsRow :=
  { schema := some schema, table := some "notes", index := some index, nonUnique := some 1
    column := some column, position := some position, method := some "BTREE", comment := some "" }

def describing (i : InformationSchema) : Store :=
  { Store.fresh "2024-01-01 00:00:00" with informationSchema := some i }

def deskAlone : InformationSchema :=
  { schemata := []
    tables := ["notes", "pens"].map (listedTable "desk")
    columns := [listedColumn "desk" "page" 1, listedColumn "desk" "line" 2]
    statistics := [listedMember "desk" "place" "page" 1, listedMember "desk" "place" "line" 2] }

/-- The desk in another order, next to a shelf that has a table and an index of the same names. -/
def deskAndShelf : InformationSchema :=
  { schemata := [{ schema := some "shelf", charset := none, collation := none }]
    tables := [listedTable "shelf" "notes", listedTable "desk" "pens", listedTable "desk" "notes"]
    columns := [listedColumn "desk" "line" 2, listedColumn "shelf" "line" 2,
      listedColumn "desk" "page" 1]
    statistics := [listedMember "shelf" "place" "line" 1, listedMember "desk" "place" "line" 2,
      listedMember "desk" "place" "page" 1] }

theorem desk_snapshot_own_rows :
    (describing deskAlone).informationSchema = some deskAlone ∧
      (describing deskAndShelf).informationSchema = some deskAndShelf ∧
      (deskAlone.only "desk").SameRows (deskAndShelf.only "desk") ∧
      (deskAlone.only "desk").Keyed ∧
      mysql.snapshot (describing deskAlone) "desk" =
        mysql.snapshot (describing deskAndShelf) "desk" := by
  have same : (deskAlone.only "desk").SameRows (deskAndShelf.only "desk") :=
    ⟨by decide +kernel, by decide +kernel, by decide +kernel, by decide +kernel⟩
  have keyed : (deskAlone.only "desk").Keyed :=
    ⟨by decide +kernel, by decide +kernel, by decide +kernel, by decide +kernel⟩
  exact ⟨rfl, rfl, same, keyed, snapshot_own_rows rfl rfl same keyed⟩

end Driver

end SchemaShift
