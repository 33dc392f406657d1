import SchemaShift.Proofs.Schema.NameMap
import SchemaShift.Schema.Table

/-!
# Well-formed snapshots

In a well-formed snapshot no two tables share a name, no two columns of a table do, and every
index stands under its own name. Then a name is as good as the thing it names.
-/

namespace SchemaShift

structure Table.WellFormed (t : Table) : Prop where
  columns : (t.columns.map (·.name)).Nodup
  indexes : ∀ e ∈ t.indexes.entries, e.2.name = e.1

structure Snapshot.WellFormed (s : Snapshot) : Prop where
  names : (s.tables.map (·.name)).Nodup
  tables : ∀ t ∈ s.tables, t.WellFormed

/-- The part of well-formedness that is about indexes. -/
def Table.Keyed (t : Table) : Prop :=
  ∀ e ∈ t.indexes.entries, e.2.name = e.1

instance (t : Table) : Decidable t.WellFormed :=
  decidable_of_iff
    ((t.columns.map (·.name)).Nodup ∧ ∀ e ∈ t.indexes.entries, e.2.name = e.1)
    ⟨fun ⟨columns, indexes⟩ => { columns, indexes }, fun wf => ⟨wf.columns, wf.indexes⟩⟩

instance (t : Table) : Decidable t.Keyed :=
  inferInstanceAs (Decidable (∀ e ∈ t.indexes.entries, e.2.name = e.1))

instance (s : Snapshot) : Decidable s.WellFormed :=
  decidable_of_iff ((s.tables.map (·.name)).Nodup ∧ ∀ t ∈ s.tables, t.WellFormed)
    ⟨fun ⟨names, tables⟩ => { names, tables }, fun wf => ⟨wf.names, wf.tables⟩⟩

namespace Table

theorem column?_some {t : Table} {name : String} {c : Column} (found : t.column? name = some c) :
    c ∈ t.columns ∧ c.name = name :=
  find?_key_some found

theorem WellFormed.column?_iff {t : Table} (wf : t.WellFormed) {name : String} {c : Column} :
    t.column? name = some c ↔ c ∈ t.columns ∧ c.name = name :=
  find?_key_iff wf.columns

theorem Keyed.index_name {t : Table} (keyed : t.Keyed) {name : String} {i : Index}
    (found : t.indexes.find? name = some i) : i.name = name :=
  keyed (name, i) ((NameMap.find?_iff _).1 found)

theorem Keyed.mem_values {t : Table} (keyed : t.Keyed) {i : Index} :
    i ∈ t.indexes.values ↔ t.indexes.find? i.name = some i := by
  rw [NameMap.mem_values]
  constructor
  · rintro ⟨name, found⟩
    rwa [keyed.index_name found]
  · intro found
    exact ⟨i.name, found⟩

theorem WellFormed.keyed {t : Table} (wf : t.WellFormed) : t.Keyed :=
  wf.indexes

theorem WellFormed.index_name {t : Table} (wf : t.WellFormed) {name : String} {i : Index}
    (found : t.indexes.find? name = some i) : i.name = name :=
  wf.keyed.index_name found

end Table

namespace Snapshot

/-- All tables of a name, of which a well-formed snapshot has one at most. -/
def tablesNamed (s : Snapshot) (name : String) : List Table :=
  s.tables.filter fun t => t.name == name

theorem mem_tablesNamed {s : Snapshot} {name : String} {t : Table} :
    t ∈ s.tablesNamed name ↔ t ∈ s.tables ∧ t.name = name := by
  simp [tablesNamed]

theorem table?_eq_head (s : Snapshot) (name : String) :
    s.table? name = (s.tablesNamed name).head? := by
  rw [table?, tablesNamed, List.head?_filter]

theorem table?_some {s : Snapshot} {name : String} {t : Table} (found : s.table? name = some t) :
    t ∈ s.tables ∧ t.name = name :=
  find?_key_some found

theorem table?_of_mem {s : Snapshot} (names : (s.tables.map (·.name)).Nodup) {t : Table}
    (member : t ∈ s.tables) : s.table? t.name = some t :=
  (find?_key_iff names).2 ⟨member, rfl⟩

theorem WellFormed.table? {s : Snapshot} (wf : s.WellFormed) {name : String} {t : Table}
    (found : s.table? name = some t) : t.WellFormed :=
  wf.tables t (table?_some found).1

theorem mem_tracked {s : Snapshot} {t : Table} :
    t ∈ s.tracked ↔ t ∈ s.tables ∧ t.name ≠ bookkeepingName := by
  simp [tracked]

theorem nodup_tracked {s : Snapshot} (names : (s.tables.map (·.name)).Nodup) :
    (s.tracked.map (·.name)).Nodup := by
  have sublist : s.tracked.Sublist s.tables := List.filter_sublist
  exact names.sublist (sublist.map _)

theorem mem_tracked_names {s : Snapshot} {name : String} :
    name ∈ s.tracked.map (·.name) ↔ name ≠ bookkeepingName ∧ (s.table? name).isSome := by
  simp only [List.mem_map, mem_tracked]
  constructor
  · rintro ⟨t, ⟨member, tracked⟩, rfl⟩
    refine ⟨tracked, ?_⟩
    rw [table?, List.find?_isSome]
    exact ⟨t, member, by simp⟩
  · rintro ⟨tracked, held⟩
    obtain ⟨t, found⟩ := Option.isSome_iff_exists.1 held
    obtain ⟨member, named⟩ := table?_some found
    exact ⟨t, ⟨member, named ▸ tracked⟩, named⟩

theorem nodup_names_iff (s : Snapshot) :
    (s.tables.map (·.name)).Nodup ↔ ∀ name, (s.tablesNamed name).length ≤ 1 := by
  rw [List.nodup_iff_count_le_one]
  refine forall_congr' fun name => ?_
  rw [List.count_eq_countP, List.countP_map, List.countP_eq_length_filter]
  rfl

theorem tablesNamed_eq_table? {s : Snapshot} (names : (s.tables.map (·.name)).Nodup)
    (name : String) : s.tablesNamed name = (s.table? name).toList :=
  filter_key_eq_find? names name

end Snapshot

end SchemaShift
