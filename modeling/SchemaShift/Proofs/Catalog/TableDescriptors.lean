import Mathlib.Data.List.Forall2
import SchemaShift.Proofs.Catalog.Defaults
import SchemaShift.Proofs.Schema.IndexGroup
import SchemaShift.Proofs.Schema.NameMap
import SchemaShift.Proofs.Store.Indexes

/-!
# Tables as the catalog has them

A catalog knows the key of a table by the ordinals of its columns, and every other index by a list
of members. Introspection makes rows of both and gathers all rows by the names of the indexes. As
long as no other index goes by the name of the key, nothing of the one gets into the other, and the
descriptor is the table that the catalog has. For that the names of the indexes have to differ, and
whatever statements leave behind, they do.
-/

namespace SchemaShift

open Text Store

/-- The index of the catalog, with its members numbered from 1. -/
structure Index.Describes (i : Index) (found : CatalogIndex) : Prop where
  name : i.name = found.name
  kind : i.kind = if found.unique then .unique else .normal
  columns : i.columns = found.members.map fun member => member.getD ""
  positions : i.members.map (·.position) =
    (List.range' 1 found.members.length).map Int64.ofNat

structure Table.Describes (d : Table) (t : CatalogTable) : Prop where
  name : d.name = t.name
  columns : List.Forall₂ (fun (found : CatalogColumn) c => c.name = found.name ∧
    c.nullable = !found.notNull) t.listed d.columns
  primaryKey : ∃ key : List CatalogColumn, key.Perm (t.listed.filter fun c => 0 < c.keyOrdinal) ∧
    key.Pairwise (fun a b => a.keyOrdinal ≤ b.keyOrdinal) ∧ d.primaryKey = key.map (·.name)
  primary : (∃ i, d.indexes.find? "PRIMARY" = some i) ↔ ∃ c ∈ t.listed, 0 < c.keyOrdinal
  secondary : ∀ found ∈ t.indexes, found.origin ≠ .primaryKey →
    ∃ i, d.indexes.find? found.name = some i ∧ i.Describes found
  others : ∀ name i, d.indexes.find? name = some i →
    name = "PRIMARY" ∨ ∃ found ∈ t.indexes, found.origin ≠ .primaryKey ∧ found.name = name

/-! ### Rows of several indexes -/

namespace Index

/-- Rows that agree on the name and the kind make up one index. -/
theorem ofRows?_agreeing {rows : List IndexMember} {name : String} {kind : IndexKind}
    (some_row : rows ≠ []) (named : ∀ r ∈ rows, r.indexName = name)
    (alike : ∀ r ∈ rows, r.kind = kind) :
    ofRows? rows = some { name, kind, members := rows } := by
  obtain ⟨first, rest, rfl⟩ := List.exists_cons_of_ne_nil some_row
  rw [ofRows?, named first List.mem_cons_self, alike first List.mem_cons_self]

end Index

namespace Catalog.Sqlite

variable {t : CatalogTable}

/-! ### The key -/

theorem keyRows_named : ∀ r ∈ keyRows t, r.indexName = "PRIMARY" := by
  intro r member
  obtain ⟨c, -, rfl⟩ := List.mem_map.1 member
  rfl

theorem keyRows_kind : ∀ r ∈ keyRows t, r.kind = .primary := by
  intro r member
  have named := keyRows_named r member
  unfold IndexMember.kind
  rw [named]
  exact if_pos (by decide +kernel)

theorem keyColumns_perm (t : CatalogTable) :
    (keyColumns t).Perm (t.listed.filter fun c => 0 < c.keyOrdinal) := by
  refine (List.mergeSort_perm _ _).trans (.of_eq ?_)
  refine List.filter_congr fun c _ => ?_
  rw [Bool.eq_iff_iff, bne_iff_ne, decide_eq_true_iff]
  exact Nat.pos_iff_ne_zero.symm

theorem keyColumns_ascending (t : CatalogTable) :
    (keyColumns t).Pairwise fun a b => a.keyOrdinal ≤ b.keyOrdinal := by
  have sorted := @List.pairwise_mergeSort CatalogColumn
    (fun a b => a.keyOrdinal < b.keyOrdinal || (a.keyOrdinal == b.keyOrdinal && a.name ≤ b.name))
    (fun a b c ab bc => by
      simp only [Bool.or_eq_true, Bool.and_eq_true, decide_eq_true_iff, beq_iff_eq] at ab bc ⊢
      rcases ab with below | ⟨same, before⟩
      · left; omega
      · rcases bc with below | ⟨again, after⟩
        · left; omega
        · exact .inr ⟨same.trans again, String.le_trans before after⟩)
    (fun a b => by
      have names := String.le_total a.name b.name
      simp only [Bool.or_eq_true, Bool.and_eq_true, decide_eq_true_iff, beq_iff_eq]
      rcases Nat.lt_trichotomy a.keyOrdinal b.keyOrdinal with below | same | above
      · exact .inl (.inl below)
      · rcases names with before | after
        · exact .inl (.inr ⟨same, before⟩)
        · exact .inr (.inr ⟨same.symm, after⟩)
      · exact .inr (.inl above))
    (t.listed.filter fun c => c.keyOrdinal != 0)
  refine sorted.imp fun le => ?_
  simp only [Bool.or_eq_true, Bool.and_eq_true, decide_eq_true_iff, beq_iff_eq] at le
  omega

theorem keyRows_ne_nil_iff : keyRows t ≠ [] ↔ ∃ c ∈ t.listed, 0 < c.keyOrdinal := by
  unfold keyRows
  rw [ne_eq, List.map_eq_nil_iff, List.eq_nil_iff_forall_not_mem, not_forall_not]
  simp only [(keyColumns_perm t).mem_iff, List.mem_filter, decide_eq_true_iff]

theorem columns_keyRows (t : CatalogTable) :
    (keyRows t).map (·.columnName) = (keyColumns t).map (·.name) := by
  unfold keyRows
  rw [List.map_map]
  rfl

/-! ### The other indexes -/

theorem indexRows_named (table : String) (i : CatalogIndex) :
    ∀ r ∈ indexRows table i, r.indexName = i.name := by
  intro r member
  obtain ⟨⟨name, place⟩, -, rfl⟩ := List.mem_map.1 member
  rfl

theorem indexRows_kind {i : CatalogIndex} (unlike : sameLetters i.name "PRIMARY" = false)
    (table : String) :
    ∀ r ∈ indexRows table i, r.kind = if i.unique then .unique else .normal := by
  intro r member
  obtain ⟨⟨name, place⟩, -, rfl⟩ := List.mem_map.1 member
  have plain : upper "BTREE" ≠ "FULLTEXT" ∧ upper "BTREE" ≠ "SPATIAL" := by decide +kernel
  unfold IndexMember.kind IndexMember.ofColumn primaryIndexName
  dsimp only
  rw [unlike, if_neg Bool.false_ne_true, if_neg plain.1, if_neg plain.2]
  cases i.unique <;> rfl

theorem describes_indexRows {i : CatalogIndex} (some_member : i.members ≠ [])
    (unlike : sameLetters i.name "PRIMARY" = false) (table : String) :
    ∃ d, Index.ofRows? (indexRows table i) = some d ∧ d.Describes i := by
  have rows : indexRows table i ≠ [] := by
    unfold indexRows
    simpa using some_member
  have built := Index.ofRows?_agreeing rows (indexRows_named table i) (indexRows_kind unlike table)
  refine ⟨_, built, rfl, rfl, ?_, ?_⟩
  · unfold Index.columns indexRows
    dsimp only
    rw [List.map_map]
    conv_rhs => rw [← List.zipIdx_map_fst 0 i.members, List.map_map]
    rfl
  · have places : (i.members.zipIdx.map Prod.snd).map (· + 1) =
        List.range' 1 i.members.length := by
      simp [List.zipIdx_map_snd, List.range'_eq_map_range, Nat.add_comm]
    unfold indexRows
    dsimp only
    rw [← places, List.map_map, List.map_map, List.map_map]
    rfl

theorem secondaryIndexes_perm (t : CatalogTable) :
    (secondaryIndexes t).Perm (t.indexes.filter fun i => i.origin != .primaryKey) :=
  List.mergeSort_perm _ _

theorem mem_secondaryIndexes {i : CatalogIndex} :
    i ∈ secondaryIndexes t ↔ i ∈ t.indexes ∧ i.origin ≠ .primaryKey := by
  rw [(secondaryIndexes_perm t).mem_iff, List.mem_filter, bne_iff_ne]

theorem secondaryIndexes_distinct (indexed : t.WellIndexed) :
    ((secondaryIndexes t).map (·.name)).Nodup := by
  have fewer := List.filter_sublist (l := t.indexes) (p := fun i => i.origin != .primaryKey)
  exact ((secondaryIndexes_perm t).map _).nodup_iff.2 (indexed.names.sublist (fewer.map _))

theorem find?_secondary (indexed : t.WellIndexed) {name : String} (other : name ≠ "PRIMARY") :
    (indexes t).find? name =
      ((secondaryIndexes t).find? fun i => i.name == name).bind fun i =>
        Index.ofRows? (indexRows t.name i) := by
  have key : (keyRows t).filter (fun r => r.indexName == name) = [] := by
    refine List.filter_eq_nil_iff.2 fun r member => ?_
    rw [keyRows_named r member, beq_iff_eq]
    exact other.symm
  unfold indexes
  rw [Index.find?_group, List.filter_append,
    Index.filter_flatMap_rows fun i _ => indexRows_named t.name i, key, List.nil_append,
    filter_key_eq_find? (secondaryIndexes_distinct indexed)]
  cases (secondaryIndexes t).find? fun i => i.name == name with
  | none => rfl
  | some i => exact congrArg Index.ofRows? (List.append_nil _)

/-! ### Tables -/

section Tables

variable (free : ∀ i ∈ t.indexes, i.origin ≠ .primaryKey → sameLetters i.name "PRIMARY" = false)

include free

theorem ne_primary {i : CatalogIndex} (listed : i ∈ t.indexes)
    (secondary : i.origin ≠ .primaryKey) : i.name ≠ "PRIMARY" := by
  intro same
  have unlike := free i listed secondary
  rw [same, sameLetters, beq_self_eq_true] at unlike
  cases unlike

theorem find?_primary : (indexes t).find? "PRIMARY" = Index.ofRows? (keyRows t) := by
  have key : (keyRows t).filter (fun r => r.indexName == "PRIMARY") = keyRows t := by
    refine List.filter_eq_self.2 fun r member => ?_
    rw [keyRows_named r member, beq_self_eq_true]
  have none : (secondaryIndexes t).filter (fun i => i.name == "PRIMARY") = [] := by
    refine List.filter_eq_nil_iff.2 fun i member => ?_
    obtain ⟨listed, secondary⟩ := mem_secondaryIndexes.1 member
    rw [beq_iff_eq]
    exact ne_primary free listed secondary
  unfold indexes
  rw [Index.find?_group, List.filter_append,
    Index.filter_flatMap_rows fun i _ => indexRows_named t.name i, key, none, List.flatMap_nil,
    List.append_nil]

theorem find?_described (indexed : t.WellIndexed) {found : CatalogIndex}
    (listed : found ∈ t.indexes) (secondary : found.origin ≠ .primaryKey) :
    ∃ i, (indexes t).find? found.name = some i ∧ i.Describes found := by
  obtain ⟨i, built, describes⟩ := describes_indexRows (indexed.members found listed)
    (free found listed secondary) t.name
  have own : ((secondaryIndexes t).find? fun j => j.name == found.name) = some found :=
    (find?_key_iff (secondaryIndexes_distinct indexed)).2
      ⟨mem_secondaryIndexes.2 ⟨listed, secondary⟩, rfl⟩
  refine ⟨i, ?_, describes⟩
  rw [find?_secondary indexed (ne_primary free listed secondary), own, Option.bind_some, built]

omit free in
theorem find?_comes_from (indexed : t.WellIndexed) {name : String} {i : Index}
    (found : (indexes t).find? name = some i) (other : name ≠ "PRIMARY") :
    ∃ source ∈ t.indexes, source.origin ≠ .primaryKey ∧ source.name = name := by
  rw [find?_secondary indexed other, Option.bind_eq_some_iff] at found
  obtain ⟨source, listed, -⟩ := found
  obtain ⟨member, named⟩ := find?_key_some listed
  obtain ⟨known, secondary⟩ := mem_secondaryIndexes.1 member
  exact ⟨source, known, secondary, named⟩

/-- The index of the key is the only primary one. -/
theorem kind_primary_iff (indexed : t.WellIndexed) {i : Index} (member : i ∈ (indexes t).values) :
    i.kind = .primary ↔ Index.ofRows? (keyRows t) = some i := by
  obtain ⟨name, found⟩ := (NameMap.mem_values _).1 member
  constructor
  · intro primary
    by_cases same : name = "PRIMARY"
    · rw [← find?_primary free, ← same, found]
    · obtain ⟨source, listed, secondary, rfl⟩ := find?_comes_from indexed found same
      obtain ⟨j, again, describes⟩ := find?_described free indexed listed secondary
      rw [found, Option.some_inj] at again
      rw [again, describes.kind] at primary
      split at primary <;> cases primary
  · intro built
    have rows : keyRows t ≠ [] := by
      intro none
      rw [none] at built
      cases built
    rw [Index.ofRows?_agreeing rows keyRows_named keyRows_kind, Option.some_inj] at built
    rw [← built]

theorem find?_kind_primary (indexed : t.WellIndexed) :
    ((indexes t).values.find? fun i => i.kind == .primary) = Index.ofRows? (keyRows t) := by
  cases found : (indexes t).values.find? fun i => i.kind == .primary with
  | some i =>
    have primary : i.kind = .primary := by simpa using List.find?_some found
    have member := List.mem_of_find?_eq_some found
    exact ((kind_primary_iff free indexed member).1 primary).symm
  | none =>
    cases built : Index.ofRows? (keyRows t) with
    | none => rfl
    | some i =>
      have member := (NameMap.mem_values _).2 ⟨"PRIMARY", (find?_primary free).trans built⟩
      have primary := (kind_primary_iff free indexed member).2 built
      have none := List.find?_eq_none.1 found i member
      rw [primary] at none
      exact absurd rfl none

end Tables

theorem key_column (counting : Bool) (c : CatalogColumn) : (column counting c).key = .none := by
  unfold column
  dsimp only
  split <;> rfl

theorem nullable_column (counting : Bool) (c : CatalogColumn) :
    (column counting c).nullable = !c.notNull := by
  unfold column
  dsimp only
  split <;> rfl

theorem table_columns (t : CatalogTable) :
    (table t).columns = t.listed.map fun c =>
      grantAll (indexes t).values (column (isCounting t) c) := by
  rw [table, assignKeyRoles_eq_map, List.map_map]
  rfl

/-- Without a primary index there is nothing that would make a column part of the key. -/
theorem key_grantAll {indexes : List Index} (none_primary : ∀ i ∈ indexes, i.kind ≠ .primary)
    {c : Column} (plain : c.key ≠ .primary) : (grantAll indexes c).key ≠ .primary := by
  intro primary
  obtain ⟨offered, -⟩ := highest_grantAll indexes c
  rw [primary] at offered
  rcases offered with same | ⟨i, member, granted⟩
  · exact plain same.symm
  · cases granted with
    | primary kind _ => exact none_primary i member kind

theorem primaryKey_table (indexed : t.WellIndexed)
    (free : ∀ i ∈ t.indexes, i.origin ≠ .primaryKey → sameLetters i.name "PRIMARY" = false) :
    (table t).primaryKey = (keyColumns t).map (·.name) := by
  have found : ((table t).indexes.values.find? fun i => i.kind == .primary) =
      Index.ofRows? (keyRows t) := find?_kind_primary free indexed
  unfold Table.primaryKey
  by_cases rows : keyRows t = []
  · have none_primary : ∀ i ∈ (indexes t).values, i.kind ≠ .primary := by
      intro i member primary
      rw [kind_primary_iff free indexed member, rows] at primary
      cases primary
    have no_column : ((table t).columns.filter fun c => c.key == .primary) = [] := by
      refine List.filter_eq_nil_iff.2 fun c member => ?_
      rw [table_columns] at member
      obtain ⟨source, -, rfl⟩ := List.mem_map.1 member
      rw [beq_iff_eq]
      refine key_grantAll none_primary ?_
      rw [key_column]
      decide
    rw [found, ← columns_keyRows, rows]
    exact congrArg (List.map (·.name)) no_column
  · rw [found, Index.ofRows?_agreeing rows keyRows_named keyRows_kind]
    exact columns_keyRows t

theorem describes_table (indexed : t.WellIndexed)
    (free : ∀ i ∈ t.indexes, i.origin ≠ .primaryKey → sameLetters i.name "PRIMARY" = false) :
    (table t).Describes t where
  name := rfl
  columns := by
    rw [table_columns, List.forall₂_map_right_iff]
    refine List.forall₂_same.2 fun c _ => ?_
    rw [grantAll_eq]
    exact ⟨name_column _ c, nullable_column _ c⟩
  primaryKey := ⟨keyColumns t, keyColumns_perm t, keyColumns_ascending t,
    primaryKey_table indexed free⟩
  primary := by
    have found : (table t).indexes.find? "PRIMARY" = Index.ofRows? (keyRows t) :=
      find?_primary free
    rw [found, ← keyRows_ne_nil_iff]
    cases keyRows t with
    | nil => simp [Index.ofRows?]
    | cons first rest => simp [Index.ofRows?]
  secondary := fun found listed secondary => find?_described free indexed listed secondary
  others := by
    intro name i found
    by_cases same : name = "PRIMARY"
    · exact .inl same
    · exact .inr (find?_comes_from indexed found same)

/-- A table is described as it is if its indexes have different names, and so is every table that
statements made. -/
theorem table_describes
    (free : ∀ i ∈ t.indexes, i.origin ≠ .primaryKey → sameLetters i.name "PRIMARY" = false) :
    (t.WellIndexed → (table t).Describes t) ∧
      ∀ now sqls, t ∈ ((Store.fresh now).after sqls).tables → (table t).Describes t := by
  constructor
  · intro indexed
    exact describes_table indexed free
  · intro now sqls made
    have indexed := (Store.fresh_wellIndexed now).after sqls
    exact describes_table (indexed t made) free

/-- The key of the table is in another order than its columns, and one of its indexes begins with
an expression. -/
def rosterTable : CatalogTable :=
  { name := "roster"
    definition :=
      "roster (team TEXT NOT NULL, member INTEGER, note TEXT, PRIMARY KEY (member, team))"
    columns :=
      [{ name := "team", declared := "TEXT", notNull := true, default? := none, keyOrdinal := 2,
         isGenerated := false },
       { name := "member", declared := "INTEGER", notNull := false, default? := none,
         keyOrdinal := 1, isGenerated := false },
       { name := "note", declared := "TEXT", notNull := false, default? := none, keyOrdinal := 0,
         isGenerated := false }]
    indexes :=
      [{ name := "sqlite_autoindex_roster_1", unique := true, origin := .primaryKey,
         members := [some "member", some "team"] },
       { name := "roster_note", unique := false, origin := .statement,
         members := [none, some "note"] }] }

theorem roster_describes :
    ((Store.fresh "2024-01-01 00:00:00").after
        ["CREATE TABLE roster (team TEXT NOT NULL, member INTEGER, note TEXT, " ++
          "PRIMARY KEY (member, team))",
         "CREATE INDEX roster_note ON roster (lower(note), note)"]).tables = [rosterTable] ∧
      rosterTable.WellIndexed ∧
      (∀ i ∈ rosterTable.indexes, i.origin ≠ .primaryKey → sameLetters i.name "PRIMARY" = false) ∧
      (table rosterTable).Describes rosterTable := by
  have made : ((Store.fresh "2024-01-01 00:00:00").after
      ["CREATE TABLE roster (team TEXT NOT NULL, member INTEGER, note TEXT, " ++
        "PRIMARY KEY (member, team))",
       "CREATE INDEX roster_note ON roster (lower(note), note)"]).tables = [rosterTable] := by
    decide +kernel
  have indexed : rosterTable.WellIndexed := ⟨by decide +kernel, by decide +kernel⟩
  have free : ∀ i ∈ rosterTable.indexes, i.origin ≠ .primaryKey →
      sameLetters i.name "PRIMARY" = false := by
    decide +kernel
  have held : rosterTable ∈ [rosterTable] := List.mem_singleton_self rosterTable
  rw [← made] at held
  exact ⟨made, indexed, free, (table_describes free).2 _ _ held⟩

end Catalog.Sqlite

end SchemaShift
