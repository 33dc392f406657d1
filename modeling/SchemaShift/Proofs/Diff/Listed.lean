import SchemaShift.Diff.SchemaChange
import SchemaShift.Proofs.Schema.WellFormed

/-!
# What a diff lists

Nothing differs from itself. For each list of a change set one lemma says what stands in it,
and `named_changesTo` says that a table is named by the one change between its two states.
-/

namespace SchemaShift

/-! ### Nothing differs from itself -/

theorem Column.differs_self (c : Column) : c.differs c = false := by
  simp [differs]

theorem IndexMember.differs_self (m : IndexMember) : m.differs m = false := by
  simp [differs]

theorem Index.differs_self (i : Index) : i.differs i = false := by
  have members (x y : IndexMember) (member : (x, y) ∈ i.members.zip i.members) :
      x.differs y = false := by
    have same : x = y := by
      rw [List.zip, List.zipWith_self, List.mem_map] at member
      obtain ⟨m, -, pair⟩ := member
      cases pair
      rfl
    rw [same, IndexMember.differs_self]
  simpa [differs] using members

theorem Table.optionsDiffer_iff (a b : Table) :
    a.optionsDiffer b = false ↔
      a.engine = b.engine ∧ a.collation = b.collation ∧ a.comment = b.comment := by
  simp [optionsDiffer, and_assoc]

/-! ### The lists of a change set -/

namespace Table

theorem mem_newColumns {old new : Table} {c : Column} :
    c ∈ old.newColumns new ↔ c ∈ new.columns ∧ old.column? c.name = none := by
  simp [newColumns]

theorem mem_modifiedColumns {old new : Table} {change : ColumnChange} :
    change ∈ old.modifiedColumns new ↔
      change.new ∈ new.columns ∧ old.column? change.new.name = some change.old ∧
        change.old.differs change.new = true := by
  obtain ⟨before, after⟩ := change
  simp only [modifiedColumns, List.mem_filterMap]
  constructor
  · rintro ⟨c, member, listed⟩
    split at listed
    · rename_i previous found
      split at listed
      · rename_i differs
        cases listed
        exact ⟨member, found, differs⟩
      · cases listed
    · cases listed
  · rintro ⟨member, found, differs⟩
    exact ⟨after, member, by simp [found, differs]⟩

theorem modifiedColumns_name {old new : Table} {change : ColumnChange}
    (listed : change ∈ old.modifiedColumns new) : change.new.name = change.old.name := by
  obtain ⟨-, found, -⟩ := mem_modifiedColumns.1 listed
  exact (column?_some found).2.symm

theorem mem_newIndexes {old new : Table} {i : Index} :
    i ∈ old.newIndexes new ↔ ∃ name, new.indexes.find? name = some i ∧
      ∀ previous, old.indexes.find? name = some previous → previous.differs i = true := by
  simp only [newIndexes, List.mem_map, List.mem_filter]
  constructor
  · rintro ⟨⟨name, index⟩, ⟨member, listed⟩, rfl⟩
    refine ⟨name, (NameMap.find?_iff _).2 member, ?_⟩
    intro previous found
    simpa [found] using listed
  · rintro ⟨name, found, fresh⟩
    refine ⟨(name, i), ⟨(NameMap.find?_iff _).1 found, ?_⟩, rfl⟩
    cases earlier : old.indexes.find? name with
    | none => rfl
    | some previous => exact fresh previous earlier

theorem mem_outdatedIndexes {old new : Table} {previous : Index} :
    previous ∈ old.outdatedIndexes new ↔ ∃ name i, new.indexes.find? name = some i ∧
      old.indexes.find? name = some previous ∧ previous.differs i = true := by
  simp only [outdatedIndexes, List.mem_filterMap]
  constructor
  · rintro ⟨⟨name, i⟩, member, listed⟩
    refine ⟨name, i, (NameMap.find?_iff _).2 member, ?_⟩
    cases found : old.indexes.find? name with
    | none => simp [found] at listed
    | some held =>
      simp only [found] at listed
      split at listed
      · rename_i differs
        cases listed
        exact ⟨rfl, differs⟩
      · cases listed
  · rintro ⟨name, i, wanted, found, differs⟩
    exact ⟨(name, i), (NameMap.find?_iff _).1 wanted, by simp [found, differs]⟩

theorem mem_missingIndexes {old new : Table} {i : Index} :
    i ∈ old.missingIndexes new ↔
      ∃ name, old.indexes.find? name = some i ∧ new.indexes.find? name = none := by
  simp only [missingIndexes, List.mem_map, List.mem_filter]
  constructor
  · rintro ⟨⟨name, index⟩, ⟨member, listed⟩, rfl⟩
    refine ⟨name, (NameMap.find?_iff _).2 member, ?_⟩
    simpa [NameMap.contains] using listed
  · rintro ⟨name, found, absent⟩
    refine ⟨(name, i), ⟨(NameMap.find?_iff _).1 found, ?_⟩, rfl⟩
    simp [NameMap.contains, absent]

/-- The deleted indexes are those that `new` lacks or holds in another form. -/
theorem mem_deletedIndexes {old new : Table} {previous : Index} :
    previous ∈ (old.changesTo new).deletedIndexes ↔
      ∃ name, old.indexes.find? name = some previous ∧
        ∀ i, new.indexes.find? name = some i → previous.differs i = true := by
  rw [changesTo, List.mem_append, mem_outdatedIndexes, mem_missingIndexes]
  constructor
  · rintro (⟨name, i, wanted, found, differs⟩ | ⟨name, found, absent⟩)
    · exact ⟨name, found, fun j same => Option.some.inj (wanted.symm.trans same) ▸ differs⟩
    · exact ⟨name, found, fun i wanted => by rw [absent] at wanted; cases wanted⟩
  · rintro ⟨name, found, differs⟩
    cases wanted : new.indexes.find? name with
    | none => exact .inr ⟨name, found, wanted⟩
    | some i => exact .inl ⟨name, i, wanted, found, differs i wanted⟩

/-- There is nothing to change exactly if each definition of `new` is met in `old`, `old` has
no other index and the options agree. -/
theorem changed_eq_false_iff (old new : Table) :
    old.changed new = false ↔
      (∀ c ∈ new.columns, ∃ previous, old.column? c.name = some previous ∧
        previous.differs c = false) ∧
      (∀ name i, new.indexes.find? name = some i → ∃ previous,
        old.indexes.find? name = some previous ∧ previous.differs i = false) ∧
      (∀ name, new.indexes.find? name = none → old.indexes.find? name = none) ∧
      old.optionsDiffer new = false := by
  simp only [changed, Bool.or_eq_false_iff, List.any_eq_false, and_assoc]
  refine and_congr (forall₂_congr fun c _ => ?_) (and_congr ?_ (and_congr ?_ Iff.rfl))
  · cases old.column? c.name <;> simp
  · simp only [Prod.forall, ← NameMap.find?_iff]
    refine forall₃_congr fun name i _ => ?_
    cases old.indexes.find? name <;> simp
  · simp only [Prod.forall, ← NameMap.find?_iff, NameMap.contains]
    refine forall_congr' fun name => ?_
    cases new.indexes.find? name <;> cases old.indexes.find? name <;> simp

/-! ### Nothing is listed twice -/

theorem map_filterMap_sublist {α β γ : Type} {f : α → Option β} {key : α → γ} {name : β → γ}
    {l : List α} (named : ∀ a ∈ l, ∀ b, f a = some b → name b = key a) :
    ((l.filterMap f).map name).Sublist (l.map key) := by
  induction l with
  | nil => exact .slnil
  | cons a l ih =>
    obtain ⟨first, rest⟩ := List.forall_mem_cons.1 named
    rw [List.map_cons]
    cases found : f a with
    | none =>
      rw [List.filterMap_cons_none found]
      exact (ih rest).cons _
    | some b =>
      rw [List.filterMap_cons_some found, List.map_cons, first b found]
      exact (ih rest).cons_cons _

theorem nodup_newColumns (old : Table) {new : Table} (names : (new.columns.map (·.name)).Nodup) :
    ((old.newColumns new).map (·.name)).Nodup :=
  names.sublist (List.filter_sublist.map _)

theorem nodup_modifiedColumns (old : Table) {new : Table} (hn : new.WellFormed) :
    ((old.modifiedColumns new).map (·.new.name)).Nodup := by
  refine hn.columns.sublist (map_filterMap_sublist fun c _ change listed => ?_)
  split at listed
  · split at listed
    · cases listed
      rfl
    · cases listed
  · cases listed

/-- Of the entries of a map some are picked; under their own names they stay in order. -/
theorem Keyed.ascending_picked {t : Table} (keyed : t.Keyed) (p : String × Index → Bool) :
    (((t.indexes.entries.filter p).map (·.2)).map (·.name)).Pairwise (· < ·) := by
  have own : ((t.indexes.entries.filter p).map (·.2)).map (·.name) =
      (t.indexes.entries.filter p).map (·.1) := by
    rw [List.map_map]
    exact List.map_congr_left fun e member => keyed e (List.mem_filter.1 member).1
  rw [own, List.pairwise_map]
  exact t.indexes.ascending.filter p

theorem Keyed.nodup_picked {t : Table} (keyed : t.Keyed) (p : String × Index → Bool) :
    (((t.indexes.entries.filter p).map (·.2)).map (·.name)).Nodup := by
  refine (keyed.ascending_picked p).imp fun lt same => ?_
  rw [same] at lt
  exact String.lt_irrefl _ lt

theorem nodup_newIndexes (old : Table) {new : Table} (hn : new.Keyed) :
    ((old.newIndexes new).map (·.name)).Nodup :=
  hn.nodup_picked _

theorem nodup_deletedIndexes {old : Table} (ho : old.Keyed) (new : Table) :
    ((old.changesTo new).deletedIndexes.map (·.name)).Nodup := by
  have outdated : ((old.outdatedIndexes new).map (·.name)).Nodup := by
    refine new.indexes.nodup_keys.sublist (map_filterMap_sublist fun e _ previous listed => ?_)
    cases found : old.indexes.find? e.1 with
    | none => simp [found] at listed
    | some held =>
      simp only [found] at listed
      split at listed
      · cases listed
        exact ho.index_name found
      · cases listed
  have missing : ((old.missingIndexes new).map (·.name)).Nodup := ho.nodup_picked _
  show ((old.outdatedIndexes new ++ old.missingIndexes new).map (·.name)).Nodup
  rw [List.map_append]
  refine List.nodup_append.2 ⟨outdated, missing, ?_⟩
  -- An outdated index has its name in `new`, and a missing one has not.
  rintro name there other gone rfl
  obtain ⟨previous, listed, named⟩ := List.mem_map.1 there
  obtain ⟨key, i, wanted, found, -⟩ := mem_outdatedIndexes.1 listed
  obtain ⟨lost, unlisted, called⟩ := List.mem_map.1 gone
  obtain ⟨other, held, absent⟩ := mem_missingIndexes.1 unlisted
  have same : other = key := by
    rw [← ho.index_name held, called, ← named, ho.index_name found]
  rw [same, wanted] at absent
  cases absent

end Table

/-! ### The changes of a schema -/

theorem tableChange_name (name : String) {src dst : Option Table} {change : SchemaChange}
    (hs : ∀ t, src = some t → t.name = name) (hd : ∀ t, dst = some t → t.name = name)
    (listed : tableChange src dst = some change) : change.tableName = some name := by
  cases src with
  | none =>
    cases dst with
    | none => cases listed
    | some d =>
      cases listed
      rw [SchemaChange.tableName, hd d rfl]
  | some t =>
    cases dst with
    | none =>
      cases listed
      rw [SchemaChange.tableName, hs t rfl]
    | some d =>
      simp only [tableChange] at listed
      split at listed
      · cases listed
        rw [SchemaChange.tableName, hd d rfl]
      · cases listed

/-- The change from a table to the one of its name in `dst` is about that name. -/
theorem heldChange_name (dst : Snapshot) (t : Table) (change : SchemaChange)
    (listed : tableChange (some t) (dst.table? t.name) = some change) :
    change.tableName = some t.name :=
  tableChange_name t.name (by simp) (fun d found => (Snapshot.table?_some found).2) listed

theorem freshChange_name (t : Table) (change : SchemaChange)
    (listed : tableChange none (some t) = some change) : change.tableName = some t.name :=
  tableChange_name t.name (by simp) (by simp) listed

theorem filter_filterMap_named (change? : Table → Option SchemaChange)
    (named : ∀ t change, change? t = some change → change.tableName = some t.name)
    (tables : List Table) (name : String) :
    ((tables.filterMap change?).filter fun c => c.tableName == some name) =
      (tables.filter fun t => t.name == name).filterMap change? := by
  rw [List.filter_filterMap, List.filterMap_filter]
  refine congrArg (fun f => List.filterMap f tables) (funext fun t => ?_)
  cases found : change? t with
  | none => simp
  | some change =>
    have about := named t change found
    by_cases here : t.name = name
    · simp [Option.filter, about, here]
    · simp [Option.filter, about, here]

theorem tableChange_alter {src dst : Option Table} {name : String} {changes : ChangeSet}
    (listed : tableChange src dst = some (.alterTable name changes)) :
    ∃ s d, src = some s ∧ dst = some d ∧ s.changed d = true ∧ d.name = name ∧
      changes = s.changesTo d := by
  cases src with
  | none => cases dst <;> cases listed
  | some s =>
    cases dst with
    | none => cases listed
    | some d =>
      simp only [tableChange] at listed
      split at listed
      · rename_i changed
        cases listed
        exact ⟨s, d, rfl, rfl, changed, rfl, rfl⟩
      · cases listed

theorem filterMap_one {α β : Type} (f : α → Option β) (a : α) : [a].filterMap f = (f a).toList := by
  cases found : f a <;> simp [found]

theorem forall_mem_filterMap {α β : Type} {f : α → Option β} {l : List α} {P : β → Prop} :
    (∀ b ∈ l.filterMap f, P b) ↔ ∀ a ∈ l, ∀ b, f a = some b → P b := by
  simp only [List.mem_filterMap, forall_exists_index, and_imp]
  exact forall_comm.trans (forall_congr' fun a => forall_comm)

namespace Snapshot

theorem tracked_named (s : Snapshot) {name : String} (tracked : name ≠ bookkeepingName) :
    (s.tracked.filter fun t => t.name == name) = s.tablesNamed name := by
  rw [Snapshot.tracked, tablesNamed, List.filter_filter]
  refine List.filter_congr fun t _ => ?_
  by_cases here : t.name = name
  · simp [here, tracked]
  · simp [here]

theorem changesTo_bookkeeping (src dst : Snapshot) {change : SchemaChange}
    (listed : change ∈ src.changesTo dst) : change.tableName ≠ some bookkeepingName := by
  simp only [changesTo, List.mem_append, List.mem_filterMap, List.mem_filter] at listed
  rcases listed with (options | ⟨t, member, listed⟩) | ⟨t, ⟨member, -⟩, listed⟩
  · split at options
    · cases options
    · cases List.mem_singleton.1 options
      intro about
      cases about
  · rw [heldChange_name dst t change listed]
    exact fun same => (mem_tracked.1 member).2 (Option.some.inj same)
  · rw [freshChange_name t change listed]
    exact fun same => (mem_tracked.1 member).2 (Option.some.inj same)

/-- What a diff lists about a name is the one change between the two tables of that name. -/
theorem named_changesTo {src dst : Snapshot} (hs : (src.tables.map (·.name)).Nodup)
    (hd : (dst.tables.map (·.name)).Nodup) {name : String} (tracked : name ≠ bookkeepingName) :
    ((src.changesTo dst).filter fun c => c.tableName == some name) =
      (tableChange (src.table? name) (dst.table? name)).toList := by
  have options : ((if src.options = dst.options then []
      else [SchemaChange.alterSchema src.name dst.options]).filter
        fun c => c.tableName == some name) = [] := by
    split
    · rfl
    · rfl
  have held := filter_filterMap_named (fun t => tableChange (some t) (dst.table? t.name))
    (heldChange_name dst) src.tracked name
  have created := filter_filterMap_named (fun t => tableChange none (some t)) freshChange_name
    (dst.tracked.filter fun t => (src.table? t.name).isNone) name
  rw [changesTo, List.filter_append, List.filter_append, options, held, created,
    tracked_named src tracked, List.filter_comm, tracked_named dst tracked,
    tablesNamed_eq_table? hs, tablesNamed_eq_table? hd]
  cases before : src.table? name with
  | none =>
    cases after : dst.table? name with
    | none => rfl
    | some d =>
      have same := (table?_some after).2
      simp [same, before, tableChange]
  | some t =>
    have same := (table?_some before).2
    cases after : dst.table? name with
    | none =>
      rw [Option.toList_some, filterMap_one, same, after]
      rfl
    | some d =>
      have alike := (table?_some after).2
      rw [Option.toList_some, filterMap_one, same, after]
      simp [alike, before]

theorem mem_changesTo_iff {src dst : Snapshot} (hs : (src.tables.map (·.name)).Nodup)
    (hd : (dst.tables.map (·.name)).Nodup) {change : SchemaChange} {name : String}
    (about : change.tableName = some name) :
    change ∈ src.changesTo dst ↔
      name ≠ bookkeepingName ∧ tableChange (src.table? name) (dst.table? name) = some change := by
  have named (tracked : name ≠ bookkeepingName) : change ∈ src.changesTo dst ↔
      tableChange (src.table? name) (dst.table? name) = some change := by
    rw [← Option.mem_toList, ← named_changesTo hs hd tracked, List.mem_filter]
    simp [about]
  constructor
  · intro listed
    have tracked : name ≠ bookkeepingName := fun same =>
      changesTo_bookkeeping src dst listed (same ▸ about)
    exact ⟨tracked, (named tracked).1 listed⟩
  · rintro ⟨tracked, found⟩
    exact (named tracked).2 found

end Snapshot

end SchemaShift
