import SchemaShift.Proofs.Diff.Patch

/-!
# Diffs converge

A snapshot patched with the changes to another one differs from it in nothing, and has the
same tables. First a single table is brought to its target, and then every name.
-/

namespace SchemaShift

/-! ### Tables -/

namespace Table

variable {src dst : Table}

theorem newForm_differs (hd : (dst.columns.map (·.name)).Nodup) {before after : Column}
    (found : src.column? after.name = some before) (member : after ∈ dst.columns) :
    ((src.changesTo dst).newForm before).differs after = false := by
  have alike := (column?_some found).2
  unfold ChangeSet.newForm
  split
  · rename_i change listed
    obtain ⟨held, same⟩ : change ∈ src.modifiedColumns dst ∧ change.old.name = before.name :=
      find?_key_some listed
    obtain ⟨wanted, -, -⟩ := mem_modifiedColumns.1 held
    have about : change.new.name = after.name := by
      rw [modifiedColumns_name held, same, alike]
    rw [eq_of_same_key hd wanted member about]
    exact after.differs_self
  · rename_i unlisted
    cases differs : before.differs after with
    | false => rfl
    | true =>
      have listed : { old := before, new := after } ∈ src.modifiedColumns dst :=
        mem_modifiedColumns.2 ⟨member, found, differs⟩
      exact absurd rfl (find?_key_none.1 unlisted _ listed)

/-- Every column of the target is met in the patched table. -/
theorem patched_column (hd : (dst.columns.map (·.name)).Nodup) {c : Column}
    (member : c ∈ dst.columns) :
    ∃ previous, (src.patch (src.changesTo dst)).column? c.name = some previous ∧
      previous.differs c = false := by
  rw [column?_patch src fun change listed => modifiedColumns_name listed]
  cases found : src.column? c.name with
  | some before =>
    exact ⟨(src.changesTo dst).newForm before, rfl, newForm_differs hd found member⟩
  | none =>
    have added : ((src.newColumns dst).find? fun a => a.name == c.name) = some c :=
      (find?_key_iff (nodup_newColumns src hd)).2 ⟨mem_newColumns.2 ⟨member, found⟩, rfl⟩
    exact ⟨c, added, c.differs_self⟩

theorem deletedIndexes_name (hs : src.WellFormed) (name : String) :
    name ∈ (src.changesTo dst).deletedIndexes.map (·.name) ↔
      ∃ previous, src.indexes.find? name = some previous ∧
        ∀ i, dst.indexes.find? name = some i → previous.differs i = true := by
  rw [List.mem_map]
  constructor
  · rintro ⟨previous, listed, rfl⟩
    obtain ⟨name, found, differs⟩ := mem_deletedIndexes.1 listed
    obtain rfl := hs.index_name found
    exact ⟨previous, found, differs⟩
  · rintro ⟨previous, found, differs⟩
    exact ⟨previous, mem_deletedIndexes.2 ⟨name, found, differs⟩, hs.index_name found⟩

theorem addedIndexes_find (hd : dst.WellFormed) {name : String} {i : Index}
    (found : ((src.changesTo dst).addedIndexes.reverse.find? fun j => j.name == name) = some i) :
    dst.indexes.find? name = some i := by
  obtain ⟨listed, named⟩ := find?_key_some found
  obtain ⟨key, wanted, -⟩ := mem_newIndexes.1 (List.mem_reverse.1 listed)
  rw [← named, hd.index_name wanted]
  exact wanted

/-- Every index of the target is met in the patched table. -/
theorem patched_index (hs : src.WellFormed) (hd : dst.WellFormed) {name : String} {i : Index}
    (wanted : dst.indexes.find? name = some i) :
    ∃ previous, (src.patch (src.changesTo dst)).indexes.find? name = some previous ∧
      previous.differs i = false := by
  show ∃ previous, ((src.changesTo dst).replaceIndexes src.indexes).find? name = some previous ∧ _
  rw [ChangeSet.find?_replaceIndexes]
  cases added : (src.changesTo dst).addedIndexes.reverse.find? fun j => j.name == name with
  | some j =>
    have same := addedIndexes_find hd added
    rw [wanted] at same
    cases same
    exact ⟨i, rfl, i.differs_self⟩
  | none =>
    have unlisted : i ∉ src.newIndexes dst := fun listed =>
      find?_key_none.1 added i (List.mem_reverse.2 listed) (hd.index_name wanted)
    have kept : ∃ previous, src.indexes.find? name = some previous ∧
        previous.differs i = false := by
      by_contra fresh
      refine unlisted (mem_newIndexes.2 ⟨name, wanted, fun previous found => ?_⟩)
      cases differs : previous.differs i with
      | true => rfl
      | false => exact absurd ⟨previous, found, differs⟩ fresh
    obtain ⟨previous, found, alike⟩ := kept
    have undeleted : name ∉ (src.changesTo dst).deletedIndexes.map (·.name) := by
      intro listed
      obtain ⟨held, same, differs⟩ := (deletedIndexes_name hs name).1 listed
      rw [found] at same
      cases same
      rw [differs i wanted] at alike
      cases alike
    exact ⟨previous, by rw [if_neg undeleted, found]; rfl, alike⟩

/-- The patched table has no index that the target lacks. -/
theorem patched_index_absent (hs : src.WellFormed) (hd : dst.WellFormed) {name : String}
    (absent : dst.indexes.find? name = none) :
    (src.patch (src.changesTo dst)).indexes.find? name = none := by
  show ((src.changesTo dst).replaceIndexes src.indexes).find? name = none
  rw [ChangeSet.find?_replaceIndexes]
  cases added : (src.changesTo dst).addedIndexes.reverse.find? fun j => j.name == name with
  | some j =>
    have same := addedIndexes_find hd added
    rw [absent] at same
    cases same
  | none =>
    split
    · rfl
    · rename_i undeleted
      cases found : src.indexes.find? name with
      | none => rfl
      | some previous =>
        refine absurd ((deletedIndexes_name hs name).2 ⟨previous, found, ?_⟩) undeleted
        simp [absent]

theorem patched_options (src dst : Table) :
    (src.patch (src.changesTo dst)).optionsDiffer dst = false := by
  have getD (a b : String) : (OptionsChange.newValue a b).getD a = b := by
    unfold OptionsChange.newValue
    split
    · assumption
    · rfl
  rw [optionsDiffer_iff]
  unfold patch changesTo
  cases differ : src.optionsDiffer dst with
  | false => simpa using (optionsDiffer_iff src dst).1 differ
  | true => simp [OptionsChange.between, getD]

theorem changed_self {t : Table} (wf : t.WellFormed) : t.changed t = false := by
  rw [changed_eq_false_iff]
  exact ⟨fun c member => ⟨c, wf.column?_iff.2 ⟨member, rfl⟩, c.differs_self⟩,
    fun name i found => ⟨i, found, i.differs_self⟩, fun name absent => absent,
    (optionsDiffer_iff t t).2 ⟨rfl, rfl, rfl⟩⟩

/-- A table patched with the changes to another has none left to make. -/
theorem patched_changed (hs : src.WellFormed) (hd : dst.WellFormed) :
    (src.patch (src.changesTo dst)).changed dst = false := by
  rw [changed_eq_false_iff]
  exact ⟨fun c member => patched_column hd.columns member,
    fun name i wanted => patched_index hs hd wanted,
    fun name absent => patched_index_absent hs hd absent,
    patched_options src dst⟩

end Table

/-- The state of a table after the change between two states of it. -/
def tableAfter : Option Table → Option Table → Option Table
  | _, none => none
  | none, some dst => some dst
  | some src, some dst =>
    some (if src.changed dst then src.patch (src.changesTo dst) else src)

theorem onNamed_tableChange (src dst : Option Table) :
    (tableChange src dst).toList.foldl (fun tables change => change.onNamed tables) src.toList =
      (tableAfter src dst).toList := by
  cases src with
  | none => cases dst <;> rfl
  | some t =>
    cases dst with
    | none => rfl
    | some d =>
      simp only [tableChange, tableAfter]
      cases t.changed d <;> rfl

/-- Whatever a table was, after its change it differs from its target in nothing. -/
theorem tableAfter_unchanged {src : Option Table} {d t : Table}
    (hs : ∀ s, src = some s → s.WellFormed) (hd : d.WellFormed)
    (after : tableAfter src (some d) = some t) : t.changed d = false := by
  cases src with
  | none =>
    cases after
    exact Table.changed_self hd
  | some s =>
    cases changed : s.changed d with
    | true =>
      simp only [tableAfter, changed, if_true, Option.some.injEq] at after
      subst after
      exact Table.patched_changed (hs s rfl) hd
    | false =>
      simp only [tableAfter, changed, Bool.false_eq_true, if_false, Option.some.injEq] at after
      subst after
      exact changed

theorem tableChange_after {src dst : Option Table} {t : Table}
    (hs : ∀ t, src = some t → t.WellFormed) (hd : ∀ t, dst = some t → t.WellFormed)
    (after : tableAfter src dst = some t) : tableChange (some t) dst = none := by
  cases dst with
  | none => cases after
  | some d => simp [tableChange, tableAfter_unchanged hs (hd d rfl) after]

/-! ### Snapshots -/

namespace Snapshot

variable {src dst : Snapshot}

theorem patched_tablesNamed (hs : src.WellFormed) (hd : dst.WellFormed) {name : String}
    (tracked : name ≠ bookkeepingName) :
    (src.patch (src.changesTo dst)).tablesNamed name =
      (tableAfter (src.table? name) (dst.table? name)).toList := by
  rw [tablesNamed_patch, named_changesTo hs.names hd.names tracked,
    tablesNamed_eq_table? hs.names, onNamed_tableChange]

theorem patched_table? (hs : src.WellFormed) (hd : dst.WellFormed) {name : String}
    (tracked : name ≠ bookkeepingName) :
    (src.patch (src.changesTo dst)).table? name =
      tableAfter (src.table? name) (dst.table? name) := by
  rw [table?_eq_head, patched_tablesNamed hs hd tracked]
  cases tableAfter (src.table? name) (dst.table? name) <;> rfl

theorem patched_bookkeeping (src dst : Snapshot) :
    (src.patch (src.changesTo dst)).tablesNamed bookkeepingName =
      src.tablesNamed bookkeepingName := by
  have none : ((src.changesTo dst).filter fun c => c.tableName == some bookkeepingName) = [] := by
    rw [List.filter_eq_nil_iff]
    intro change listed
    simpa using changesTo_bookkeeping src dst listed
  rw [tablesNamed_patch, none]
  rfl

theorem patched_names (hs : src.WellFormed) (hd : dst.WellFormed) :
    ((src.patch (src.changesTo dst)).tables.map (·.name)).Nodup := by
  rw [nodup_names_iff]
  intro name
  by_cases tracked : name = bookkeepingName
  · rw [tracked, patched_bookkeeping]
    exact (nodup_names_iff src).1 hs.names _
  · rw [patched_tablesNamed hs hd tracked]
    cases tableAfter (src.table? name) (dst.table? name) <;> simp

theorem patched_tracked_names (hs : src.WellFormed) (hd : dst.WellFormed) :
    ((src.patch (src.changesTo dst)).tracked.map (·.name)).Perm (dst.tracked.map (·.name)) := by
  have here := nodup_tracked (patched_names hs hd)
  refine (List.perm_ext_iff_of_nodup here (nodup_tracked hd.names)).2 fun name => ?_
  rw [mem_tracked_names, mem_tracked_names]
  refine and_congr_right fun tracked => ?_
  rw [patched_table? hs hd tracked]
  cases src.table? name <;> cases dst.table? name <;> simp [tableAfter]

theorem patched_schemaOptions (src dst : Snapshot) :
    (src.patch (src.changesTo dst)).options = dst.options := by
  have tables (s : Snapshot) : (s.patch
      ((src.tracked.filterMap fun t => tableChange (some t) (dst.table? t.name)) ++
        (dst.tracked.filter fun t => (src.table? t.name).isNone).filterMap fun t =>
          tableChange none (some t))).options = s.options := by
    refine options_patch s _ fun change listed => ?_
    simp only [List.mem_append, List.mem_filterMap] at listed
    rcases listed with ⟨t, -, listed⟩ | ⟨t, -, listed⟩
    · simp [heldChange_name dst t change listed]
    · simp [freshChange_name t change listed]
  rw [changesTo, List.append_assoc, patch, List.foldl_append, ← patch, tables]
  split
  · assumption
  · rfl

/-- Nothing is listed between snapshots with the same options if no table has a change. -/
theorem changesTo_eq_nil (options : src.options = dst.options)
    (held : ∀ t ∈ src.tracked, tableChange (some t) (dst.table? t.name) = none)
    (there : ∀ d ∈ dst.tracked, (src.table? d.name).isSome) : src.changesTo dst = [] := by
  have old : (src.tracked.filterMap fun t => tableChange (some t) (dst.table? t.name)) = [] :=
    List.filterMap_eq_nil_iff.2 held
  have new : (dst.tracked.filter fun t => (src.table? t.name).isNone) = [] := by
    rw [List.filter_eq_nil_iff]
    intro d member
    simp [Option.isSome_iff_ne_none.1 (there d member)]
  rw [changesTo, if_pos options, old, new]
  rfl

/-- A snapshot patched with the changes to another converges to it: no change is left, and the
tables that take part in diffs are those of the other. -/
theorem patch_converges (hs : src.WellFormed) (hd : dst.WellFormed) :
    (src.patch (src.changesTo dst)).changesTo dst = [] ∧
      ((src.patch (src.changesTo dst)).tracked.map (·.name)).Perm
        (dst.tracked.map (·.name)) := by
  refine ⟨changesTo_eq_nil (patched_schemaOptions src dst) ?_ ?_, patched_tracked_names hs hd⟩
  · intro t member
    obtain ⟨held, tracked⟩ := mem_tracked.1 member
    have after : t ∈ (tableAfter (src.table? t.name) (dst.table? t.name)).toList := by
      rw [← patched_tablesNamed hs hd tracked]
      exact mem_tablesNamed.2 ⟨held, rfl⟩
    exact tableChange_after (fun s found => hs.table? found) (fun d found => hd.table? found)
      (Option.mem_toList.1 after)
  · intro d member
    have named := List.mem_map_of_mem (f := fun t : Table => t.name) member
    have there := (patched_tracked_names hs hd).mem_iff.2 named
    exact (mem_tracked_names.1 there).2

/-- A shop with an index that is to be widened and a table that is to go. -/
def olderShop : Snapshot :=
  { name := "shop"
    options := { charset := "latin1", collation := "latin1_swedish_ci" }
    tables := [
      ((Table.named "users").addColumn (Column.ofType "id" "bigint").notNull).addIndex
        (.ofMember (.ofColumn "by_id" "users" "id" 1 true)),
      (Table.named "sessions").addColumn (.ofType "token" "varchar(64)")] }

def newerShop : Snapshot :=
  { name := "shop"
    options := { charset := "utf8mb4", collation := "utf8mb4_general_ci" }
    tables := [
      { (((Table.named "users").addColumn (.ofType "id" "bigint")).addColumn
          (.ofType "mail" "varchar(255)")).addIndex
            { name := "by_id"
              kind := .normal
              members := [.ofColumn "by_id" "users" "id" 1 true,
                .ofColumn "by_id" "users" "mail" 2 true] } with
        comment := "customers" },
      (Table.named "orders").addColumn (.ofType "total" "decimal(10,2)")] }

theorem shop_patch_converges :
    olderShop.WellFormed ∧ newerShop.WellFormed ∧
      (olderShop.patch (olderShop.changesTo newerShop)).changesTo newerShop = [] ∧
      ((olderShop.patch (olderShop.changesTo newerShop)).tracked.map (·.name)).Perm
        ["users", "orders"] := by
  have older : olderShop.WellFormed := by decide +kernel
  have newer : newerShop.WellFormed := by decide +kernel
  exact ⟨older, newer, patch_converges older newer⟩

end Snapshot

end SchemaShift
