import SchemaShift.Migration.SchemaDiff
import SchemaShift.Proofs.Diff.Convergence

/-!
# The way back

The reverse changes of a diff meet the schema that its changes left behind. They find there the
tables and indexes that they expect. The columns that they add are found as well, since a patch
drops none: the way back can be taken exactly if no table lost a column on the way there.
-/

namespace SchemaShift

namespace Snapshot

/-- The change finds what it drops, deletes and modifies, and no table or index is in the way of
those it creates. A deleted index is found in the form that was to be deleted. -/
def Fits (s : Snapshot) : SchemaChange → Prop
  | .alterSchema .. => True
  | .createTable t => s.table? t.name = none
  | .dropTable t => (s.table? t.name).isSome
  | .alterTable name changes => ∃ t, s.table? name = some t ∧
      (∀ i ∈ changes.deletedIndexes, ∃ held, t.index? i.name = some held ∧
        held.differs i = false) ∧
      (∀ i ∈ changes.addedIndexes, i.name ∈ changes.deletedIndexes.map (·.name) ∨
        t.index? i.name = none) ∧
      ∀ c ∈ changes.changedColumns, (t.column? c.old.name).isSome

/-- No column that the change adds is there already. -/
def LacksAdded (s : Snapshot) : SchemaChange → Prop
  | .alterTable name changes => ∀ t, s.table? name = some t →
      ∀ c ∈ changes.addedColumns, t.column? c.name = none
  | _ => True

/-- Where both snapshots have a table, `dst` has all columns that `src` has. -/
def ColumnsStay (src dst : Snapshot) : Prop :=
  ∀ s ∈ src.tracked, ∀ d ∈ dst.table? s.name, ∀ c ∈ s.columns, (d.column? c.name).isSome

instance (src dst : Snapshot) : Decidable (src.ColumnsStay dst) :=
  inferInstanceAs (Decidable (∀ s ∈ src.tracked, ∀ d ∈ dst.table? s.name, ∀ c ∈ s.columns,
    (d.column? c.name).isSome = true))

end Snapshot

/-! ### Tables -/

namespace Table

variable {s d t : Table}

/-- No column of a table is lost in a change of it. -/
theorem tableAfter_keeps_column (after : tableAfter (some s) (some d) = some t) {name : String}
    (held : (s.column? name).isSome) : (t.column? name).isSome := by
  cases changed : s.changed d with
  | true =>
    simp only [tableAfter, changed, if_true, Option.some.injEq] at after
    rw [← after, column?_patch s fun change listed => modifiedColumns_name listed]
    simp [held]
  | false =>
    simp only [tableAfter, changed, Bool.false_eq_true, if_false, Option.some.injEq] at after
    exact after ▸ held

theorem changed_of_newColumn {c : Column} (added : c ∈ s.newColumns d) : s.changed d = true := by
  obtain ⟨member, absent⟩ := mem_newColumns.1 added
  by_contra unchanged
  obtain ⟨met, -⟩ := (changed_eq_false_iff s d).1 (by simpa using unchanged)
  obtain ⟨previous, found, -⟩ := met c member
  rw [absent] at found
  cases found

/-- A table without a difference to `d` is as good as `d` for changes that start from there. -/
theorem fits_changesTo (hs : s.WellFormed) (hd : d.WellFormed) (unchanged : t.changed d = false) :
    (∀ i ∈ (d.changesTo s).deletedIndexes, ∃ held, t.index? i.name = some held ∧
        held.differs i = false) ∧
      (∀ i ∈ (d.changesTo s).addedIndexes,
        i.name ∈ (d.changesTo s).deletedIndexes.map (·.name) ∨ t.index? i.name = none) ∧
      ∀ c ∈ (d.changesTo s).changedColumns, (t.column? c.old.name).isSome := by
  obtain ⟨columns, indexes, others, -⟩ := (changed_eq_false_iff t d).1 unchanged
  refine ⟨fun i deleted => ?_, fun i added => ?_, fun change listed => ?_⟩
  · obtain ⟨name, found, -⟩ := mem_deletedIndexes.1 deleted
    rw [hd.index_name found]
    exact indexes name i found
  · obtain ⟨name, wanted, differs⟩ := mem_newIndexes.1 added
    rw [hs.index_name wanted]
    cases found : d.indexes.find? name with
    | none => exact .inr (others name found)
    | some previous =>
      refine .inl ((deletedIndexes_name hd name).2 ⟨previous, found, fun j same => ?_⟩)
      rw [wanted] at same
      cases same
      exact differs previous found
  · obtain ⟨-, found, -⟩ := mem_modifiedColumns.1 listed
    obtain ⟨member, -⟩ := column?_some found
    obtain ⟨held, met, -⟩ := columns change.old member
    rw [met]
    rfl

end Table

/-! ### Snapshots -/

namespace Snapshot

variable {src dst : Snapshot}

theorem mem_changesBack_iff (hs : src.WellFormed) (hd : dst.WellFormed) {change : SchemaChange}
    {name : String} (about : change.tableName = some name) :
    change ∈ src.changesBack dst ↔
      name ≠ bookkeepingName ∧ tableChange (dst.table? name) (src.table? name) = some change :=
  @mem_changesTo_iff { dst with name := src.name } src hd.names hs.names change name about

theorem patched_fits (hs : src.WellFormed) (hd : dst.WellFormed) {change : SchemaChange}
    (listed : change ∈ src.changesBack dst) :
    (src.patch (src.changesTo dst)).Fits change := by
  cases about : change.tableName with
  | none =>
    cases change with
    | alterSchema name options => trivial
    | createTable t => cases about
    | dropTable t => cases about
    | alterTable name changes => cases about
  | some name =>
    obtain ⟨tracked, found⟩ := (mem_changesBack_iff hs hd about).1 listed
    have after := patched_table? hs hd tracked
    cases wanted : dst.table? name with
    | none =>
      cases before : src.table? name with
      | none =>
        rw [wanted, before] at found
        cases found
      | some s =>
        rw [wanted, before] at found after
        cases found
        cases about
        exact after
    | some d =>
      have wellFormed := hd.table? wanted
      cases before : src.table? name with
      | none =>
        rw [wanted, before] at found after
        cases found
        cases about
        exact Option.isSome_iff_exists.2 ⟨d, after⟩
      | some s =>
        rw [wanted, before] at found after
        simp only [tableChange] at found
        split at found
        · cases found
          cases about
          have unchanged := tableAfter_unchanged (fun t same => hs.table? (before.trans same))
            wellFormed rfl
          exact ⟨_, after, Table.fits_changesTo (hs.table? before) wellFormed unchanged⟩
        · cases found

theorem patched_lacksAdded_iff (hs : src.WellFormed) (hd : dst.WellFormed) :
    (∀ change ∈ src.changesBack dst, (src.patch (src.changesTo dst)).LacksAdded change) ↔
      src.ColumnsStay dst := by
  constructor
  · intro lacks s member d wanted c column
    obtain ⟨held, tracked⟩ := mem_tracked.1 member
    by_contra lost
    have added : c ∈ d.newColumns s := Table.mem_newColumns.2 ⟨column, by simpa using lost⟩
    have before := table?_of_mem hs.names held
    have listed : .alterTable s.name (d.changesTo s) ∈ src.changesBack dst := by
      refine (mem_changesBack_iff hs hd rfl).2 ⟨tracked, ?_⟩
      rw [Option.mem_def.1 wanted, before, tableChange, if_pos (Table.changed_of_newColumn added)]
    have after := patched_table? hs hd tracked
    rw [Option.mem_def.1 wanted, before] at after
    -- The patch has kept the column, so the entry that adds it finds it there.
    have there := Table.tableAfter_keeps_column rfl (d := d)
      (Option.isSome_iff_exists.2 ⟨c, (hs.tables s held).column?_iff.2 ⟨column, rfl⟩⟩)
    rw [lacks _ listed _ after c added] at there
    cases there
  · intro stay change listed
    cases change with
    | alterSchema name options => trivial
    | createTable t => trivial
    | dropTable t => trivial
    | alterTable name changes =>
      obtain ⟨tracked, found⟩ := (mem_changesBack_iff hs hd rfl).1 listed
      obtain ⟨d, s, wanted, before, -, named, rfl⟩ := tableChange_alter found
      intro t _ c added
      obtain ⟨member, absent⟩ := Table.mem_newColumns.1 added
      have held := mem_tracked.2 ⟨(table?_some before).1, named ▸ tracked⟩
      have kept := stay s held d (named ▸ wanted) c member
      rw [absent] at kept
      cases kept

end Snapshot

namespace SchemaDiff

/-- After the changes of a diff were made, its reverse changes find the tables, indexes and
modified columns that they expect, and nothing is in the way of tables and indexes that they
create. The columns that they add are missing exactly if no table was to lose a column. -/
theorem reverseChanges_apply_iff (dialect : Dialect) {src dst : Snapshot} (hs : src.WellFormed)
    (hd : dst.WellFormed) :
    (∀ change ∈ (ofSnapshots dialect src dst).reverseChanges,
        (src.patch (ofSnapshots dialect src dst).changes).Fits change) ∧
      ((∀ change ∈ (ofSnapshots dialect src dst).reverseChanges,
          (src.patch (ofSnapshots dialect src dst).changes).LacksAdded change) ↔
        src.ColumnsStay dst) := by
  constructor
  · intro change listed
    exact Snapshot.patched_fits hs hd listed
  · exact Snapshot.patched_lacksAdded_iff hs hd

open Snapshot (olderShop newerShop)

theorem shop_reverseChanges_apply :
    olderShop.WellFormed ∧ newerShop.WellFormed ∧ olderShop.ColumnsStay newerShop ∧
      (ofSnapshots .mysql olderShop newerShop).reverseChanges.map (·.tableName) =
        [none, some "users", some "orders", some "sessions"] ∧
      ∀ change ∈ (ofSnapshots .mysql olderShop newerShop).reverseChanges,
        (olderShop.patch (ofSnapshots .mysql olderShop newerShop).changes).Fits change ∧
          (olderShop.patch (ofSnapshots .mysql olderShop newerShop).changes).LacksAdded
            change := by
  have older : olderShop.WellFormed := by decide +kernel
  have newer : newerShop.WellFormed := by decide +kernel
  have stay : olderShop.ColumnsStay newerShop := by decide +kernel
  obtain ⟨fits, lacks⟩ := reverseChanges_apply_iff .mysql older newer
  refine ⟨older, newer, stay, by decide +kernel, fun change listed => ?_⟩
  exact ⟨fits change listed, lacks.2 stay change listed⟩

def usersWith (columns : List Column) : Snapshot :=
  { Snapshot.named "shop" with tables := [{ Table.named "users" with columns }] }

def nicknamedUsers : Snapshot :=
  usersWith [.ofType "id" "bigint", .ofType "nickname" "text"]

def plainUsers : Snapshot :=
  usersWith [.ofType "id" "bigint"]

def nicknameAgain : SchemaChange :=
  .alterTable "users"
    { addedColumns := [.ofType "nickname" "text"]
      changedColumns := []
      addedIndexes := []
      deletedIndexes := []
      options := none }

/-- A column that the target lacks stays where it is, and the way back adds it a second time. -/
theorem nickname_added_again :
    nicknamedUsers.WellFormed ∧ plainUsers.WellFormed ∧
      (ofSnapshots .sqlite nicknamedUsers plainUsers).changes = [] ∧
      (ofSnapshots .sqlite nicknamedUsers plainUsers).reverseChanges = [nicknameAgain] ∧
      ¬∀ change ∈ (ofSnapshots .sqlite nicknamedUsers plainUsers).reverseChanges,
        (nicknamedUsers.patch
          (ofSnapshots .sqlite nicknamedUsers plainUsers).changes).LacksAdded change := by
  have back : (ofSnapshots .sqlite nicknamedUsers plainUsers).reverseChanges =
      [nicknameAgain] := by
    decide +kernel
  have there : (ofSnapshots .sqlite nicknamedUsers plainUsers).changes = [] := by decide +kernel
  refine ⟨by decide +kernel, by decide +kernel, there, back, fun lacks => ?_⟩
  rw [back, there] at lacks
  have absent := lacks _ (List.mem_singleton.2 rfl) _ rfl _ (List.mem_singleton.2 rfl)
  revert absent
  decide +kernel

end SchemaDiff

end SchemaShift
