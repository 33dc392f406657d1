import SchemaShift.Migration.SchemaDiff
import SchemaShift.Proofs.Diff.EmptyDiff
import SchemaShift.Proofs.Diff.Locality

/-!
# Forward and backward diffs

The changes from one snapshot to another and those back are about the same differences, seen
from either side: what is created one way is dropped the other way, and a pair of definitions
changes places. Only a column that one side lacks shows in one of the two diffs alone.
-/

namespace SchemaShift

/-! ### To differ is symmetric -/

theorem Column.SameDefinition.symm {a b : Column} (same : a.SameDefinition b) :
    b.SameDefinition a := by
  rw [sameDefinition_iff] at same ⊢
  simpa only [eq_comm] using same

theorem Index.SameForm.symm {a b : Index} (same : a.SameForm b) : b.SameForm a := by
  refine ⟨same.kind.symm, same.members.flip.imp fun x y row => ?_⟩
  rw [IndexMember.sameRow_iff] at row ⊢
  simpa only [eq_comm] using row

theorem eq_of_false_iff {x y : Bool} (unseen : x = false ↔ y = false) : x = y := by
  cases x <;> cases y <;> simp_all

theorem Column.differs_comm (a b : Column) : a.differs b = b.differs a := by
  refine eq_of_false_iff ?_
  rw [differs_eq_false_iff, differs_eq_false_iff]
  exact ⟨fun same => same.symm, fun same => same.symm⟩

theorem Index.differs_comm (a b : Index) : a.differs b = b.differs a := by
  refine eq_of_false_iff ?_
  rw [differs_eq_false_iff, differs_eq_false_iff]
  exact ⟨fun same => same.symm, fun same => same.symm⟩

theorem Table.optionsDiffer_comm (a b : Table) : a.optionsDiffer b = b.optionsDiffer a := by
  simp only [optionsDiffer, bne_comm]

/-! ### Tables -/

def ColumnChange.swap (c : ColumnChange) : ColumnChange :=
  { old := c.new, new := c.old }

/-- Options are set in the same fields, to whatever values. -/
structure OptionsChange.SameFields (a b : OptionsChange) : Prop where
  engine : a.engine.isSome = b.engine.isSome
  collation : a.collation.isSome = b.collation.isSome
  comment : a.comment.isSome = b.comment.isSome

/-- Of the same table, one change set leads there and the other back. -/
structure ChangeSet.Mirrors (there back : ChangeSet) : Prop where
  changedColumns : back.changedColumns.Perm (there.changedColumns.map ColumnChange.swap)
  addedIndexes : there.addedIndexes.Perm back.deletedIndexes
  deletedIndexes : there.deletedIndexes.Perm back.addedIndexes
  options : Option.Rel OptionsChange.SameFields there.options back.options

theorem OptionsChange.isSome_newValue_comm (a b : String) :
    (newValue a b).isSome = (newValue b a).isSome := by
  unfold newValue
  by_cases same : a = b
  · simp [same]
  · simp [same, Ne.symm same]

theorem OptionsChange.between_sameFields (old new : Table) :
    (between old new).SameFields (between new old) :=
  ⟨isSome_newValue_comm _ _, isSome_newValue_comm _ _, isSome_newValue_comm _ _⟩

namespace Table

variable {old new : Table}

theorem swap_mem_modifiedColumns (ho : old.WellFormed) (hn : new.WellFormed)
    {change : ColumnChange} :
    change.swap ∈ old.modifiedColumns new ↔ change ∈ new.modifiedColumns old := by
  rw [mem_modifiedColumns, mem_modifiedColumns, ho.column?_iff, hn.column?_iff,
    Column.differs_comm change.old]
  show change.old ∈ new.columns ∧ (change.new ∈ old.columns ∧ change.new.name = change.old.name) ∧
      change.new.differs change.old = true ↔ _
  rw [eq_comm (a := change.new.name)]
  tauto

theorem changedColumns_perm (ho : old.WellFormed) (hn : new.WellFormed) :
    (new.modifiedColumns old).Perm ((old.modifiedColumns new).map ColumnChange.swap) := by
  have apart : ((old.modifiedColumns new).map ColumnChange.swap).Nodup := by
    refine List.Nodup.of_map (fun change : ColumnChange => change.old.name) ?_
    rw [List.map_map]
    exact nodup_modifiedColumns old hn
  refine (List.perm_ext_iff_of_nodup (nodup_modifiedColumns new ho).of_map apart).2 fun c => ?_
  rw [← swap_mem_modifiedColumns ho hn, List.mem_map]
  constructor
  · intro listed
    exact ⟨c.swap, listed, rfl⟩
  · rintro ⟨change, listed, rfl⟩
    exact listed

/-- The indexes that come one way are those that go the other way, in their own form. -/
theorem addedIndexes_perm (old : Table) (hn : new.WellFormed) :
    (old.changesTo new).addedIndexes.Perm (new.changesTo old).deletedIndexes := by
  refine (List.perm_ext_iff_of_nodup (nodup_newIndexes old hn.keyed).of_map
    (nodup_deletedIndexes hn.keyed old).of_map).2 fun i => ?_
  show i ∈ old.newIndexes new ↔ _
  simp only [mem_newIndexes, mem_deletedIndexes, Index.differs_comm i]

theorem options_mirror (old new : Table) :
    Option.Rel OptionsChange.SameFields (old.changesTo new).options
      (new.changesTo old).options := by
  unfold changesTo
  rw [optionsDiffer_comm new old]
  cases old.optionsDiffer new with
  | false => exact .none
  | true => exact .some (OptionsChange.between_sameFields old new)

theorem changesTo_mirrors (ho : old.WellFormed) (hn : new.WellFormed) :
    (old.changesTo new).Mirrors (new.changesTo old) :=
  { changedColumns := changedColumns_perm ho hn
    addedIndexes := addedIndexes_perm old hn
    deletedIndexes := (addedIndexes_perm new ho).symm
    options := options_mirror old new }

end Table

/-! ### Snapshots -/

namespace SchemaChange

def created? : SchemaChange → Option Table
  | .createTable t => some t
  | _ => none

def dropped? : SchemaChange → Option Table
  | .dropTable t => some t
  | _ => none

/-- The same change, but to the options of the schema `name`. -/
def onSchema (name : String) : SchemaChange → SchemaChange
  | .alterSchema _ options => .alterSchema name options
  | change => change

end SchemaChange

theorem tableChange_onSchema {src dst : Option Table} {change : SchemaChange}
    (listed : tableChange src dst = some change) (name : String) :
    change.onSchema name = change := by
  cases change with
  | alterSchema held options =>
    cases src with
    | none => cases dst <;> cases listed
    | some s =>
      cases dst with
      | none => cases listed
      | some d =>
        simp only [tableChange] at listed
        split at listed <;> cases listed
  | createTable t => rfl
  | dropTable t => rfl
  | alterTable table changes => rfl

namespace Snapshot

theorem alterSchema_listed_iff (src dst : Snapshot) :
    (∃ name options, .alterSchema name options ∈ src.changesTo dst) ↔
      src.options ≠ dst.options := by
  have entries := schemaChange_changesTo src dst
  constructor
  · rintro ⟨name, options, listed⟩ same
    have kept : .alterSchema name options ∈
        (src.changesTo dst).filter fun c => c.tableName == none :=
      List.mem_filter.2 ⟨listed, rfl⟩
    rw [entries, if_pos same] at kept
    cases kept
  · intro differ
    rw [if_neg differ] at entries
    have kept : .alterSchema src.name dst.options ∈
        (src.changesTo dst).filter fun c => c.tableName == none := by
      rw [entries]
      exact List.mem_singleton.2 rfl
    exact ⟨_, _, (List.mem_filter.1 kept).1⟩

theorem dropped?_tableChange (t : Table) (dst : Option Table) :
    (tableChange (some t) dst).bind (·.dropped?) = if dst.isNone then some t else none := by
  cases dst with
  | none => rfl
  | some d => cases changed : t.changed d <;> simp [tableChange, changed, SchemaChange.dropped?]

theorem created?_tableChange (t : Table) (dst : Option Table) :
    (tableChange (some t) dst).bind (·.created?) = none := by
  cases dst with
  | none => rfl
  | some d => cases changed : t.changed d <;> simp [tableChange, changed, SchemaChange.created?]

theorem filterMap_changesTo (src dst : Snapshot) {pick : SchemaChange → Option Table}
    (unpicked : ∀ name options, pick (.alterSchema name options) = none) :
    (src.changesTo dst).filterMap pick =
      (src.tracked.filterMap fun t => (tableChange (some t) (dst.table? t.name)).bind pick) ++
        (dst.tracked.filter fun t => (src.table? t.name).isNone).filterMap fun t =>
          pick (.createTable t) := by
  have options : (if src.options = dst.options then []
      else [SchemaChange.alterSchema src.name dst.options]).filterMap pick = [] := by
    split
    · rfl
    · simp [unpicked]
  rw [changesTo, List.filterMap_append, List.filterMap_append, options, List.filterMap_filterMap,
    List.filterMap_filterMap]
  rfl

theorem dropped_changesTo (src dst : Snapshot) :
    (src.changesTo dst).filterMap (·.dropped?) =
      src.tracked.filter fun t => (dst.table? t.name).isNone := by
  have fresh : ((dst.tracked.filter fun t => (src.table? t.name).isNone).filterMap fun t =>
      (SchemaChange.createTable t).dropped?) = [] := by
    simp [SchemaChange.dropped?]
  rw [filterMap_changesTo src dst fun _ _ => rfl, fresh, List.append_nil]
  simp only [dropped?_tableChange]
  rw [← List.filterMap_eq_filter]
  rfl

theorem created_changesTo (src dst : Snapshot) :
    (src.changesTo dst).filterMap (·.created?) =
      dst.tracked.filter fun t => (src.table? t.name).isNone := by
  rw [filterMap_changesTo src dst fun _ _ => rfl]
  simp only [created?_tableChange]
  simp [SchemaChange.created?]

theorem changesBack_eq (src dst : Snapshot) :
    src.changesBack dst = (dst.changesTo src).map (·.onSchema src.name) := by
  have same (change? : Table → Option SchemaChange)
      (kept : ∀ t change, change? t = some change → change.onSchema src.name = change)
      (tables : List Table) :
      (tables.filterMap change?).map (·.onSchema src.name) = tables.filterMap change? := by
    refine (List.map_congr_left fun change listed => ?_).trans (List.map_id _)
    obtain ⟨t, -, found⟩ := List.mem_filterMap.1 listed
    exact kept t change found
  have held := same (fun t => tableChange (some t) (src.table? t.name))
    (fun t change listed => tableChange_onSchema listed src.name) dst.tracked
  have fresh := same (fun t => tableChange none (some t))
    (fun t change listed => tableChange_onSchema listed src.name)
    (src.tracked.filter fun t => (dst.table? t.name).isNone)
  rw [changesTo, List.map_append, List.map_append, held, fresh]
  refine congrArg (· ++ _) (congrArg (· ++ _) ?_)
  show (if dst.options = src.options then []
    else [SchemaChange.alterSchema src.name src.options]) = _
  split <;> rfl

/-- The diffs from `src` to `dst` and from `dst` to `src` tell the same differences. -/
structure Mirrored (src dst : Snapshot) : Prop where
  schema : (∃ name options, .alterSchema name options ∈ src.changesTo dst) ↔
    ∃ name options, .alterSchema name options ∈ dst.changesTo src
  created : (src.changesTo dst).filterMap (·.created?) =
    (dst.changesTo src).filterMap (·.dropped?)
  dropped : (src.changesTo dst).filterMap (·.dropped?) =
    (dst.changesTo src).filterMap (·.created?)
  tables : ∀ s ∈ src.tables, ∀ d ∈ dst.tables, s.name = d.name →
    (s.changesTo d).Mirrors (d.changesTo s)

end Snapshot

namespace SchemaDiff

/-- The two directions of a diff mirror each other. The reverse changes are those of the backward
diff, but they name the schema to which they are to be applied. -/
theorem reverseChanges_mirror (d : SchemaDiff) (hs : d.source.WellFormed)
    (ht : d.target.WellFormed) :
    d.source.Mirrored d.target ∧
      d.reverseChanges = (d.target.changesTo d.source).map (·.onSchema d.source.name) := by
  refine ⟨⟨?_, ?_, ?_, ?_⟩, Snapshot.changesBack_eq d.source d.target⟩
  · rw [Snapshot.alterSchema_listed_iff, Snapshot.alterSchema_listed_iff, ne_comm]
  · rw [Snapshot.created_changesTo, Snapshot.dropped_changesTo]
  · rw [Snapshot.dropped_changesTo, Snapshot.created_changesTo]
  · intro s left t right _
    exact Table.changesTo_mirrors (hs.tables s left) (ht.tables t right)

open Snapshot (olderShop newerShop)

def liveShop : Snapshot :=
  { olderShop with name := "live" }

theorem shop_reverseChanges_mirror :
    liveShop.WellFormed ∧ newerShop.WellFormed ∧ liveShop.Mirrored newerShop ∧
      (newerShop.changesTo liveShop).map (·.tableName) =
        [none, some "users", some "orders", some "sessions"] ∧
      (ofSnapshots .mysql liveShop newerShop).reverseChanges.take 1 =
        [.alterSchema "live" olderShop.options] := by
  have live : liveShop.WellFormed := by decide +kernel
  have newer : newerShop.WellFormed := by decide +kernel
  obtain ⟨mirrored, renamed⟩ :=
    reverseChanges_mirror (ofSnapshots .mysql liveShop newerShop) live newer
  refine ⟨live, newer, mirrored, by decide +kernel, ?_⟩
  rw [renamed]
  decide +kernel

end SchemaDiff

end SchemaShift
