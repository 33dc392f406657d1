import SchemaShift.Proofs.Diff.Listed

/-!
# Where a change stands in a diff

The entries of a diff stand in the order of the tables they are about, those of the left
snapshot before those that only the right one has. Tables of the bookkeeping name play no part
on either side.
-/

namespace SchemaShift

namespace SchemaChange

def creates : SchemaChange → Bool
  | .createTable _ => true
  | _ => false

def drops : SchemaChange → Bool
  | .dropTable _ => true
  | _ => false

end SchemaChange

theorem tableChange_creates {t : Table} {dst : Option Table} {change : SchemaChange}
    (listed : tableChange (some t) dst = some change) : change.creates = false := by
  cases dst with
  | none =>
    cases listed
    rfl
  | some d =>
    simp only [tableChange] at listed
    split at listed
    · cases listed
      rfl
    · cases listed

/-- The entries made from a list of tables name those that have one, in their order. -/
theorem tableNames_filterMap (change? : Table → Option SchemaChange)
    (named : ∀ t change, change? t = some change → change.tableName = some t.name)
    (tables : List Table) :
    (tables.filterMap change?).map (·.tableName) =
      ((tables.filter fun t => (change? t).isSome).map (·.name)).map some := by
  induction tables with
  | nil => rfl
  | cons t tables ih =>
    rw [List.filterMap_cons, List.filter_cons]
    cases found : change? t with
    | none => simpa using ih
    | some change =>
      have about := named t change found
      simpa [about] using ih

theorem filter_filterMap_schema (change? : Table → Option SchemaChange)
    (named : ∀ t change, change? t = some change → change.tableName = some t.name)
    (tables : List Table) :
    ((tables.filterMap change?).filter fun c => c.tableName == none) = [] := by
  refine List.filter_eq_nil_iff.2 fun change listed => ?_
  obtain ⟨t, -, found⟩ := List.mem_filterMap.1 listed
  simp [named t change found]

namespace Snapshot

/-! ### The bookkeeping table -/

/-- The two snapshots differ at most in tables of the bookkeeping name. -/
structure SameBesideBooks (s t : Snapshot) : Prop where
  name : t.name = s.name
  options : t.options = s.options
  tracked : t.tracked = s.tracked

theorem table?_tracked (s : Snapshot) {name : String} (tracked : name ≠ bookkeepingName) :
    s.table? name = s.tracked.find? fun t => t.name == name := by
  rw [table?_eq_head, ← tracked_named s tracked, List.head?_filter]

theorem SameBesideBooks.table? {s t : Snapshot} (same : s.SameBesideBooks t) {name : String}
    (tracked : name ≠ bookkeepingName) : t.table? name = s.table? name := by
  rw [table?_tracked t tracked, table?_tracked s tracked, same.tracked]

theorem changesTo_besideBooks {src dst src' dst' : Snapshot} (hs : src.SameBesideBooks src')
    (hd : dst.SameBesideBooks dst') : src'.changesTo dst' = src.changesTo dst := by
  -- Lookups do see the bookkeeping table, but they are made for names of tracked tables only.
  have held : (src.tracked.filterMap fun t => tableChange (some t) (dst'.table? t.name)) =
      src.tracked.filterMap fun t => tableChange (some t) (dst.table? t.name) := by
    refine List.filterMap_congr fun t member => ?_
    rw [hd.table? (mem_tracked.1 member).2]
  have fresh : (dst.tracked.filter fun t => (src'.table? t.name).isNone) =
      dst.tracked.filter fun t => (src.table? t.name).isNone := by
    refine List.filter_congr fun t member => ?_
    rw [hs.table? (mem_tracked.1 member).2]
  rw [changesTo, changesTo, hs.name, hs.options, hs.tracked, hd.options, hd.tracked, held, fresh]

/-! ### The order of the entries -/

/-- The names of the tables of `src` that have a change, in the order of `src`. -/
def changedNames (src dst : Snapshot) : List String :=
  (src.tracked.map (·.name)).filter fun name =>
    (tableChange (src.table? name) (dst.table? name)).isSome

/-- The names of the tables that only `dst` has, in the order of `dst`. -/
def freshNames (src dst : Snapshot) : List String :=
  (dst.tracked.map (·.name)).filter fun name => (src.table? name).isNone

theorem tableNames_changesTo {src dst : Snapshot} (hs : (src.tables.map (·.name)).Nodup) :
    (src.changesTo dst).map (·.tableName) =
      (if src.options = dst.options then [] else [none]) ++
        (src.changedNames dst ++ src.freshNames dst).map some := by
  have held : (src.tracked.filter fun t => (tableChange (some t) (dst.table? t.name)).isSome) =
      src.tracked.filter fun t =>
        (tableChange (src.table? t.name) (dst.table? t.name)).isSome := by
    refine List.filter_congr fun t member => ?_
    rw [table?_of_mem hs (mem_tracked.1 member).1]
  rw [changesTo, List.map_append, List.map_append,
    tableNames_filterMap _ (heldChange_name dst), tableNames_filterMap _ freshChange_name, held,
    changedNames, freshNames, List.filter_map, List.filter_map, List.map_append, List.append_assoc]
  refine congrArg₂ (· ++ ·) ?_ ?_
  · split <;> rfl
  · simp [tableChange, Function.comp_def]

theorem schemaChange_changesTo (src dst : Snapshot) :
    ((src.changesTo dst).filter fun c => c.tableName == none) =
      if src.options = dst.options then [] else [.alterSchema src.name dst.options] := by
  have held := filter_filterMap_schema _ (heldChange_name dst) src.tracked
  have fresh := filter_filterMap_schema _ freshChange_name
    (dst.tracked.filter fun t => (src.table? t.name).isNone)
  rw [changesTo, List.filter_append, List.filter_append, held, fresh, List.append_nil,
    List.append_nil]
  split <;> rfl

theorem changesTo_dropsFirst (src dst : Snapshot) :
    (src.changesTo dst).Pairwise fun a b => a.creates = true → b.drops = false := by
  have early : ∀ a ∈ (if src.options = dst.options then []
      else [SchemaChange.alterSchema src.name dst.options]) ++
        src.tracked.filterMap fun t => tableChange (some t) (dst.table? t.name),
      a.creates = false := by
    intro a listed
    rcases List.mem_append.1 listed with options | held
    · split at options
      · cases options
      · cases List.mem_singleton.1 options
        rfl
    · obtain ⟨t, -, listed⟩ := List.mem_filterMap.1 held
      exact tableChange_creates listed
  have late : ∀ b ∈ (dst.tracked.filter fun t => (src.table? t.name).isNone).filterMap fun t =>
      tableChange none (some t), b.drops = false := by
    intro b listed
    obtain ⟨t, -, listed⟩ := List.mem_filterMap.1 listed
    cases listed
    rfl
  refine List.pairwise_append.2 ⟨?_, ?_, ?_⟩
  · refine List.pairwise_of_forall_mem_list fun a first b _ creates => ?_
    rw [early a first] at creates
    cases creates
  · exact List.pairwise_of_forall_mem_list fun a _ b second _ => late b second
  · exact fun a _ b second _ => late b second

/-- What stands in a list of changes from `src` to `dst`, and where it stands. -/
structure Located (src dst : Snapshot) (changes : List SchemaChange) : Prop where
  named : ∀ name, name ≠ bookkeepingName →
    (changes.filter fun c => c.tableName == some name) =
      (tableChange (src.table? name) (dst.table? name)).toList
  unbooked : ∀ change ∈ changes, change.tableName ≠ some bookkeepingName
  schema : (changes.filter fun c => c.tableName == none) =
    if src.options = dst.options then [] else [.alterSchema src.name dst.options]
  order : changes.map (·.tableName) = (if src.options = dst.options then [] else [none]) ++
    (src.changedNames dst ++ src.freshNames dst).map some
  dropsFirst : changes.Pairwise fun a b => a.creates = true → b.drops = false

/-- A diff lists about a name the one change between the two tables of that name, and about the
schema its options; first comes the schema, then the changed tables of the left side in their
order, then the new ones of the right side in theirs. Whatever is called like the bookkeeping
table makes no difference to it. -/
theorem changesTo_located {src dst : Snapshot} (hs : (src.tables.map (·.name)).Nodup)
    (hd : (dst.tables.map (·.name)).Nodup) :
    Located src dst (src.changesTo dst) ∧
      ∀ src' dst', src.SameBesideBooks src' → dst.SameBesideBooks dst' →
        src'.changesTo dst' = src.changesTo dst := by
  constructor
  · constructor
    · exact fun name tracked => named_changesTo hs hd tracked
    · exact fun change listed => changesTo_bookkeeping src dst listed
    · exact schemaChange_changesTo src dst
    · exact tableNames_changesTo hs
    · exact changesTo_dropsFirst src dst
  · exact fun src' dst' left right => changesTo_besideBooks left right

def olderArchive : Snapshot :=
  { name := "archive"
    options := { charset := "latin1", collation := "latin1_swedish_ci" }
    tables := [.named "letters", .named bookkeepingName, .named "maps"] }

def newerArchive : Snapshot :=
  { name := "archive"
    options := { charset := "utf8mb4", collation := "utf8mb4_general_ci" }
    tables := [.named "photos", { Table.named "maps" with comment := "sheets" }, .named "films"] }

/-- The newer archive has no bookkeeping table; with one it would have the same changes. -/
theorem archive_changesTo_located :
    (olderArchive.tables.map (·.name)).Nodup ∧ (newerArchive.tables.map (·.name)).Nodup ∧
      Located olderArchive newerArchive (olderArchive.changesTo newerArchive) ∧
      (olderArchive.changesTo newerArchive).map (·.tableName) =
        [none, some "letters", some "maps", some "photos", some "films"] ∧
      olderArchive.changesTo
          { newerArchive with
            tables := { Table.named bookkeepingName with comment := "by hand" } ::
              newerArchive.tables } =
        olderArchive.changesTo newerArchive := by
  have older : (olderArchive.tables.map (·.name)).Nodup := by decide +kernel
  have newer : (newerArchive.tables.map (·.name)).Nodup := by decide +kernel
  obtain ⟨located, beside⟩ := changesTo_located older newer
  refine ⟨older, newer, located, ?_, beside _ _ ⟨rfl, rfl, rfl⟩ ⟨rfl, rfl, ?_⟩⟩
  · rw [located.order]
    decide +kernel
  · decide +kernel

end Snapshot

end SchemaShift
