import Mathlib.Data.List.Forall2
import Mathlib.Tactic.MkIffOfInductiveProp
import SchemaShift.Proofs.Diff.Convergence

/-!
# The meaning of an empty diff

The comparison looks at some properties of a definition and passes over the others. A diff is
empty exactly if nothing that is looked at differs; columns that only the left side has are
passed over too.
-/

namespace SchemaShift

/-! ### What is looked at -/

@[mk_iff]
structure Column.SameDefinition (a b : Column) : Prop where
  name : a.name = b.name
  defaultValue : a.defaultValue = b.defaultValue
  nullable : a.nullable = b.nullable
  dataType : a.dataType = b.dataType
  columnType : a.columnType = b.columnType
  charLength : a.charLength = b.charLength
  numericPrecision : a.numericPrecision = b.numericPrecision
  numericScale : a.numericScale = b.numericScale
  datetimePrecision : a.datetimePrecision = b.datetimePrecision
  comment : a.comment = b.comment
  extra : a.extra = b.extra

@[mk_iff]
structure IndexMember.SameRow (a b : IndexMember) : Prop where
  indexName : a.indexName = b.indexName
  nonUnique : a.nonUnique = b.nonUnique
  position : a.position = b.position
  columnName : a.columnName = b.columnName

/-- The members agree one by one, so there are as many on both sides. -/
@[mk_iff]
structure Index.SameForm (a b : Index) : Prop where
  kind : a.kind = b.kind
  members : List.Forall₂ IndexMember.SameRow a.members b.members

theorem Column.differs_eq_false_iff (a b : Column) :
    a.differs b = false ↔ a.SameDefinition b := by
  simp only [differs, sameDefinition_iff, Bool.or_eq_false_iff, bne_eq_false_iff_eq, and_assoc]

theorem IndexMember.differs_eq_false_iff (a b : IndexMember) :
    a.differs b = false ↔ a.SameRow b := by
  simp only [differs, sameRow_iff, Bool.or_eq_false_iff, bne_eq_false_iff_eq, and_assoc]

theorem Index.differs_eq_false_iff (a b : Index) : a.differs b = false ↔ a.SameForm b := by
  simp only [differs, sameForm_iff, List.forall₂_iff_zip, Bool.or_eq_false_iff,
    bne_eq_false_iff_eq, List.any_eq_false, Bool.not_eq_true, Prod.forall, and_assoc,
    IndexMember.differs_eq_false_iff]

/-! ### Tables -/

namespace Table

/-- Nothing is to be done to `old` for `new`: it has each column of `new` and maybe others, and
it has the indexes of `new` and no others. -/
structure Meets (old new : Table) : Prop where
  engine : old.engine = new.engine
  collation : old.collation = new.collation
  comment : old.comment = new.comment
  columns : ∀ c ∈ new.columns, ∃ previous ∈ old.columns, previous.SameDefinition c
  indexNames : ∀ name, name ∈ old.indexes.keys ↔ name ∈ new.indexes.keys
  indexes : ∀ name previous i, old.indexes.find? name = some previous →
    new.indexes.find? name = some i → previous.SameForm i

theorem column_met_iff {old : Table} (wf : old.WellFormed) (c : Column) :
    (∃ previous, old.column? c.name = some previous ∧ previous.differs c = false) ↔
      ∃ previous ∈ old.columns, previous.SameDefinition c := by
  simp only [Column.differs_eq_false_iff]
  constructor
  · rintro ⟨previous, found, same⟩
    exact ⟨previous, (column?_some found).1, same⟩
  · rintro ⟨previous, member, same⟩
    exact ⟨previous, wf.column?_iff.2 ⟨member, same.name⟩, same⟩

theorem indexes_met_iff (old new : Table) :
    ((∀ name i, new.indexes.find? name = some i → ∃ previous,
        old.indexes.find? name = some previous ∧ previous.differs i = false) ∧
      ∀ name, new.indexes.find? name = none → old.indexes.find? name = none) ↔
    (∀ name, name ∈ old.indexes.keys ↔ name ∈ new.indexes.keys) ∧
      ∀ name previous i, old.indexes.find? name = some previous →
        new.indexes.find? name = some i → previous.SameForm i := by
  simp only [NameMap.mem_keys, Index.differs_eq_false_iff]
  constructor
  · rintro ⟨met, others⟩
    refine ⟨fun name => ?_, fun name previous i found wanted => ?_⟩
    · cases wanted : new.indexes.find? name with
      | none => simp [others name wanted]
      | some i =>
        obtain ⟨previous, found, -⟩ := met name i wanted
        simp [found]
    · obtain ⟨held, same, alike⟩ := met name i wanted
      rw [found] at same
      cases same
      exact alike
  · rintro ⟨names, alike⟩
    refine ⟨fun name i wanted => ?_, fun name absent => ?_⟩
    · have held := (names name).2 (by simp [wanted])
      obtain ⟨previous, found⟩ := Option.isSome_iff_exists.1 held
      exact ⟨previous, found, alike name previous i found wanted⟩
    · have gone := (not_congr (names name)).2 (by simp [absent])
      simpa using gone

theorem changed_eq_false_iff_meets {old : Table} (wf : old.WellFormed) (new : Table) :
    old.changed new = false ↔ old.Meets new := by
  have indexes := indexes_met_iff old new
  rw [changed_eq_false_iff, forall₂_congr fun c _ => column_met_iff wf c, optionsDiffer_iff]
  constructor
  · rintro ⟨columns, met, others, engine, collation, comment⟩
    obtain ⟨names, alike⟩ := indexes.1 ⟨met, others⟩
    exact ⟨engine, collation, comment, columns, names, alike⟩
  · rintro ⟨engine, collation, comment, columns, names, alike⟩
    obtain ⟨met, others⟩ := indexes.2 ⟨names, alike⟩
    exact ⟨columns, met, others, engine, collation, comment⟩

end Table

/-! ### Snapshots -/

namespace Snapshot

/-- The options agree, and beside the bookkeeping table the same tables are there, each of which
meets the one of its name. -/
structure Meets (src dst : Snapshot) : Prop where
  options : src.options = dst.options
  names : ∀ name, name ≠ bookkeepingName →
    (name ∈ src.tables.map (·.name) ↔ name ∈ dst.tables.map (·.name))
  tables : ∀ s ∈ src.tables, ∀ d ∈ dst.tables, s.name = d.name → s.name ≠ bookkeepingName →
    s.Meets d

theorem changesTo_eq_nil_iff (src dst : Snapshot) :
    src.changesTo dst = [] ↔ src.options = dst.options ∧
      (∀ t ∈ src.tracked, tableChange (some t) (dst.table? t.name) = none) ∧
      ∀ d ∈ dst.tracked, (src.table? d.name).isSome := by
  constructor
  · intro none
    simp only [changesTo, List.append_eq_nil_iff, List.filterMap_eq_nil_iff] at none
    obtain ⟨⟨options, held⟩, fresh⟩ := none
    refine ⟨by simpa using options, held, fun d member => ?_⟩
    by_contra absent
    have created := fresh d (List.mem_filter.2 ⟨member, by simpa using absent⟩)
    cases created
  · rintro ⟨options, held, there⟩
    exact changesTo_eq_nil options held there

theorem tableChange_eq_none_iff (t : Table) (dst : Option Table) :
    tableChange (some t) dst = none ↔ ∃ d, dst = some d ∧ t.changed d = false := by
  cases dst with
  | none => simp [tableChange]
  | some d => simp [tableChange]

/-- A diff is empty exactly if there is nothing to do to the left snapshot for the right one. -/
theorem changesTo_empty_iff {src dst : Snapshot} (hs : src.WellFormed) (hd : dst.WellFormed) :
    src.changesTo dst = [] ↔ src.Meets dst := by
  simp only [changesTo_eq_nil_iff, tableChange_eq_none_iff]
  constructor
  · rintro ⟨options, held, there⟩
    refine ⟨options, fun name tracked => ⟨fun left => ?_, fun right => ?_⟩, ?_⟩
    · obtain ⟨t, member, rfl⟩ := List.mem_map.1 left
      obtain ⟨d, found, -⟩ := held t (mem_tracked.2 ⟨member, tracked⟩)
      obtain ⟨present, named⟩ := table?_some found
      exact named ▸ List.mem_map_of_mem present
    · obtain ⟨d, member, rfl⟩ := List.mem_map.1 right
      obtain ⟨t, found⟩ := Option.isSome_iff_exists.1 (there d (mem_tracked.2 ⟨member, tracked⟩))
      obtain ⟨present, named⟩ := table?_some found
      exact named ▸ List.mem_map_of_mem present
    · intro s left d right named tracked
      obtain ⟨held', found, unchanged⟩ := held s (mem_tracked.2 ⟨left, tracked⟩)
      rw [named, table?_of_mem hd.names right] at found
      cases found
      exact (Table.changed_eq_false_iff_meets (hs.tables s left) d).1 unchanged
  · rintro ⟨options, names, met⟩
    refine ⟨options, fun t member => ?_, fun d member => ?_⟩
    · obtain ⟨left, tracked⟩ := mem_tracked.1 member
      have right := (names t.name tracked).1 (List.mem_map_of_mem left)
      obtain ⟨d, present, named⟩ := List.mem_map.1 right
      refine ⟨d, named ▸ table?_of_mem hd.names present, ?_⟩
      rw [Table.changed_eq_false_iff_meets (hs.tables t left)]
      exact met t left d present named.symm tracked
    · obtain ⟨right, tracked⟩ := mem_tracked.1 member
      have left := (names d.name tracked).2 (List.mem_map_of_mem right)
      obtain ⟨t, present, named⟩ := List.mem_map.1 left
      exact Option.isSome_iff_exists.2 ⟨t, named ▸ table?_of_mem hs.names present⟩

/-- The room has books with a shelf mark, and an index by number. -/
def markedRoom : Snapshot :=
  { name := "room"
    options := { charset := "utf8mb4", collation := "utf8mb4_general_ci" }
    tables := [
      (((Table.named "books").addColumn (.ofType "id" "bigint")).addColumn
        (.ofType "mark" "varchar(8)")).addIndex (.ofMember (.ofColumn "by_id" "books" "id" 1 true)),
      .named "readers"] }

/-- The copy has another order of tables, another key role and comment, and no shelf marks. -/
def plainRoom : Snapshot :=
  { name := "copy"
    options := { charset := "utf8mb4", collation := "utf8mb4_general_ci" }
    tables := [
      .named bookkeepingName,
      .named "readers",
      ((Table.named "books").addColumn ((Column.ofType "id" "bigint").withKey .multiple)).addIndex
        (.ofMember { IndexMember.ofColumn "by_id" "books" "id" 1 true with comment := "lookup" })] }

/-- Nothing is to be done for the copy, but the way back has a column to add. -/
theorem room_changesTo_empty :
    markedRoom.WellFormed ∧ plainRoom.WellFormed ∧ markedRoom.changesTo plainRoom = [] ∧
      markedRoom.Meets plainRoom ∧ ¬plainRoom.Meets markedRoom := by
  have marked : markedRoom.WellFormed := by decide +kernel
  have plain : plainRoom.WellFormed := by decide +kernel
  have silent : markedRoom.changesTo plainRoom = [] := by decide +kernel
  have back : plainRoom.changesTo markedRoom ≠ [] := by decide +kernel
  refine ⟨marked, plain, silent, (changesTo_empty_iff marked plain).1 silent, fun met => ?_⟩
  exact back ((changesTo_empty_iff plain marked).2 met)

end Snapshot

end SchemaShift
