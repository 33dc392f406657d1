import SchemaShift.Proofs.Diff.Listed

/-!
# The contents of a change set

A change set is said in full in terms of the two tables alone: which columns and indexes it lists
and in what order, that a name in two of its lists is that of an index with two forms, and which
options it gives.
-/

namespace SchemaShift

/-- Both tables have an index of this name, in two forms. -/
def Table.Reshapes (old new : Table) (name : String) : Prop :=
  ∃ held ∈ old.indexes.values, ∃ i ∈ new.indexes.values,
    held.name = name ∧ i.name = name ∧ held.differs i = true

/-- The change set tells the two tables apart. Its lists follow the order of `new`, where the
indexes have that of their names; the deleted indexes stand in no particular order. -/
structure ChangeSet.TellsApart (s : ChangeSet) (old new : Table) : Prop where
  addedColumns : s.addedColumns =
    new.columns.filter fun c => ∀ held ∈ old.columns, held.name ≠ c.name
  changedColumns : s.changedColumns =
    (new.columns.flatMap fun c => old.columns.map fun held => ColumnChange.mk held c).filter
      fun change => change.old.name = change.new.name ∧ change.old.differs change.new = true
  columnsApart : ∀ c ∈ s.addedColumns, ∀ change ∈ s.changedColumns, change.new.name ≠ c.name
  addedIndexes : s.addedIndexes = new.indexes.values.filter fun i =>
    (∀ held ∈ old.indexes.values, held.name ≠ i.name) ∨
      ∃ held ∈ old.indexes.values, held.name = i.name ∧ held.differs i = true
  addedAscending : (s.addedIndexes.map (·.name)).Pairwise (· < ·)
  deletedIndexes : ∀ held, held ∈ s.deletedIndexes ↔ held ∈ old.indexes.values ∧
    ((∀ i ∈ new.indexes.values, i.name ≠ held.name) ∨
      ∃ i ∈ new.indexes.values, i.name = held.name ∧ held.differs i = true)
  deletedOnce : (s.deletedIndexes.map (·.name)).Nodup
  inBothLists : ∀ name, name ∈ s.addedIndexes.map (·.name) ∧
    name ∈ s.deletedIndexes.map (·.name) ↔ old.Reshapes new name
  replaced : ∀ name, name ∈ s.replacedIndexes ↔ old.Reshapes new name
  replacedOnce : s.replacedIndexes.Nodup
  options : s.options.isSome = true ↔
    old.engine ≠ new.engine ∨ old.collation ≠ new.collation ∨ old.comment ≠ new.comment
  optionValues : ∀ o, s.options = some o → ∀ text,
    (o.engine = some text ↔ old.engine ≠ new.engine ∧ text = new.engine) ∧
    (o.collation = some text ↔ old.collation ≠ new.collation ∧ text = new.collation) ∧
    (o.comment = some text ↔ old.comment ≠ new.comment ∧ text = new.comment)

namespace Table

/-! ### Columns -/

theorem newColumns_eq (old new : Table) :
    old.newColumns new = new.columns.filter fun c => ∀ held ∈ old.columns, held.name ≠ c.name := by
  refine List.filter_congr fun c _ => ?_
  have lacks : old.column? c.name = none ↔ ∀ held ∈ old.columns, held.name ≠ c.name :=
    find?_key_none
  rw [Bool.eq_iff_iff, decide_eq_true_iff, Option.isNone_iff_eq_none, lacks]

/-- Among distinct names the columns of `old` that change into `c` are one at most. -/
theorem changes_into {old : Table} (names : (old.columns.map (·.name)).Nodup) (c : Column) :
    ((old.columns.map fun held => ColumnChange.mk held c).filter fun change =>
        change.old.name = change.new.name ∧ change.old.differs change.new = true) =
      (match old.column? c.name with
        | some previous => if previous.differs c then some { old := previous, new := c } else none
        | none => none : Option ColumnChange).toList := by
  have named : (old.columns.filter fun held => held.name == c.name) =
      (old.column? c.name).toList := filter_key_eq_find? names c.name
  have parts : (fun held : Column => decide (held.name = c.name ∧ held.differs c = true)) =
      fun held => (held.name == c.name) && held.differs c := by
    funext held
    rw [Bool.decide_and, Bool.decide_eq_true, beq_eq_decide]
  rw [List.filter_map]
  simp only [Function.comp_def]
  rw [parts, ← List.filter_filter, List.filter_comm, named]
  cases old.column? c.name with
  | none => rfl
  | some previous =>
    by_cases differs : previous.differs c
    · simp [differs]
    · simp [differs]

theorem modifiedColumns_eq {old : Table} (names : (old.columns.map (·.name)).Nodup) (new : Table) :
    old.modifiedColumns new =
      (new.columns.flatMap fun c => old.columns.map fun held => ColumnChange.mk held c).filter
        fun change =>
          change.old.name = change.new.name ∧ change.old.differs change.new = true := by
  rw [List.filter_flatMap, modifiedColumns, List.filterMap_eq_flatMap_toList]
  refine List.flatMap_congr fun c _ => ?_
  exact (changes_into names c).symm

/-! ### Indexes -/

section Indexes

variable {old new : Table}

theorem lacks_or_holds_iff (ho : old.Keyed) (name : String) (p : Index → Prop) :
    ((∀ held ∈ old.indexes.values, held.name ≠ name) ∨
        ∃ held ∈ old.indexes.values, held.name = name ∧ p held) ↔
      ∀ held, old.indexes.find? name = some held → p held := by
  have holds (held : Index) : held ∈ old.indexes.values ∧ held.name = name ↔
      old.indexes.find? name = some held := by
    constructor
    · rintro ⟨member, rfl⟩
      exact ho.mem_values.1 member
    · intro found
      have called := ho.index_name found
      exact ⟨ho.mem_values.2 (called ▸ found), called⟩
  constructor
  · rintro (lacks | ⟨held, member, called, fits⟩) other found
    · obtain ⟨there, named⟩ := (holds other).2 found
      exact absurd named (lacks other there)
    · rw [(holds held).1 ⟨member, called⟩] at found
      cases found
      exact fits
  · intro fits
    cases found : old.indexes.find? name with
    | none =>
      refine .inl fun held member called => ?_
      rw [(holds held).1 ⟨member, called⟩] at found
      cases found
    | some held =>
      obtain ⟨member, called⟩ := (holds held).2 found
      exact .inr ⟨held, member, called, fits held found⟩

theorem newIndexes_eq (ho : old.Keyed) (hn : new.Keyed) :
    old.newIndexes new = new.indexes.values.filter fun i =>
      (∀ held ∈ old.indexes.values, held.name ≠ i.name) ∨
        ∃ held ∈ old.indexes.values, held.name = i.name ∧ held.differs i = true := by
  have stored : new.indexes.values = new.indexes.entries.map (·.2) := rfl
  rw [newIndexes, stored, List.filter_map]
  refine congrArg (List.map Prod.snd) (List.filter_congr fun e member => ?_)
  have own : e.2.name = e.1 := hn e member
  rw [Bool.eq_iff_iff, Function.comp_apply, decide_eq_true_iff,
    lacks_or_holds_iff ho e.2.name fun held => held.differs e.2 = true, own]
  cases found : old.indexes.find? e.1 <;> simp [found]

theorem mem_deletedIndexes_iff (ho : old.Keyed) (hn : new.Keyed) (held : Index) :
    held ∈ (old.changesTo new).deletedIndexes ↔ held ∈ old.indexes.values ∧
      ((∀ i ∈ new.indexes.values, i.name ≠ held.name) ∨
        ∃ i ∈ new.indexes.values, i.name = held.name ∧ held.differs i = true) := by
  rw [mem_deletedIndexes, ho.mem_values,
    lacks_or_holds_iff hn held.name fun i => held.differs i = true]
  constructor
  · rintro ⟨name, found, differs⟩
    obtain rfl := ho.index_name found
    exact ⟨found, differs⟩
  · rintro ⟨found, differs⟩
    exact ⟨held.name, found, differs⟩

/-- A name is that of an added and of a deleted index exactly if both tables have it, in two
forms. -/
theorem reshapes_iff (ho : old.Keyed) (hn : new.Keyed) (name : String) :
    name ∈ (old.changesTo new).addedIndexes.map (·.name) ∧
        name ∈ (old.changesTo new).deletedIndexes.map (·.name) ↔ old.Reshapes new name := by
  constructor
  · rintro ⟨added, deleted⟩
    obtain ⟨i, listed, rfl⟩ := List.mem_map.1 added
    obtain ⟨held, gone, called⟩ := List.mem_map.1 deleted
    obtain ⟨key, wanted, -⟩ := mem_newIndexes.1 listed
    obtain rfl := hn.index_name wanted
    obtain ⟨other, found, differs⟩ := mem_deletedIndexes.1 gone
    obtain rfl := ho.index_name found
    refine ⟨held, ho.mem_values.2 found, i, hn.mem_values.2 wanted, called, rfl, ?_⟩
    exact differs i (called ▸ wanted)
  · rintro ⟨held, there, i, wanted, called, rfl, differs⟩
    have found : old.indexes.find? i.name = some held := called ▸ ho.mem_values.1 there
    have target := hn.mem_values.1 wanted
    constructor
    · refine List.mem_map.2 ⟨i, mem_newIndexes.2 ⟨i.name, target, fun previous same => ?_⟩, rfl⟩
      rw [found] at same
      cases same
      exact differs
    · refine List.mem_map.2 ⟨held, mem_deletedIndexes.2 ⟨i.name, found, fun j same => ?_⟩, called⟩
      rw [target] at same
      cases same
      exact differs

end Indexes

theorem mem_replacedIndexes (s : ChangeSet) (name : String) :
    name ∈ s.replacedIndexes ↔
      name ∈ s.addedIndexes.map (·.name) ∧ name ∈ s.deletedIndexes.map (·.name) := by
  rw [ChangeSet.replacedIndexes, List.mem_filter, and_comm]
  simp

/-! ### Options -/

theorem newValue_eq_some_iff {a b text : String} :
    OptionsChange.newValue a b = some text ↔ a ≠ b ∧ text = b := by
  unfold OptionsChange.newValue
  by_cases same : a = b
  · simp [same]
  · simp [same, eq_comm]

theorem options_changesTo (old new : Table) :
    (old.changesTo new).options =
      if old.engine ≠ new.engine ∨ old.collation ≠ new.collation ∨ old.comment ≠ new.comment then
        some (.between old new)
      else none := by
  have differ : old.optionsDiffer new = true ↔
      old.engine ≠ new.engine ∨ old.collation ≠ new.collation ∨ old.comment ≠ new.comment := by
    simp [optionsDiffer, or_assoc]
  simp only [changesTo, differ]

/-- A change set lists what it should and nothing else, each thing in its place. -/
theorem changesTo_tellsApart {old new : Table} (ho : old.WellFormed) (hn : new.WellFormed) :
    (old.changesTo new).TellsApart old new where
  addedColumns := newColumns_eq old new
  changedColumns := modifiedColumns_eq ho.columns new
  columnsApart := by
    intro c added change modified same
    obtain ⟨-, absent⟩ := mem_newColumns.1 added
    obtain ⟨-, found, -⟩ := mem_modifiedColumns.1 modified
    rw [same, absent] at found
    cases found
  addedIndexes := newIndexes_eq ho.keyed hn.keyed
  addedAscending := hn.keyed.ascending_picked _
  deletedIndexes := mem_deletedIndexes_iff ho.keyed hn.keyed
  deletedOnce := nodup_deletedIndexes ho.keyed new
  inBothLists := reshapes_iff ho.keyed hn.keyed
  replaced := by
    intro name
    rw [mem_replacedIndexes, reshapes_iff ho.keyed hn.keyed]
  replacedOnce := (nodup_deletedIndexes ho.keyed new).filter _
  options := by
    rw [options_changesTo]
    split
    · rename_i differ
      simp [differ]
    · rename_i alike
      simp [alike]
  optionValues := by
    intro o given text
    rw [options_changesTo] at given
    split at given
    · cases given
      exact ⟨newValue_eq_some_iff, newValue_eq_some_iff, newValue_eq_some_iff⟩
    · cases given

def olderShelf : Table :=
  (((((Table.named "shelf").addColumn (Column.ofType "id" "bigint").notNull).addColumn
    (.ofType "title" "varchar(40)")).addIndex
      (.ofMember (.ofColumn "by_title" "shelf" "title" 1 true))).addIndex
      (.ofMember (.ofColumn "by_id" "shelf" "id" 1 false)))

/-- The title got longer and comes with a year, in the index too; the other index is gone. -/
def newerShelf : Table :=
  { (((Table.named "shelf").addColumn (Column.ofType "title" "varchar(80)")).addColumn
      (.ofType "year" "int")).addIndex
        { name := "by_title"
          kind := .normal
          members := [.ofColumn "by_title" "shelf" "title" 1 true,
            .ofColumn "by_title" "shelf" "year" 2 true] } with
    comment := "books" }

theorem shelf_tellsApart :
    olderShelf.WellFormed ∧ newerShelf.WellFormed ∧
      (olderShelf.changesTo newerShelf).TellsApart olderShelf newerShelf ∧
      (olderShelf.changesTo newerShelf).addedColumns = [.ofType "year" "int"] ∧
      (olderShelf.changesTo newerShelf).changedColumns =
        [⟨.ofType "title" "varchar(40)", .ofType "title" "varchar(80)"⟩] ∧
      (olderShelf.changesTo newerShelf).deletedIndexes.map (·.name) = ["by_title", "by_id"] ∧
      (olderShelf.changesTo newerShelf).replacedIndexes = ["by_title"] ∧
      (olderShelf.changesTo newerShelf).options = some ⟨none, none, some "books"⟩ := by
  have older : olderShelf.WellFormed := by decide +kernel
  have newer : newerShelf.WellFormed := by decide +kernel
  refine ⟨older, newer, changesTo_tellsApart older newer, ?_⟩
  decide +kernel

end Table

end SchemaShift
