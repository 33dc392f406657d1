import SchemaShift.Proofs.Diff.Listed

/-!
# One walk over two tables

Both looks at a pair of tables follow one walk, which meets the differences in a fixed order:
`Table.changesTo` notes all that it meets, and `Table.changed` stops at the first. So the two
agree on all tables, also where names repeat or an index stands under another name.
-/

namespace SchemaShift

/-- A difference, as the walk meets it. -/
inductive Difference where
  | newColumn (c : Column)
  | newForm (change : ColumnChange)
  | newIndex (i : Index)
  | oldIndex (i : Index)
  | options (change : OptionsChange)

namespace ChangeSet

def empty : ChangeSet :=
  { addedColumns := [], changedColumns := [], addedIndexes := [], deletedIndexes := []
    options := none }

/-- Puts a difference at the end of the list that it belongs to. -/
def note (s : ChangeSet) : Difference → ChangeSet
  | .newColumn c => { s with addedColumns := s.addedColumns ++ [c] }
  | .newForm change => { s with changedColumns := s.changedColumns ++ [change] }
  | .newIndex i => { s with addedIndexes := s.addedIndexes ++ [i] }
  | .oldIndex i => { s with deletedIndexes := s.deletedIndexes ++ [i] }
  | .options change => { s with options := some change }

def noteAll (s : ChangeSet) (met : List Difference) : ChangeSet :=
  met.foldl note s

theorem noteAll_append (s : ChangeSet) (met later : List Difference) :
    s.noteAll (met ++ later) = (s.noteAll met).noteAll later :=
  List.foldl_append

theorem isEmpty_note (s : ChangeSet) (d : Difference) : (s.note d).isEmpty = false := by
  cases d <;> simp [note, isEmpty]

/-- Whatever is noted stays, so a set is empty only if nothing was met. -/
theorem isEmpty_noteAll (s : ChangeSet) (met : List Difference) :
    (s.noteAll met).isEmpty = (s.isEmpty && met.isEmpty) := by
  induction met generalizing s with
  | nil => simp [noteAll]
  | cons d met ih =>
    have later : (s.noteAll (d :: met)).isEmpty = ((s.note d).noteAll met).isEmpty := rfl
    rw [later, ih, isEmpty_note]
    simp

end ChangeSet

namespace Table

/-! ### The walk -/

/-- What a column of the new table says about the old one. -/
def columnDifferences (old : Table) (c : Column) : List Difference :=
  match old.column? c.name with
  | none => [.newColumn c]
  | some previous => if previous.differs c then [.newForm { old := previous, new := c }] else []

/-- What an index of the new table says about the old one. An index in another form goes before
it comes again. -/
def indexDifferences (old : Table) (entry : String × Index) : List Difference :=
  match old.indexes.find? entry.1 with
  | none => [.newIndex entry.2]
  | some previous =>
    if previous.differs entry.2 then [.oldIndex previous, .newIndex entry.2] else []

def differences (old new : Table) : List Difference :=
  new.columns.flatMap old.columnDifferences ++
    (new.indexes.entries.flatMap old.indexDifferences ++
      ((old.missingIndexes new).map .oldIndex ++
        if old.optionsDiffer new then [.options (.between old new)] else []))

/-! ### All differences are noted -/

theorem noteAll_columns (old : Table) (cs : List Column) (s : ChangeSet) :
    s.noteAll (cs.flatMap old.columnDifferences) =
      { s with
        addedColumns := s.addedColumns ++ cs.filter fun c => (old.column? c.name).isNone
        changedColumns := s.changedColumns ++ cs.filterMap fun c =>
          match old.column? c.name with
          | some previous =>
            if previous.differs c then some { old := previous, new := c } else none
          | none => none } := by
  induction cs generalizing s with
  | nil => simp [ChangeSet.noteAll]
  | cons c cs ih =>
    rw [List.flatMap_cons, ChangeSet.noteAll_append, ih]
    cases found : old.column? c.name with
    | none => simp [columnDifferences, found, ChangeSet.noteAll, ChangeSet.note]
    | some previous =>
      by_cases differs : previous.differs c
      · simp [columnDifferences, found, differs, ChangeSet.noteAll, ChangeSet.note]
      · simp [columnDifferences, found, differs, ChangeSet.noteAll]

theorem noteAll_indexes (old : Table) (entries : List (String × Index)) (s : ChangeSet) :
    s.noteAll (entries.flatMap old.indexDifferences) =
      { s with
        addedIndexes := s.addedIndexes ++ (entries.filter fun (name, index) =>
          match old.indexes.find? name with
          | some previous => previous.differs index
          | none => true).map (·.2)
        deletedIndexes := s.deletedIndexes ++ entries.filterMap fun (name, index) =>
          match old.indexes.find? name with
          | some previous => if previous.differs index then some previous else none
          | none => none } := by
  induction entries generalizing s with
  | nil => simp [ChangeSet.noteAll]
  | cons entry entries ih =>
    rw [List.flatMap_cons, ChangeSet.noteAll_append, ih]
    cases found : old.indexes.find? entry.1 with
    | none => simp [indexDifferences, found, ChangeSet.noteAll, ChangeSet.note]
    | some previous =>
      by_cases differs : previous.differs entry.2
      · simp [indexDifferences, found, differs, ChangeSet.noteAll, ChangeSet.note]
      · simp [indexDifferences, found, differs, ChangeSet.noteAll]

theorem noteAll_oldIndexes (is : List Index) (s : ChangeSet) :
    s.noteAll (is.map .oldIndex) = { s with deletedIndexes := s.deletedIndexes ++ is } := by
  induction is generalizing s with
  | nil => simp [ChangeSet.noteAll]
  | cons i is ih =>
    have later : s.noteAll ((i :: is).map .oldIndex) =
        (s.note (.oldIndex i)).noteAll (is.map .oldIndex) := rfl
    rw [later, ih]
    simp [ChangeSet.note]

theorem changesTo_eq_noteAll (old new : Table) :
    old.changesTo new = ChangeSet.empty.noteAll (old.differences new) := by
  rw [differences, ChangeSet.noteAll_append, noteAll_columns, ChangeSet.noteAll_append,
    noteAll_indexes, ChangeSet.noteAll_append, noteAll_oldIndexes]
  by_cases differ : old.optionsDiffer new
  · simp only [differ, if_true, ChangeSet.noteAll, List.foldl_cons, List.foldl_nil, ChangeSet.note,
      ChangeSet.empty, List.nil_append, changesTo]
    rfl
  · simp only [differ, ChangeSet.noteAll, ChangeSet.empty, List.nil_append, changesTo]
    rfl

/-! ### The first difference is enough -/

theorem columnDifferences_eq_nil_iff (old : Table) (c : Column) :
    old.columnDifferences c = [] ↔
      ∃ previous, old.column? c.name = some previous ∧ previous.differs c = false := by
  unfold columnDifferences
  cases old.column? c.name <;> simp

theorem indexDifferences_eq_nil_iff (old : Table) (entry : String × Index) :
    old.indexDifferences entry = [] ↔
      ∃ previous, old.indexes.find? entry.1 = some previous ∧
        previous.differs entry.2 = false := by
  unfold indexDifferences
  cases old.indexes.find? entry.1 <;> simp

theorem missingIndexes_eq_nil_iff (old new : Table) :
    old.missingIndexes new = [] ↔
      ∀ name, new.indexes.find? name = none → old.indexes.find? name = none := by
  rw [List.eq_nil_iff_forall_not_mem]
  simp only [mem_missingIndexes]
  constructor
  · intro nothing name absent
    refine Option.eq_none_iff_forall_ne_some.2 fun i found => ?_
    exact nothing i ⟨name, found, absent⟩
  · rintro others i ⟨name, found, absent⟩
    rw [others name absent] at found
    cases found

theorem differences_eq_nil_iff (old new : Table) :
    old.differences new = [] ↔ old.changed new = false := by
  rw [changed_eq_false_iff]
  simp only [differences, List.append_eq_nil_iff, List.flatMap_eq_nil_iff, List.map_eq_nil_iff,
    columnDifferences_eq_nil_iff, indexDifferences_eq_nil_iff, missingIndexes_eq_nil_iff]
  refine and_congr Iff.rfl (and_congr ?_ (and_congr Iff.rfl ?_))
  · simp only [Prod.forall, ← NameMap.find?_iff]
  · cases old.optionsDiffer new <;> simp

/-- The look for a first change finds one exactly if there is one to list. -/
theorem isEmpty_changesTo_iff (old new : Table) :
    (old.changesTo new).isEmpty = true ↔ old.changed new = false := by
  rw [changesTo_eq_noteAll, ChangeSet.isEmpty_noteAll, ← differences_eq_nil_iff]
  simp [ChangeSet.empty, ChangeSet.isEmpty]

/-- The two looks agree on all tables: the quick one finds a change exactly if the list is not
empty, and exactly then the table is to be altered, by that list. -/
theorem changed_agrees (old new : Table) :
    old.changed new = !(old.changesTo new).isEmpty ∧
      tableChange (some old) (some new) =
        if (old.changesTo new).isEmpty then none
        else some (.alterTable new.name (old.changesTo new)) := by
  have agree := isEmpty_changesTo_iff old new
  cases changed : old.changed new with
  | false =>
    have nothing := agree.2 changed
    simp [tableChange, changed, nothing]
  | true =>
    have something : (old.changesTo new).isEmpty = false := by
      simpa [changed] using agree
    simp [tableChange, changed, something]

end Table

end SchemaShift
