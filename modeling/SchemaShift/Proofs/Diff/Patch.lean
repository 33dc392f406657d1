import SchemaShift.Proofs.Diff.Listed

/-!
# Patching a snapshot

`Snapshot.patch` carries out a list of changes on a snapshot. A change touches the tables it
names and no other, so the tables of one name follow from the changes about that name alone.
-/

namespace SchemaShift

/-! ### Tables -/

def ChangeSet.newForm (changes : ChangeSet) (c : Column) : Column :=
  match changes.changedColumns.find? fun change => change.old.name == c.name with
  | some change => change.new
  | none => c

/-- The deleted indexes go before the added ones come. -/
def ChangeSet.replaceIndexes (changes : ChangeSet) (m : NameMap Index) : NameMap Index :=
  changes.addedIndexes.foldl (fun m i => m.insert i.name i)
    (changes.deletedIndexes.foldl (fun m i => m.erase i.name) m)

theorem ChangeSet.find?_replaceIndexes (changes : ChangeSet) (m : NameMap Index) (name : String) :
    (changes.replaceIndexes m).find? name =
      (changes.addedIndexes.reverse.find? fun i => i.name == name).or
        (if name ∈ changes.deletedIndexes.map (·.name) then none else m.find? name) := by
  unfold replaceIndexes
  rw [NameMap.find?_insertAll Index.name, NameMap.find?_eraseAll Index.name]

namespace Table

/-- Changed columns take their new form where they stand, and added ones follow at the end. -/
def patch (t : Table) (changes : ChangeSet) : Table :=
  { t with
    engine := (changes.options.bind (·.engine)).getD t.engine
    collation := (changes.options.bind (·.collation)).getD t.collation
    comment := (changes.options.bind (·.comment)).getD t.comment
    columns := t.columns.map changes.newForm ++ changes.addedColumns
    indexes := changes.replaceIndexes t.indexes }

@[simp] theorem patch_name (t : Table) (changes : ChangeSet) : (t.patch changes).name = t.name :=
  rfl

/-- A column of the patched table is the old one in its new form, or an added one. -/
theorem column?_patch (t : Table) {changes : ChangeSet}
    (keeps : ∀ change ∈ changes.changedColumns, change.new.name = change.old.name)
    (name : String) :
    (t.patch changes).column? name =
      ((t.column? name).map changes.newForm).or
        (changes.addedColumns.find? fun c => c.name == name) := by
  have named (c : Column) : (changes.newForm c).name = c.name := by
    unfold ChangeSet.newForm
    split
    · rename_i change found
      obtain ⟨member, same⟩ : change ∈ changes.changedColumns ∧ change.old.name = c.name :=
        find?_key_some found
      rw [keeps change member, same]
    · rfl
  unfold patch column?
  rw [List.find?_append, List.find?_map]
  simp only [Function.comp_def, named]

end Table

/-! ### Snapshots -/

/-- What a change does to the tables that it names. -/
def SchemaChange.onNamed (tables : List Table) : SchemaChange → List Table
  | .alterSchema .. => tables
  | .createTable t => tables ++ [t]
  | .dropTable _ => []
  | .alterTable _ changes => tables.map (·.patch changes)

namespace Snapshot

def apply (s : Snapshot) : SchemaChange → Snapshot
  | .alterSchema _ options => { s with options }
  | .createTable t => { s with tables := s.tables ++ [t] }
  | .dropTable t => { s with tables := s.tables.filter fun held => held.name != t.name }
  | .alterTable name changes =>
    { s with tables := s.tables.map fun t => if t.name = name then t.patch changes else t }

def patch (s : Snapshot) (changes : List SchemaChange) : Snapshot :=
  changes.foldl apply s

theorem named_map_alter (tables : List Table) (changes : ChangeSet) (name other : String) :
    ((tables.map fun t => if t.name = name then t.patch changes else t).filter
        fun t => t.name == other) =
      if other = name then (tables.filter fun t => t.name == other).map (·.patch changes)
      else tables.filter fun t => t.name == other := by
  induction tables with
  | nil => simp
  | cons t tables ih =>
    rw [List.map_cons, List.filter_cons, List.filter_cons, ih]
    by_cases here : t.name = name
    · by_cases asked : other = name
      · simp [here, asked]
      · simp [here, asked, Ne.symm asked]
    · by_cases asked : other = name
      · simp [here, asked]
      · simp [here, asked]

theorem tablesNamed_apply (s : Snapshot) (change : SchemaChange) (name : String) :
    (s.apply change).tablesNamed name =
      if change.tableName = some name then change.onNamed (s.tablesNamed name)
      else s.tablesNamed name := by
  cases change with
  | alterSchema _ options => rfl
  | createTable t =>
    simp only [apply, tablesNamed, SchemaChange.tableName, SchemaChange.onNamed,
      List.filter_append]
    by_cases here : t.name = name
    · simp [here]
    · simp [here]
  | dropTable t =>
    simp only [apply, tablesNamed, SchemaChange.tableName, SchemaChange.onNamed,
      List.filter_filter, Option.some.injEq]
    split
    · rename_i here
      subst here
      simp
    · rename_i different
      refine List.filter_congr fun held _ => ?_
      by_cases asked : held.name = name
      · simp [asked, Ne.symm different]
      · simp [asked]
  | alterTable table changes =>
    simp only [apply, tablesNamed, SchemaChange.tableName, SchemaChange.onNamed,
      named_map_alter, Option.some.injEq]
    by_cases here : table = name
    · simp [here]
    · simp [here, Ne.symm here]

/-- The tables of a name after a patch follow from the changes about that name. -/
theorem tablesNamed_patch (s : Snapshot) (changes : List SchemaChange) (name : String) :
    (s.patch changes).tablesNamed name =
      (changes.filter fun c => c.tableName == some name).foldl
        (fun tables change => change.onNamed tables) (s.tablesNamed name) := by
  unfold patch
  induction changes generalizing s with
  | nil => rfl
  | cons change changes ih =>
    rw [List.foldl_cons, ih, tablesNamed_apply, List.filter_cons]
    by_cases about : change.tableName = some name
    · simp [about]
    · simp [about]

theorem options_patch (s : Snapshot) (changes : List SchemaChange)
    (tables : ∀ c ∈ changes, c.tableName ≠ none) : (s.patch changes).options = s.options := by
  unfold patch
  induction changes generalizing s with
  | nil => rfl
  | cons change changes ih =>
    obtain ⟨first, rest⟩ := List.forall_mem_cons.1 tables
    rw [List.foldl_cons, ih _ rest]
    cases change with
    | alterSchema name options => exact absurd rfl first
    | createTable t => rfl
    | dropTable t => rfl
    | alterTable table changes => rfl

end Snapshot

end SchemaShift
