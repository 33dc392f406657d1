import Mathlib.Data.List.Basic
import Mathlib.Data.List.Lattice
import SchemaShift.Proofs.Ddl.Reading
import SchemaShift.Proofs.Diff.EmptyDiff

/-!
# Altering a table statement by statement

The statements that SQLite is given for a changed table are carried out one after another on the
names of its columns and indexes. Each finds what it needs: an index is gone before another one
takes its name, and a column is there before an index covers it.
-/

namespace SchemaShift

/-! ### Carrying out statements -/

/-- The names of the columns of a table, and of its indexes beside the primary key. -/
structure TableState where
  columns : List String
  indexes : List String
deriving DecidableEq

namespace TableState

/-- The effect can take place on the table of this name. -/
def Admits (table : String) (s : TableState) : Effect → Prop
  | .addColumn on column => on = table ∧ column ∉ s.columns
  | .createIndex name on columns => on = table ∧ name ∉ s.indexes ∧ ∀ c ∈ columns, c ∈ s.columns
  | .dropIndex name => name ∈ s.indexes
  | .createTable _ => False
  | .dropTable _ => False

instance (table : String) (s : TableState) : (effect : Effect) → Decidable (s.Admits table effect)
  | .addColumn on column => inferInstanceAs (Decidable (on = table ∧ column ∉ s.columns))
  | .createIndex name on columns =>
    inferInstanceAs (Decidable (on = table ∧ name ∉ s.indexes ∧ ∀ c ∈ columns, c ∈ s.columns))
  | .dropIndex name => inferInstanceAs (Decidable (name ∈ s.indexes))
  | .createTable _ => inferInstanceAs (Decidable False)
  | .dropTable _ => inferInstanceAs (Decidable False)

def act (s : TableState) : Effect → TableState
  | .addColumn _ column => { s with columns := s.columns ++ [column] }
  | .createIndex name _ _ => { s with indexes := s.indexes ++ [name] }
  | .dropIndex name => { s with indexes := s.indexes.erase name }
  | .createTable _ => s
  | .dropTable _ => s

/-- Comments are passed over. Any other statement has to read as an effect that the state admits. -/
def step (table : String) (s : TableState) (statement : Statement) : Option TableState :=
  if statement.isExecutable then
    statement.effect?.bind fun effect => if s.Admits table effect then some (s.act effect) else none
  else some s

def run (table : String) (s : TableState) (statements : List Statement) : Option TableState :=
  statements.foldlM (step table) s

theorem run_append (table : String) (s : TableState) (first second : List Statement) :
    s.run table (first ++ second) = (s.run table first).bind fun s => s.run table second :=
  List.foldlM_append

theorem run_cons {table : String} {s t : TableState} {statement : Statement}
    (done : s.step table statement = some t) (rest : List Statement) :
    s.run table (statement :: rest) = t.run table rest := by
  rw [run, List.foldlM_cons, done]
  rfl

theorem step_effect {table : String} {s : TableState} {statement : Statement} {effect : Effect}
    (executable : statement.isExecutable = true) (read : statement.effect? = some effect)
    (admitted : s.Admits table effect) : s.step table statement = some (s.act effect) := by
  rw [step, if_pos executable, read, Option.bind_some, if_pos admitted]

theorem step_comment (table : String) (s : TableState) {comment : Statement}
    (silent : comment.isExecutable = false) : s.step table comment = some s := by
  rw [step, silent]
  rfl

theorem run_comments (table : String) (s : TableState) {comments : List Statement}
    (silent : ∀ c ∈ comments, c.isExecutable = false) : s.run table comments = some s := by
  induction comments with
  | nil => rfl
  | cons c comments ih =>
    obtain ⟨first, rest⟩ := List.forall_mem_cons.1 silent
    rw [run_cons (step_comment table s first), ih rest]

end TableState

/-! ### Each kind of statement -/

/-- The names of the indexes that are no primary keys. -/
def secondaryNames (indexes : List Index) : List String :=
  (indexes.filter fun i => i.kind != .primary).map (·.name)

theorem mem_secondaryNames {indexes : List Index} {name : String} :
    name ∈ secondaryNames indexes ↔ ∃ i ∈ indexes, i.kind ≠ .primary ∧ i.name = name := by
  simp [secondaryNames, and_assoc]

theorem secondaryNames_cons (i : Index) (indexes : List Index) :
    secondaryNames (i :: indexes) =
      if i.kind = .primary then secondaryNames indexes else i.name :: secondaryNames indexes := by
  by_cases primary : i.kind = .primary
  · simp [secondaryNames, primary]
  · simp [secondaryNames, primary]

theorem secondaryNames_sublist (indexes : List Index) :
    (secondaryNames indexes).Sublist (indexes.map (·.name)) :=
  List.filter_sublist.map _

namespace TableState

theorem step_dropIndex (table : String) {s : TableState} {i : Index}
    (held : i.kind ≠ .primary → i.name ∈ s.indexes) :
    s.step table (Sqlite.dropIndex table i) =
      some (if i.kind = .primary then s else s.act (.dropIndex i.name)) := by
  have read := Sqlite.effect?_dropIndex table i
  by_cases primary : i.kind = .primary
  · rw [if_pos primary, step_comment]
    rw [Sqlite.dropIndex, if_pos primary]
    rfl
  · rw [if_pos primary] at read
    rw [if_neg primary, step_effect _ read (held primary)]
    rw [Sqlite.dropIndex, if_neg primary]
    rfl

theorem step_createIndex (table : String) {s : TableState} {i : Index}
    (kind : i.kind = .primary ∨ i.kind = .unique ∨ i.kind = .normal)
    (free : i.kind ≠ .primary → i.name ∉ s.indexes) (covered : ∀ c ∈ i.columns, c ∈ s.columns) :
    s.step table (Sqlite.createIndex table i) =
      some (if i.kind = .primary then s else s.act (.createIndex i.name table i.columns)) := by
  have read := Sqlite.effect?_createIndex table i
  rcases kind with primary | other
  · rw [if_pos primary, step_comment]
    rw [Sqlite.createIndex, primary]
    rfl
  · have secondary : i.kind ≠ .primary := by rcases other with kind | kind <;> simp [kind]
    rw [if_pos other] at read
    rw [if_neg secondary, step_effect _ read ⟨rfl, free secondary, covered⟩]
    rcases other with kind | kind
    · rw [Sqlite.createIndex, kind]
      rfl
    · rw [Sqlite.createIndex, kind]
      rfl

/-- Dropped indexes are found one by one, as no name is dropped twice. -/
theorem run_dropIndexes (table : String) {s : TableState} {gone : List Index}
    (apart : (gone.map (·.name)).Nodup) (held : ∀ name ∈ secondaryNames gone, name ∈ s.indexes) :
    s.run table (gone.map (Sqlite.dropIndex table)) =
      some { s with indexes := s.indexes.diff (secondaryNames gone) } := by
  induction gone generalizing s with
  | nil => rfl
  | cons i gone ih =>
    rw [List.map_cons] at apart
    obtain ⟨alone, others⟩ := List.nodup_cons.1 apart
    rw [secondaryNames_cons] at held ⊢
    by_cases primary : i.kind = .primary
    · rw [if_pos primary] at held ⊢
      have silent := step_dropIndex table (s := s) (i := i) fun no => absurd primary no
      rw [if_pos primary] at silent
      rw [List.map_cons, run_cons silent, ih others held]
    · rw [if_neg primary] at held ⊢
      obtain ⟨first, rest⟩ := List.forall_mem_cons.1 held
      have dropped := step_dropIndex table fun _ => first
      rw [if_neg primary] at dropped
      have kept : ∀ name ∈ secondaryNames gone, name ∈ s.indexes.erase i.name := by
        intro name member
        have different : name ≠ i.name := by
          rintro rfl
          exact alone ((secondaryNames_sublist gone).subset member)
        exact (List.mem_erase_of_ne different).2 (rest name member)
      rw [List.map_cons, run_cons dropped, List.diff_cons]
      exact ih others kept

theorem run_addColumns (table : String) {s : TableState} {added : List Column}
    (apart : (added.map (·.name)).Nodup) (fresh : ∀ c ∈ added, c.name ∉ s.columns) :
    s.run table (added.map (Sqlite.addColumn table)) =
      some { s with columns := s.columns ++ added.map (·.name) } := by
  induction added generalizing s with
  | nil => simp [run]
  | cons c added ih =>
    rw [List.map_cons] at apart
    obtain ⟨alone, others⟩ := List.nodup_cons.1 apart
    obtain ⟨first, rest⟩ := List.forall_mem_cons.1 fresh
    have put : s.step table (Sqlite.addColumn table c) = some (s.act (.addColumn table c.name)) :=
      step_effect rfl (Sqlite.effect?_addColumn table c) ⟨rfl, first⟩
    have free : ∀ d ∈ added, d.name ∉ (s.act (.addColumn table c.name)).columns := by
      intro d member there
      rcases List.mem_append.1 there with old | new
      · exact rest d member old
      · exact alone (List.mem_singleton.1 new ▸ List.mem_map_of_mem member)
    rw [List.map_cons, run_cons put, ih others free]
    simp [act]

theorem run_createIndexes (table : String) {s : TableState} {come : List Index}
    (apart : (come.map (·.name)).Nodup)
    (kinds : ∀ i ∈ come, i.kind = .primary ∨ i.kind = .unique ∨ i.kind = .normal)
    (free : ∀ name ∈ secondaryNames come, name ∉ s.indexes)
    (covered : ∀ i ∈ come, ∀ c ∈ i.columns, c ∈ s.columns) :
    s.run table (come.map (Sqlite.createIndex table)) =
      some { s with indexes := s.indexes ++ secondaryNames come } := by
  induction come generalizing s with
  | nil => simp [run, secondaryNames]
  | cons i come ih =>
    rw [List.map_cons] at apart
    obtain ⟨alone, others⟩ := List.nodup_cons.1 apart
    obtain ⟨kind, kinds⟩ := List.forall_mem_cons.1 kinds
    obtain ⟨here, covered⟩ := List.forall_mem_cons.1 covered
    rw [secondaryNames_cons] at free ⊢
    by_cases primary : i.kind = .primary
    · rw [if_pos primary] at free ⊢
      have silent := step_createIndex table kind (fun no => absurd primary no) here
      rw [if_pos primary] at silent
      rw [List.map_cons, run_cons silent, ih others kinds free covered]
    · rw [if_neg primary] at free ⊢
      obtain ⟨first, rest⟩ := List.forall_mem_cons.1 free
      have created := step_createIndex table kind (fun _ => first) here
      rw [if_neg primary] at created
      have unused : ∀ name ∈ secondaryNames come, name ∉ s.indexes ++ [i.name] := by
        intro name member there
        rcases List.mem_append.1 there with old | new
        · exact rest name member old
        · have same := List.mem_singleton.1 new
          exact alone (same ▸ (secondaryNames_sublist come).subset member)
      have rest := ih (s := s.act (.createIndex i.name table i.columns)) others kinds unused covered
      rw [List.map_cons, run_cons created, rest]
      simp [act]

end TableState

/-! ### Whole change sets -/

namespace Table

def state (t : Table) : TableState :=
  { columns := t.columns.map (·.name), indexes := secondaryNames t.indexes.values }

/-- SQLite knows the kinds of all indexes, and they cover columns of the table. -/
structure Indexable (t : Table) : Prop where
  kinds : ∀ i ∈ t.indexes.values, i.kind = .primary ∨ i.kind = .unique ∨ i.kind = .normal
  columns : ∀ i ∈ t.indexes.values, ∀ c ∈ i.columns, c ∈ t.columns.map (·.name)

instance (t : Table) : Decidable t.Indexable :=
  decidable_of_iff
    ((∀ i ∈ t.indexes.values, i.kind = .primary ∨ i.kind = .unique ∨ i.kind = .normal) ∧
      ∀ i ∈ t.indexes.values, ∀ c ∈ i.columns, c ∈ t.columns.map (·.name))
    ⟨fun ⟨kinds, columns⟩ => { kinds, columns }, fun ok => ⟨ok.kinds, ok.columns⟩⟩

variable {old new : Table}

theorem Keyed.mem_secondaryNames {t : Table} (keyed : t.Keyed) {name : String} :
    name ∈ secondaryNames t.indexes.values ↔
      ∃ i, t.indexes.find? name = some i ∧ i.kind ≠ .primary := by
  rw [SchemaShift.mem_secondaryNames]
  constructor
  · rintro ⟨i, member, secondary, rfl⟩
    obtain ⟨name, found⟩ := (NameMap.mem_values _).1 member
    obtain rfl := keyed.index_name found
    exact ⟨i, found, secondary⟩
  · rintro ⟨i, found, secondary⟩
    exact ⟨i, (NameMap.mem_values _).2 ⟨name, found⟩, secondary, keyed.index_name found⟩

theorem Keyed.nodup_secondaryNames {t : Table} (keyed : t.Keyed) :
    (secondaryNames t.indexes.values).Nodup := by
  have apart := keyed.nodup_picked fun _ => true
  rw [List.filter_true] at apart
  exact apart.sublist (secondaryNames_sublist _)

theorem mem_secondaryNames_deleted (ho : old.Keyed) {name : String} :
    name ∈ secondaryNames (old.changesTo new).deletedIndexes ↔
      ∃ previous, old.indexes.find? name = some previous ∧ previous.kind ≠ .primary ∧
        ∀ i, new.indexes.find? name = some i → previous.differs i = true := by
  rw [SchemaShift.mem_secondaryNames]
  constructor
  · rintro ⟨previous, listed, secondary, rfl⟩
    obtain ⟨name, found, differs⟩ := mem_deletedIndexes.1 listed
    obtain rfl := ho.index_name found
    exact ⟨previous, found, secondary, differs⟩
  · rintro ⟨previous, found, secondary, differs⟩
    exact ⟨previous, mem_deletedIndexes.2 ⟨name, found, differs⟩, secondary, ho.index_name found⟩

theorem mem_secondaryNames_added (hn : new.Keyed) {name : String} :
    name ∈ secondaryNames (old.changesTo new).addedIndexes ↔
      ∃ i, new.indexes.find? name = some i ∧ i.kind ≠ .primary ∧
        ∀ previous, old.indexes.find? name = some previous → previous.differs i = true := by
  rw [SchemaShift.mem_secondaryNames]
  constructor
  · rintro ⟨i, listed, secondary, rfl⟩
    obtain ⟨name, wanted, differs⟩ := mem_newIndexes.1 listed
    obtain rfl := hn.index_name wanted
    exact ⟨i, wanted, secondary, differs⟩
  · rintro ⟨i, wanted, secondary, differs⟩
    exact ⟨i, mem_newIndexes.2 ⟨name, wanted, differs⟩, secondary, hn.index_name wanted⟩

/-- The names that are still there once the deleted indexes are gone. -/
def keptNames (old new : Table) : List String :=
  (secondaryNames old.indexes.values).diff (secondaryNames (old.changesTo new).deletedIndexes)

/-- What is kept is met in `new` in the same form. -/
theorem mem_keptNames (ho : old.WellFormed) {name : String} :
    name ∈ old.keptNames new ↔
      ∃ previous i, old.indexes.find? name = some previous ∧ previous.kind ≠ .primary ∧
        new.indexes.find? name = some i ∧ previous.differs i = false := by
  rw [keptNames, ho.keyed.nodup_secondaryNames.mem_sdiff_iff, ho.keyed.mem_secondaryNames,
    mem_secondaryNames_deleted ho.keyed]
  constructor
  · rintro ⟨⟨previous, found, secondary⟩, undeleted⟩
    by_contra unmet
    refine undeleted ⟨previous, found, secondary, fun i wanted => ?_⟩
    by_contra alike
    exact unmet ⟨previous, i, found, secondary, wanted, by simpa using alike⟩
  · rintro ⟨previous, i, found, secondary, wanted, alike⟩
    refine ⟨⟨previous, found, secondary⟩, ?_⟩
    rintro ⟨held, same, -, differs⟩
    rw [found] at same
    cases same
    rw [differs i wanted] at alike
    cases alike

theorem keptNames_unadded (ho : old.WellFormed) (hn : new.WellFormed) {name : String}
    (added : name ∈ secondaryNames (old.changesTo new).addedIndexes) :
    name ∉ old.keptNames new := by
  rw [mem_keptNames ho]
  rintro ⟨previous, i, found, -, wanted, alike⟩
  obtain ⟨j, same, -, differs⟩ := (mem_secondaryNames_added hn.keyed).1 added
  rw [wanted] at same
  cases same
  rw [differs previous found] at alike
  cases alike

/-- The kept names and the added ones make up the names of `new`. -/
theorem keptNames_perm (ho : old.WellFormed) (hn : new.WellFormed) :
    (old.keptNames new ++ secondaryNames (old.changesTo new).addedIndexes).Perm
      (secondaryNames new.indexes.values) := by
  have kept : (old.keptNames new).Nodup := ho.keyed.nodup_secondaryNames.diff
  have added : (secondaryNames (old.changesTo new).addedIndexes).Nodup :=
    (nodup_newIndexes old hn.keyed).sublist (secondaryNames_sublist _)
  have apart : (old.keptNames new ++ secondaryNames (old.changesTo new).addedIndexes).Nodup := by
    refine List.nodup_append.2 ⟨kept, added, ?_⟩
    rintro name there other come rfl
    exact keptNames_unadded ho hn come there
  refine (List.perm_ext_iff_of_nodup apart hn.keyed.nodup_secondaryNames).2 fun name => ?_
  rw [List.mem_append, mem_keptNames ho, mem_secondaryNames_added hn.keyed,
    hn.keyed.mem_secondaryNames]
  constructor
  · rintro (⟨previous, i, -, secondary, wanted, alike⟩ | ⟨i, wanted, secondary, -⟩)
    · have kind := ((Index.differs_eq_false_iff previous i).1 alike).kind
      exact ⟨i, wanted, kind ▸ secondary⟩
    · exact ⟨i, wanted, secondary⟩
  · rintro ⟨i, wanted, secondary⟩
    by_cases met : ∃ previous, old.indexes.find? name = some previous ∧ previous.differs i = false
    · obtain ⟨previous, found, alike⟩ := met
      have kind := ((Index.differs_eq_false_iff previous i).1 alike).kind
      exact .inl ⟨previous, i, found, kind ▸ secondary, wanted, alike⟩
    · refine .inr ⟨i, wanted, secondary, fun previous found => ?_⟩
      by_contra alike
      exact met ⟨previous, found, by simpa using alike⟩

theorem newColumns_fresh {c : Column} (added : c ∈ old.newColumns new) :
    c.name ∉ old.columns.map (·.name) := by
  obtain ⟨-, absent⟩ := mem_newColumns.1 added
  intro held
  obtain ⟨d, member, same⟩ := List.mem_map.1 held
  exact find?_key_none.1 absent d member same

/-- The columns of `old`, and behind them those that are new. -/
def grownColumns (old new : Table) : List String :=
  old.columns.map (·.name) ++ (old.newColumns new).map (·.name)

/-- A column of `new` is an old one by name, or it is added. -/
theorem mem_columns_or_added {c : Column} (member : c ∈ new.columns) :
    c.name ∈ old.grownColumns new := by
  cases found : old.column? c.name with
  | none =>
    have added : c ∈ old.newColumns new := mem_newColumns.2 ⟨member, found⟩
    exact List.mem_append_right _ (List.mem_map_of_mem added)
  | some d =>
    obtain ⟨held, named⟩ := column?_some found
    exact List.mem_append_left _ (named ▸ List.mem_map_of_mem held)

theorem mem_values_of_newIndexes {i : Index} (added : i ∈ old.newIndexes new) :
    i ∈ new.indexes.values := by
  obtain ⟨name, wanted, -⟩ := mem_newIndexes.1 added
  exact (NameMap.mem_values _).2 ⟨name, wanted⟩

theorem Indexable.covered (indexable : new.Indexable) {i : Index}
    (added : i ∈ old.newIndexes new) {name : String} (member : name ∈ i.columns) :
    name ∈ old.grownColumns new := by
  have listed := mem_values_of_newIndexes added
  obtain ⟨c, there, rfl⟩ := List.mem_map.1 (indexable.columns i listed name member)
  exact mem_columns_or_added there

theorem run_drops (table : String) (ho : old.WellFormed) (new : Table) :
    old.state.run table ((old.changesTo new).deletedIndexes.map (Sqlite.dropIndex table)) =
      some { columns := old.columns.map (·.name), indexes := old.keptNames new } := by
  refine TableState.run_dropIndexes table (nodup_deletedIndexes ho.keyed new) fun name listed => ?_
  obtain ⟨previous, found, secondary, -⟩ := (mem_secondaryNames_deleted ho.keyed).1 listed
  exact ho.keyed.mem_secondaryNames.2 ⟨previous, found, secondary⟩

theorem run_adds (table : String) (old : Table) (hn : new.WellFormed) (indexes : List String) :
    TableState.run table { columns := old.columns.map (·.name), indexes }
        ((old.changesTo new).addedColumns.map (Sqlite.addColumn table)) =
      some { columns := old.grownColumns new, indexes } :=
  TableState.run_addColumns table (nodup_newColumns old hn.columns) fun _ added =>
    newColumns_fresh added

theorem run_creates (table : String) (ho : old.WellFormed) (hn : new.WellFormed)
    (indexable : new.Indexable) :
    TableState.run table { columns := old.grownColumns new, indexes := old.keptNames new }
        ((old.changesTo new).addedIndexes.map (Sqlite.createIndex table)) =
      some
        { columns := old.grownColumns new
          indexes := old.keptNames new ++ secondaryNames (old.changesTo new).addedIndexes } :=
  TableState.run_createIndexes table (nodup_newIndexes old hn.keyed)
    (fun i added => indexable.kinds i (mem_values_of_newIndexes added))
    (fun _ added => keptNames_unadded ho hn added)
    (fun _ added _ member => indexable.covered added member)

end Table

namespace Sqlite

/-- The statements for a changed table can be carried out in their order, starting from the old
table: each dropped index is there, each added column is new, and each created index has a free
name and columns that are there. At the end the added columns follow the old ones, and the
indexes are those of the new table. -/
theorem alterTable_applies (table : String) {old new : Table} (ho : old.WellFormed)
    (hn : new.WellFormed) (indexable : new.Indexable) :
    ∃ final, old.state.run table (alterTable table (old.changesTo new)) = some final ∧
      final.columns = (old.columns ++ (old.changesTo new).addedColumns).map (·.name) ∧
      final.indexes.Perm new.state.indexes := by
  have forms : ∀ c ∈ (old.changesTo new).changedColumns.map (modifyColumn table),
      c.isExecutable = false :=
    List.forall_mem_map.2 fun _ _ => rfl
  have options : ∀ c ∈ (if (old.changesTo new).options.isSome then [Statement.unsupported
      (some table) ("SQLite has no table options, skipped options of " ++ table)] else []),
      c.isExecutable = false := by
    split
    · exact List.forall_mem_singleton.2 rfl
    · simp
  have drops := Table.run_drops table ho new
  have adds := Table.run_adds table old hn (old.keptNames new)
  have creates := Table.run_creates table ho hn indexable
  refine ⟨⟨old.grownColumns new, _⟩, ?_, List.map_append.symm, Table.keptNames_perm ho hn⟩
  rw [alterTable]
  simp only [TableState.run_append, drops, adds, creates, TableState.run_comments table _ forms,
    TableState.run_comments table _ options, Option.bind_some]

/-- A table of users with a primary key and the other indexes. -/
def usersTable (columns : List String) (indexes : List Index) : Table :=
  (Index.ofMember (.ofColumn "PRIMARY" "users" "id" 1 false) :: indexes).foldl Table.addIndex
    (columns.foldl (fun t name => t.addColumn (.ofType name "text")) (Table.named "users"))

def plainUsers : Table :=
  usersTable ["id", "mail"]
    [.ofMember (.ofColumn "by_mail" "users" "mail" 1 true),
      .ofMember (.ofColumn "by_id" "users" "id" 1 true)]

/-- The index by mail is unique now and covers a new column, and there is one by team. -/
def teamUsers : Table :=
  { usersTable ["id", "mail", "team"]
      [.ofMember (.ofColumn "by_team" "users" "team" 1 true),
        { name := "by_mail"
          kind := .unique
          members := [.ofColumn "by_mail" "users" "mail" 1 false,
            .ofColumn "by_mail" "users" "team" 2 false] }] with
    comment := "people" }

theorem teamUsers_applies :
    plainUsers.WellFormed ∧ teamUsers.WellFormed ∧ teamUsers.Indexable ∧
      (alterTable "users" (plainUsers.changesTo teamUsers)).map (·.kind) =
        [.dropIndex, .dropIndex, .alterTable, .createIndex, .createIndex, .unsupported] ∧
      ∃ final, plainUsers.state.run "users" (alterTable "users" (plainUsers.changesTo teamUsers)) =
          some final ∧
        final.columns = ["id", "mail", "team"] ∧ final.indexes.Perm ["by_mail", "by_team"] := by
  have plain : plainUsers.WellFormed := by decide +kernel
  have team : teamUsers.WellFormed := by decide +kernel
  have indexable : teamUsers.Indexable := by decide +kernel
  exact ⟨plain, team, indexable, by decide +kernel, alterTable_applies "users" plain team indexable⟩

end Sqlite

end SchemaShift
