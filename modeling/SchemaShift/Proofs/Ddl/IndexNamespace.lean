import SchemaShift.Ddl.Dialect
import SchemaShift.Proofs.Ddl.Alteration

/-!
# One namespace of indexes

SQLite keeps the indexes of all tables under one set of names. A diff goes from table to table, so
a name can pass to a table from one that stands before it, but not from one that stands behind it:
there the index is still to be dropped when the other one is created. `indexNames_free_iff` says
for which snapshots every index that is created finds its name free.
-/

namespace SchemaShift

/-! ### Statements about whole tables -/

namespace Sqlite

theorem effect?_createTable (t : Table) :
    Statement.effect? { kind := .createTable, table := some t.name, sql := createTableText t } =
      some (.createTable t.name) := by
  obtain ⟨rest, text⟩ : ∃ rest, (createTableText t).toList = "CREATE TABLE ".toList ++
      ((quoteIdentifier t.name).toList ++ (" (".toList ++ rest)) := by
    unfold createTableText
    simp only [String.toList_append, List.append_assoc]
    exact ⟨_, rfl⟩
  show Effect.readCreateTable _ = _
  rw [text, Effect.readCreateTable]
  simp only [Effect.skip_append, Option.bind_eq_bind, Option.bind_some]
  rw [Effect.readName_quoted t.name (by simp)]
  simp only [Effect.skip_append, Option.bind_some]

theorem effect?_dropTable (t : Table) : ∃ s, Dialect.sqlite.emit (.dropTable t) = [s] ∧
    s.effect? = some (.dropTable t.name) := by
  have read := @Effect.readName_quoted t.name [] (by simp)
  rw [List.append_nil] at read
  refine ⟨_, rfl, ?_⟩
  show Effect.readNaming "DROP TABLE " .dropTable
    ("DROP TABLE " ++ quoteIdentifier t.name).toList = _
  simp only [String.toList_append, Effect.readNaming, Effect.skip_append, Option.bind_eq_bind,
    Option.bind_some, read]
  rfl

end Sqlite

/-! ### The holders of names -/

/-- The table that holds the index of a name, if there is one. -/
abbrev Holders := String → Option String

def Effect.createdIndex? : Effect → Option String
  | .createIndex name _ _ => some name
  | _ => none

def Statement.createdIndex? (s : Statement) : Option String :=
  s.effect?.bind Effect.createdIndex?

namespace Holders

/-- A dropped table takes its indexes along. -/
def act (held : Holders) : Effect → Holders
  | .createTable _ => held
  | .dropTable table => fun name => if held name = some table then none else held name
  | .addColumn _ _ => held
  | .createIndex created table _ => fun name => if name = created then some table else held name
  | .dropIndex dropped => fun name => if name = dropped then none else held name

def step (held : Holders) (s : Statement) : Holders :=
  match s.effect? with
  | some effect => held.act effect
  | none => held

def after (held : Holders) (statements : List Statement) : Holders :=
  statements.foldl step held

/-- Each index that one of the statements creates finds its name free when its turn has come. -/
def Free (held : Holders) : List Statement → Prop
  | [] => True
  | s :: rest => (∀ name ∈ s.createdIndex?, held name = none) ∧ Free (held.step s) rest

instance decidableFree (held : Holders) : (statements : List Statement) →
    Decidable (held.Free statements)
  | [] => inferInstanceAs (Decidable True)
  | s :: rest =>
    have := decidableFree (held.step s) rest
    inferInstanceAs (Decidable ((∀ name ∈ s.createdIndex?, held name = none) ∧ _))

theorem after_append (held : Holders) (first second : List Statement) :
    held.after (first ++ second) = (held.after first).after second :=
  List.foldl_append

theorem after_cons (held : Holders) (s : Statement) (rest : List Statement) :
    held.after (s :: rest) = (held.step s).after rest :=
  rfl

theorem free_append (held : Holders) (first second : List Statement) :
    held.Free (first ++ second) ↔ held.Free first ∧ (held.after first).Free second := by
  induction first generalizing held with
  | nil => simp [Free, after]
  | cons s first ih => rw [List.cons_append, Free, Free, ih, after_cons, and_assoc]

/-- The statement neither takes a name nor gives one back. -/
def Silent (s : Statement) : Prop :=
  s.createdIndex? = none ∧ ∀ held : Holders, held.step s = held

theorem after_silent (held : Holders) {statements : List Statement}
    (silent : ∀ s ∈ statements, Silent s) : held.after statements = held := by
  induction statements with
  | nil => rfl
  | cons s statements ih =>
    obtain ⟨first, rest⟩ := List.forall_mem_cons.1 silent
    rw [after_cons, first.2, ih rest]

theorem free_silent (held : Holders) {statements : List Statement}
    (silent : ∀ s ∈ statements, Silent s) : held.Free statements := by
  induction statements with
  | nil => trivial
  | cons s statements ih =>
    obtain ⟨first, rest⟩ := List.forall_mem_cons.1 silent
    rw [Free, first.1, first.2]
    exact ⟨by simp, ih rest⟩

theorem silent_of_none {s : Statement} (unread : s.effect? = none) : Silent s := by
  refine ⟨?_, fun held => ?_⟩
  · rw [Statement.createdIndex?, unread]
    rfl
  · rw [step, unread]

end Holders

/-- The names of the indexes that SQLite is told to create. -/
def creatableNames (indexes : List Index) : List String :=
  (indexes.filter fun i => i.kind == .unique || i.kind == .normal).map (·.name)

theorem mem_creatableNames {indexes : List Index} {name : String} :
    name ∈ creatableNames indexes ↔
      ∃ i ∈ indexes, (i.kind = .unique ∨ i.kind = .normal) ∧ i.name = name := by
  simp [creatableNames, and_assoc]

theorem creatableNames_cons (i : Index) (indexes : List Index) :
    creatableNames (i :: indexes) =
      if i.kind = .unique ∨ i.kind = .normal then i.name :: creatableNames indexes
      else creatableNames indexes := by
  by_cases creatable : i.kind = .unique ∨ i.kind = .normal
  · simp [creatableNames, creatable]
  · simp [creatableNames, creatable]

/-! ### What the statements of a change do to the names -/

namespace Holders

variable (held : Holders)

theorem step_dropIndex (table : String) (i : Index) :
    held.step (Sqlite.dropIndex table i) =
      fun name => if i.kind ≠ .primary ∧ name = i.name then none else held name := by
  have read := Sqlite.effect?_dropIndex table i
  by_cases primary : i.kind = .primary
  · rw [if_neg (by simpa using primary)] at read
    rw [(silent_of_none read).2]
    simp [primary]
  · rw [if_pos primary] at read
    simp only [step, read, act, primary, ne_eq, not_false_eq_true, true_and]

theorem createdIndex?_dropIndex (table : String) (i : Index) :
    (Sqlite.dropIndex table i).createdIndex? = none := by
  rw [Statement.createdIndex?, Sqlite.effect?_dropIndex]
  split
  · rfl
  · rfl

theorem after_dropIndexes (table : String) (gone : List Index) :
    held.after (gone.map (Sqlite.dropIndex table)) =
      fun name => if name ∈ secondaryNames gone then none else held name := by
  induction gone generalizing held with
  | nil => rfl
  | cons i gone ih =>
    rw [List.map_cons, after_cons, ih, step_dropIndex, secondaryNames_cons]
    funext name
    by_cases primary : i.kind = .primary
    · simp [primary]
    · by_cases here : name = i.name
      · simp [primary, here]
      · simp [primary, here]

theorem free_dropIndexes (table : String) (gone : List Index) :
    held.Free (gone.map (Sqlite.dropIndex table)) := by
  induction gone generalizing held with
  | nil => trivial
  | cons i gone ih =>
    rw [List.map_cons, Free, createdIndex?_dropIndex]
    exact ⟨by simp, ih _⟩

theorem createdIndex?_createIndex (table : String) (i : Index) :
    (Sqlite.createIndex table i).createdIndex? =
      if i.kind = .unique ∨ i.kind = .normal then some i.name else none := by
  rw [Statement.createdIndex?, Sqlite.effect?_createIndex]
  split
  · rfl
  · rfl

theorem step_createIndex (table : String) (i : Index) :
    held.step (Sqlite.createIndex table i) = fun name =>
      if (i.kind = .unique ∨ i.kind = .normal) ∧ name = i.name then some table else held name := by
  have read := Sqlite.effect?_createIndex table i
  by_cases creatable : i.kind = .unique ∨ i.kind = .normal
  · rw [if_pos creatable] at read
    simp only [step, read, act, creatable, true_and]
  · rw [if_neg creatable] at read
    rw [(silent_of_none read).2]
    simp [creatable]

theorem after_createIndexes (table : String) (come : List Index) :
    held.after (come.map (Sqlite.createIndex table)) =
      fun name => if name ∈ creatableNames come then some table else held name := by
  induction come generalizing held with
  | nil => rfl
  | cons i come ih =>
    rw [List.map_cons, after_cons, ih, step_createIndex, creatableNames_cons]
    funext name
    by_cases creatable : i.kind = .unique ∨ i.kind = .normal
    · by_cases here : name = i.name
      · simp [creatable, here]
      · simp [creatable, here]
    · simp [creatable]

/-- Indexes of different names do not get in each other's way. -/
theorem free_createIndexes (table : String) {come : List Index}
    (apart : (come.map (·.name)).Nodup) :
    held.Free (come.map (Sqlite.createIndex table)) ↔
      ∀ name ∈ creatableNames come, held name = none := by
  induction come generalizing held with
  | nil => simp [Free, creatableNames]
  | cons i come ih =>
    rw [List.map_cons] at apart
    obtain ⟨alone, others⟩ := List.nodup_cons.1 apart
    have elsewhere : ∀ name ∈ creatableNames come, name ≠ i.name := by
      rintro name member rfl
      obtain ⟨j, there, -, same⟩ := mem_creatableNames.1 member
      exact alone (same ▸ List.mem_map_of_mem there)
    have undisturbed : (∀ name ∈ creatableNames come,
        held.step (Sqlite.createIndex table i) name = none) ↔
          ∀ name ∈ creatableNames come, held name = none := by
      refine forall₂_congr fun name member => ?_
      simp [step_createIndex, elsewhere name member]
    rw [List.map_cons, Free, ih _ others, undisturbed, createdIndex?_createIndex,
      creatableNames_cons]
    by_cases creatable : i.kind = .unique ∨ i.kind = .normal
    · simp [creatable]
    · simp [creatable]

theorem silent_addColumn (table : String) (c : Column) : Silent (Sqlite.addColumn table c) := by
  have read := Sqlite.effect?_addColumn table c
  refine ⟨?_, fun held => ?_⟩
  · rw [Statement.createdIndex?, read]
    rfl
  · rw [step, read]
    rfl

/-- Deleted indexes give their names back before added ones take theirs. -/
theorem alterTable_eq (table : String) (changes : ChangeSet) : ∃ columns options,
    Sqlite.alterTable table changes = changes.deletedIndexes.map (Sqlite.dropIndex table) ++
      (columns ++ (changes.addedIndexes.map (Sqlite.createIndex table) ++ options)) ∧
      (∀ s ∈ columns, Silent s) ∧ ∀ s ∈ options, Silent s := by
  have added : ∀ s ∈ changes.addedColumns.map (Sqlite.addColumn table), Silent s :=
    List.forall_mem_map.2 fun c _ => silent_addColumn table c
  have forms : ∀ s ∈ changes.changedColumns.map (Sqlite.modifyColumn table), Silent s :=
    List.forall_mem_map.2 fun _ _ => silent_of_none rfl
  have options : ∀ s ∈ (if changes.options.isSome then [Statement.unsupported (some table)
      ("SQLite has no table options, skipped options of " ++ table)] else []), Silent s := by
    split
    · exact List.forall_mem_singleton.2 (silent_of_none rfl)
    · simp
  refine ⟨_, _, ?_, List.forall_mem_append.2 ⟨added, forms⟩, options⟩
  simp only [Sqlite.alterTable, List.append_assoc]

theorem after_alterTable (table : String) (changes : ChangeSet) :
    held.after (Sqlite.alterTable table changes) = fun name =>
      if name ∈ creatableNames changes.addedIndexes then some table
      else if name ∈ secondaryNames changes.deletedIndexes then none else held name := by
  obtain ⟨columns, options, same, between, behind⟩ := alterTable_eq table changes
  rw [same, after_append, after_append, after_append, after_dropIndexes, after_silent _ between,
    after_createIndexes, after_silent _ behind]

theorem free_alterTable (table : String) {changes : ChangeSet}
    (apart : (changes.addedIndexes.map (·.name)).Nodup) :
    held.Free (Sqlite.alterTable table changes) ↔
      ∀ name ∈ creatableNames changes.addedIndexes,
        name ∈ secondaryNames changes.deletedIndexes ∨ held name = none := by
  obtain ⟨columns, options, same, between, behind⟩ := alterTable_eq table changes
  rw [same, free_append, free_append, free_append, and_iff_right (free_dropIndexes held table _),
    and_iff_right (free_silent _ between), and_iff_left (free_silent _ behind),
    after_silent _ between, free_createIndexes _ table apart, after_dropIndexes]
  refine forall₂_congr fun name _ => ?_
  by_cases deleted : name ∈ secondaryNames changes.deletedIndexes
  · simp [deleted]
  · simp [deleted]

theorem silent_createTable (t : Table) :
    Silent { kind := .createTable, table := some t.name, sql := Sqlite.createTableText t } := by
  have read := Sqlite.effect?_createTable t
  refine ⟨?_, fun held => ?_⟩
  · rw [Statement.createdIndex?, read]
    rfl
  · rw [step, read]
    rfl

theorem creatableNames_secondary (indexes : List Index) :
    creatableNames (indexes.filter fun i => i.kind != .primary) = creatableNames indexes := by
  rw [creatableNames, creatableNames, List.filter_filter]
  refine congrArg (List.map _) (List.filter_congr fun i _ => ?_)
  cases i.kind <;> rfl

theorem after_createTable (t : Table) :
    held.after (Dialect.sqlite.emit (.createTable t)) = fun name =>
      if name ∈ creatableNames t.indexes.values then some t.name else held name := by
  show held.after (Sqlite.createTable t) = _
  rw [Sqlite.createTable, after_cons, (silent_createTable t).2, after_createIndexes,
    creatableNames_secondary]

theorem free_createTable {t : Table} (keyed : t.Keyed) :
    held.Free (Dialect.sqlite.emit (.createTable t)) ↔
      ∀ name ∈ creatableNames t.indexes.values, held name = none := by
  show held.Free (Sqlite.createTable t) ↔ _
  have apart : ((t.indexes.values.filter fun i => i.kind != .primary).map (·.name)).Nodup :=
    keyed.nodup_secondaryNames
  rw [Sqlite.createTable, Free, (silent_createTable t).1, (silent_createTable t).2,
    free_createIndexes _ t.name apart, creatableNames_secondary]
  simp

theorem after_dropTable (t : Table) :
    held.after (Dialect.sqlite.emit (.dropTable t)) =
      fun name => if held name = some t.name then none else held name := by
  obtain ⟨s, emitted, read⟩ := Sqlite.effect?_dropTable t
  rw [emitted, after_cons, step, read]
  rfl

theorem free_dropTable (t : Table) : held.Free (Dialect.sqlite.emit (.dropTable t)) := by
  obtain ⟨s, emitted, read⟩ := Sqlite.effect?_dropTable t
  rw [emitted, Free, Statement.createdIndex?, read]
  exact ⟨by simp [Effect.createdIndex?], trivial⟩

end Holders

end SchemaShift
