import SchemaShift.Catalog.Driver
import SchemaShift.Proofs.Ddl.Emission
import SchemaShift.Proofs.Ddl.Reading
import SchemaShift.Proofs.Schema.IndexGroup

/-!
# The engine's own indexes in a diff

A table with a unique constraint has an index that the engine made and named, and the catalog
lists it with the others. No statement can create or drop it by that name. So a diff of two
databases can be carried out only as far as the tables agree in these indexes, and
`reserved_unnamed_iff` says which tables have to.
-/

namespace SchemaShift

open Text Store

/-! ### The index that a statement is about -/

/-- The name in double quotes behind `opening`. -/
def nameBehind? (sql opening : String) : Option String :=
  if startsWith sql opening then
    (readQuoted '"' (sql.toList.drop opening.length)).map fun (name, _) => String.ofList name
  else none

/-- The index that a statement creates or drops, read from its text. -/
def Statement.indexName? (s : Statement) : Option String :=
  match s.kind with
  | .createIndex => nameBehind? s.sql "CREATE INDEX " <|> nameBehind? s.sql "CREATE UNIQUE INDEX "
  | .dropIndex => nameBehind? s.sql "DROP INDEX "
  | _ => none

theorem startsWith_append (opening rest : String) :
    startsWith (opening ++ rest) opening = true := by
  simp [startsWith]

theorem nameBehind?_quoted (opening name rest : String)
    (ends : rest.toList.head? ≠ some '"') :
    nameBehind? (opening ++ (Sqlite.quoteIdentifier name ++ rest)) opening = some name := by
  have behind : (opening ++ (Sqlite.quoteIdentifier name ++ rest)).toList.drop opening.length =
      (quote '"' name).toList ++ rest.toList := by
    rw [String.toList_append, ← String.length_toList, List.drop_left, String.toList_append]
    rfl
  rw [nameBehind?, startsWith_append, if_pos rfl, behind,
    (readQuoted_quote '"' name rest.toList).2 ends]
  simp

namespace Sqlite

theorem indexName?_dropIndex (table : String) (i : Index) :
    (dropIndex table i).indexName? = if i.kind ≠ .primary then some i.name else none := by
  unfold dropIndex
  by_cases primary : i.kind = .primary
  · simp [primary, Statement.unsupported, Statement.indexName?]
  · have read := nameBehind?_quoted "DROP INDEX " i.name "" (by simp)
    rw [String.append_empty] at read
    rw [if_neg primary, if_pos primary, ← read]
    rfl

theorem indexName?_createIndex (table : String) (i : Index) :
    (createIndex table i).indexName? =
      if i.kind = .unique ∨ i.kind = .normal then some i.name else none := by
  have read (opening : String) := nameBehind?_quoted opening i.name
    (" ON " ++ quoteIdentifier table ++ " " ++ columnList i.columns) (by simp)
  unfold createIndex Statement.indexName?
  cases i.kind with
  | unique =>
    -- The shorter opening is looked for first, and it is not there.
    have joined : "CREATE " ++ "UNIQUE " ++ "INDEX " = "CREATE UNIQUE INDEX " := by decide
    have other (rest : String) : nameBehind? ("CREATE UNIQUE INDEX " ++ rest) "CREATE INDEX " =
        none := by
      simp [nameBehind?, startsWith, List.isPrefixOf]
    dsimp only
    rw [createIndexText_eq joined, other, read]
    rfl
  | normal =>
    have joined : "CREATE " ++ "" ++ "INDEX " = "CREATE INDEX " := by decide
    dsimp only
    rw [createIndexText_eq joined, read]
    rfl
  | primary => rfl
  | fulltext => rfl
  | spatial => rfl

end Sqlite

/-! ### Indexes of the catalog -/

namespace Catalog.Sqlite

theorem method_indexes (t : CatalogTable) :
    ∀ r ∈ keyRows t ++ (secondaryIndexes t).flatMap (indexRows t.name), r.method = "BTREE" := by
  intro r member
  rcases List.mem_append.1 member with key | secondary
  · obtain ⟨c, -, rfl⟩ := List.mem_map.1 key
    rfl
  · obtain ⟨i, -, member⟩ := List.mem_flatMap.1 secondary
    obtain ⟨⟨name, place⟩, -, rfl⟩ := List.mem_map.1 member
    rfl

theorem not_primary_of_reserved {name : String} (reserved : isReservedName name = true) :
    sameLetters name primaryIndexName = false := by
  rw [← Bool.not_eq_true]
  intro same
  have letters := congrArg String.toList (beq_iff_eq.1 same)
  rw [toList_lower, toList_lower] at letters
  rw [isReservedName, letters] at reserved
  revert reserved
  decide

/-- An index that introspection found under a name is of that name. If the name is reserved, it
is an index that SQLite can express. -/
theorem find?_indexes {t : CatalogTable} {name : String} {i : Index}
    (found : (indexes t).find? name = some i) :
    i.name = name ∧ (isReservedName i.name = true → i.kind = .unique ∨ i.kind = .normal) := by
  rw [indexes, Index.find?_group] at found
  obtain ⟨named, first, member, called, kind⟩ := Index.ofRows?_some found
  refine ⟨named, fun reserved => ?_⟩
  rw [named] at reserved
  have method := method_indexes t first member
  have secondary := not_primary_of_reserved reserved
  have plain : first.kind = if first.nonUnique then .normal else .unique := by
    rw [IndexMember.kind, called, secondary, method]
    rfl
  rw [kind, plain]
  cases first.nonUnique with
  | true => exact .inr rfl
  | false => exact .inl rfl

theorem mem_tables {s : Store} {schema : String} {found : List Table}
    (read : tables s schema = .ok found) {t : Table} (member : t ∈ found) : ∃ c, t = table c := by
  unfold tables at read
  cases listed : schemaTables s schema with
  | error e =>
    rw [listed] at read
    cases read
  | ok entries =>
    rw [listed] at read
    cases read
    obtain ⟨c, -, rfl⟩ := List.mem_map.1 member
    exact ⟨c, rfl⟩

end Catalog.Sqlite

theorem Driver.snapshot_tables {d : Driver} {s : Store} {schema : String} {found : Snapshot}
    (read : d.snapshot s schema = .ok found) : d.tables s schema = .ok found.tables := by
  unfold snapshot at read
  cases options : d.options s schema with
  | error e =>
    rw [options] at read
    cases read
  | ok known =>
    cases listed : d.tables s schema with
    | error e =>
      rw [options, listed] at read
      cases read
    | ok tables =>
      rw [options, listed] at read
      cases read
      rfl

/-- The indexes stand under their own names, and those with reserved names are of kinds that SQLite
can express. -/
structure Table.EngineIndexed (t : Table) : Prop where
  named : ∀ name i, t.indexes.find? name = some i → i.name = name
  expressible : ∀ name i, t.indexes.find? name = some i → isReservedName i.name = true →
    i.kind = .unique ∨ i.kind = .normal

theorem Snapshot.engineIndexed {s : Store} {schema : String} {found : Snapshot}
    (read : Driver.sqlite.snapshot s schema = .ok found) :
    ∀ t ∈ found.tables, t.EngineIndexed := by
  intro t member
  obtain ⟨c, rfl⟩ := Catalog.Sqlite.mem_tables (Driver.snapshot_tables read) member
  exact ⟨fun name i found => (Catalog.Sqlite.find?_indexes found).1,
    fun name i found => (Catalog.Sqlite.find?_indexes found).2⟩

/-! ### Statements and reserved names -/

/-- No statement creates or drops an index with a reserved name. -/
def Unreserved (statements : List Statement) : Prop :=
  ∀ s ∈ statements, ∀ name, s.indexName? = some name → isReservedName name = false

theorem unreserved_append {first second : List Statement} :
    Unreserved (first ++ second) ↔ Unreserved first ∧ Unreserved second :=
  List.forall_mem_append

theorem unreserved_map {α : Type} {f : α → Statement} {l : List α} :
    Unreserved (l.map f) ↔
      ∀ a ∈ l, ∀ name, (f a).indexName? = some name → isReservedName name = false :=
  List.forall_mem_map

theorem unreserved_of_none {statements : List Statement}
    (none : ∀ s ∈ statements, s.indexName? = none) : Unreserved statements := by
  intro s member name named
  rw [none s member] at named
  cases named

theorem unreserved_of_all {statements : List Statement}
    (free : ((statements.filterMap (·.indexName?)).all fun name => !isReservedName name) = true) :
    Unreserved statements := by
  intro s member name named
  have listed : name ∈ statements.filterMap (·.indexName?) :=
    List.mem_filterMap.2 ⟨s, member, named⟩
  simpa using List.all_eq_true.1 free name listed

namespace Table

/-- The two tables have the same indexes with reserved names. -/
def SameReserved (old new : Table) : Prop :=
  ∀ name, isReservedName name = true →
    Option.Rel (fun previous i => previous.differs i = false) (old.indexes.find? name)
      (new.indexes.find? name)

section Reserved

variable {old new : Table} {name : String}

theorem SameReserved.kept (same : old.SameReserved new) (reserved : isReservedName name = true)
    {previous : Index} (found : old.indexes.find? name = some previous) :
    ∃ i, new.indexes.find? name = some i ∧ previous.differs i = false := by
  have kept := same name reserved
  rw [found] at kept
  cases wanted : new.indexes.find? name with
  | none =>
    rw [wanted] at kept
    cases kept
  | some i =>
    rw [wanted] at kept
    cases kept with
    | some alike => exact ⟨i, rfl, alike⟩

theorem SameReserved.undeleted (same : old.SameReserved new) (before : old.EngineIndexed) :
    ∀ i ∈ (old.changesTo new).deletedIndexes, isReservedName i.name = false := by
  intro previous deleted
  obtain ⟨name, found, differs⟩ := mem_deletedIndexes.1 deleted
  rw [before.named name previous found, ← Bool.not_eq_true]
  intro reserved
  obtain ⟨i, wanted, alike⟩ := same.kept reserved found
  rw [differs i wanted] at alike
  cases alike

theorem SameReserved.unadded (same : old.SameReserved new) (after : new.EngineIndexed) :
    ∀ i ∈ (old.changesTo new).addedIndexes, isReservedName i.name = false := by
  intro i added
  obtain ⟨name, wanted, differs⟩ := mem_newIndexes.1 added
  rw [after.named name i wanted, ← Bool.not_eq_true]
  intro reserved
  cases found : old.indexes.find? name with
  | none =>
    have kept := same name reserved
    rw [found, wanted] at kept
    cases kept
  | some previous =>
    obtain ⟨j, there, alike⟩ := same.kept reserved found
    rw [wanted] at there
    cases there
    rw [differs previous found] at alike
    cases alike

theorem exists_of_undeleted (before : old.EngineIndexed)
    (free : ∀ i ∈ (old.changesTo new).deletedIndexes, isReservedName i.name = false)
    (reserved : isReservedName name = true) {previous : Index}
    (found : old.indexes.find? name = some previous) : ∃ i, new.indexes.find? name = some i := by
  by_contra missing
  have deleted : previous ∈ (old.changesTo new).deletedIndexes :=
    mem_deletedIndexes.2 ⟨name, found, fun i wanted => absurd ⟨i, wanted⟩ missing⟩
  have unreserved := free previous deleted
  rw [before.named name previous found, reserved] at unreserved
  cases unreserved

theorem alike_of_unadded (after : new.EngineIndexed)
    (free : ∀ i ∈ (old.changesTo new).addedIndexes, isReservedName i.name = false)
    (reserved : isReservedName name = true) {i : Index}
    (wanted : new.indexes.find? name = some i) :
    ∃ previous, old.indexes.find? name = some previous ∧ previous.differs i = false := by
  by_contra missing
  have added : i ∈ (old.changesTo new).addedIndexes := by
    refine mem_newIndexes.2 ⟨name, wanted, fun previous found => ?_⟩
    by_contra alike
    exact missing ⟨previous, found, Bool.eq_false_iff.2 alike⟩
  have unreserved := free i added
  rw [after.named name i wanted, reserved] at unreserved
  cases unreserved

theorem sameReserved_of_unreserved (before : old.EngineIndexed) (after : new.EngineIndexed)
    (undeleted : ∀ i ∈ (old.changesTo new).deletedIndexes, isReservedName i.name = false)
    (unadded : ∀ i ∈ (old.changesTo new).addedIndexes, isReservedName i.name = false) :
    old.SameReserved new := by
  intro name reserved
  cases found : old.indexes.find? name with
  | none =>
    cases wanted : new.indexes.find? name with
    | none => exact .none
    | some i =>
      obtain ⟨previous, held, -⟩ := alike_of_unadded after unadded reserved wanted
      rw [found] at held
      cases held
  | some previous =>
    obtain ⟨i, wanted⟩ := exists_of_undeleted before undeleted reserved found
    obtain ⟨other, held, alike⟩ := alike_of_unadded after unadded reserved wanted
    rw [found] at held
    cases held
    rw [wanted]
    exact .some alike

theorem sameReserved_iff (before : old.EngineIndexed) (after : new.EngineIndexed) :
    old.SameReserved new ↔
      (∀ i ∈ (old.changesTo new).deletedIndexes, isReservedName i.name = false) ∧
        ∀ i ∈ (old.changesTo new).addedIndexes, isReservedName i.name = false := by
  constructor
  · intro same
    exact ⟨same.undeleted before, same.unadded after⟩
  · rintro ⟨undeleted, unadded⟩
    exact sameReserved_of_unreserved before after undeleted unadded

end Reserved

theorem sameReserved_of_unchanged {old new : Table} (unchanged : old.changed new = false) :
    old.SameReserved new := by
  obtain ⟨-, kept, others, -⟩ := (changed_eq_false_iff old new).1 unchanged
  intro name _
  cases wanted : new.indexes.find? name with
  | none =>
    rw [others name wanted]
    exact .none
  | some i =>
    obtain ⟨previous, found, alike⟩ := kept name i wanted
    rw [found]
    exact .some alike

end Table

/-! ### What each change creates and drops -/

namespace Sqlite

theorem forall_called_iff {p : Prop} [Decidable p] {called : String}
    (expressed : isReservedName called = true → p) :
    (∀ name, (if p then some called else none) = some name → isReservedName name = false) ↔
      isReservedName called = false := by
  constructor
  · intro free
    by_contra reserved
    have named := expressed (by simpa using reserved)
    exact reserved (free called (if_pos named))
  · intro free name named
    split at named
    · cases named
      exact free
    · cases named

theorem unreserved_dropIndex {t : Table} (indexed : t.EngineIndexed) (table : String)
    (dropped : List Index) (held : ∀ i ∈ dropped, ∃ name, t.indexes.find? name = some i) :
    Unreserved (dropped.map (dropIndex table)) ↔ ∀ i ∈ dropped, isReservedName i.name = false := by
  refine unreserved_map.trans (forall₂_congr fun i member => ?_)
  obtain ⟨name, found⟩ := held i member
  rw [indexName?_dropIndex]
  refine forall_called_iff fun reserved => ?_
  rcases indexed.expressible name i found reserved with kind | kind <;> simp [kind]

theorem unreserved_createIndex {t : Table} (indexed : t.EngineIndexed) (table : String)
    (created : List Index) (held : ∀ i ∈ created, ∃ name, t.indexes.find? name = some i) :
    Unreserved (created.map (createIndex table)) ↔
      ∀ i ∈ created, isReservedName i.name = false := by
  refine unreserved_map.trans (forall₂_congr fun i member => ?_)
  obtain ⟨name, found⟩ := held i member
  rw [indexName?_createIndex]
  exact forall_called_iff (indexed.expressible name i found)

theorem unreserved_alterTable (table : String) {old new : Table} (before : old.EngineIndexed)
    (after : new.EngineIndexed) :
    Unreserved (alterTable table (old.changesTo new)) ↔ old.SameReserved new := by
  have dropped := unreserved_dropIndex before table (old.changesTo new).deletedIndexes
    fun i deleted => (Table.mem_deletedIndexes.1 deleted).imp fun _ listed => listed.1
  have created := unreserved_createIndex after table (old.changesTo new).addedIndexes
    fun i added => (Table.mem_newIndexes.1 added).imp fun _ listed => listed.1
  have columns : Unreserved ((old.changesTo new).addedColumns.map (addColumn table)) :=
    unreserved_of_none (List.forall_mem_map.2 fun _ _ => rfl)
  have forms : Unreserved ((old.changesTo new).changedColumns.map (modifyColumn table)) :=
    unreserved_of_none (List.forall_mem_map.2 fun _ _ => rfl)
  have options : Unreserved (if (old.changesTo new).options.isSome then
      [.unsupported (some table) ("SQLite has no table options, skipped options of " ++ table)]
      else []) := by
    split
    · exact unreserved_of_none (List.forall_mem_singleton.2 rfl)
    · exact unreserved_of_none (by simp)
  rw [alterTable, unreserved_append, unreserved_append, unreserved_append, unreserved_append,
    and_iff_left options, and_iff_left forms, and_iff_left columns, dropped, created,
    Table.sameReserved_iff before after]

theorem unreserved_createTable {t : Table} (indexed : t.EngineIndexed) :
    Unreserved (createTable t) ↔
      ∀ name, isReservedName name = true → t.indexes.find? name = none := by
  have created := unreserved_createIndex indexed t.name
    (t.indexes.values.filter fun i => i.kind != .primary)
    fun i member => t.indexes.mem_values.1 (List.mem_filter.1 member).1
  have own (text : String) : Unreserved
      [{ kind := .createTable, table := some t.name, sql := text }] :=
    unreserved_of_none (List.forall_mem_singleton.2 rfl)
  rw [createTable, ← List.singleton_append, unreserved_append, and_iff_right (own _), created]
  constructor
  · intro free name reserved
    by_contra held
    obtain ⟨i, found⟩ := Option.ne_none_iff_exists'.1 held
    have called := indexed.named name i found
    subst called
    have secondary : i.kind ≠ .primary := by
      rcases indexed.expressible _ i found reserved with kind | kind <;> simp [kind]
    have unreserved := free i
      (List.mem_filter.2 ⟨t.indexes.mem_values.2 ⟨_, found⟩, by simpa using secondary⟩)
    rw [reserved] at unreserved
    cases unreserved
  · intro absent i member
    obtain ⟨name, found⟩ := t.indexes.mem_values.1 (List.mem_filter.1 member).1
    rw [indexed.named name i found, ← Bool.not_eq_true]
    intro reserved
    rw [absent name reserved] at found
    cases found

end Sqlite

/-- A table that both snapshots have has the same indexes with reserved names in both, and one that
only `dst` has has none. -/
def Snapshot.KeepsReserved (src dst : Snapshot) : Prop :=
  (∀ old ∈ src.tracked, ∀ new, dst.table? old.name = some new → old.SameReserved new) ∧
    ∀ new ∈ dst.tracked, src.table? new.name = none →
      ∀ name, isReservedName name = true → new.indexes.find? name = none

theorem unreserved_flatMap {changes : List SchemaChange} :
    Unreserved (Dialect.sqlite.emitAll changes) ↔
      ∀ change ∈ changes, Unreserved (Dialect.sqlite.emit change) :=
  List.forall_mem_flatMap

namespace Snapshot

theorem unreserved_held {src dst : Snapshot} (before : ∀ t ∈ src.tables, t.EngineIndexed)
    (after : ∀ t ∈ dst.tables, t.EngineIndexed) {old : Table} (member : old ∈ src.tracked) :
    (∀ change, tableChange (some old) (dst.table? old.name) = some change →
        Unreserved (Dialect.sqlite.emit change)) ↔
      ∀ new, dst.table? old.name = some new → old.SameReserved new := by
  cases wanted : dst.table? old.name with
  | none =>
    refine iff_of_true (fun change listed => ?_) (fun new same => by cases same)
    cases listed
    exact unreserved_of_none (List.forall_mem_singleton.2 rfl)
  | some new =>
    have indexed := after new (table?_some wanted).1
    have written : Unreserved (Dialect.sqlite.emit (.alterTable new.name (old.changesTo new))) ↔
        old.SameReserved new :=
      Sqlite.unreserved_alterTable new.name (before old (mem_tracked.1 member).1) indexed
    cases changed : old.changed new with
    | true => simpa [tableChange, changed] using written
    | false => simpa [tableChange, changed] using Table.sameReserved_of_unchanged changed

/-- Whatever the catalogs hold: a diff of two introspected databases creates and drops no index
with a reserved name exactly if the tables keep theirs. -/
theorem reserved_unnamed_iff {s t : Store} {a b : String} {src dst : Snapshot}
    (left : Driver.sqlite.snapshot s a = .ok src) (right : Driver.sqlite.snapshot t b = .ok dst) :
    (∀ statement ∈ Dialect.sqlite.emitAll (src.changesTo dst), ∀ name,
        statement.indexName? = some name → isReservedName name = false) ↔
      src.KeepsReserved dst := by
  have before := engineIndexed left
  have after := engineIndexed right
  have options : ∀ change ∈ (if src.options = dst.options then []
      else [SchemaChange.alterSchema src.name dst.options]),
      Unreserved (Dialect.sqlite.emit change) := by
    split
    · simp
    · exact List.forall_mem_singleton.2 (unreserved_of_none (List.forall_mem_singleton.2 rfl))
  have held : (∀ change ∈ src.tracked.filterMap fun old =>
        tableChange (some old) (dst.table? old.name), Unreserved (Dialect.sqlite.emit change)) ↔
      ∀ old ∈ src.tracked, ∀ new, dst.table? old.name = some new → old.SameReserved new :=
    forall_mem_filterMap.trans (forall₂_congr fun old member => unreserved_held before after member)
  have fresh : (∀ change ∈ (dst.tracked.filter fun new => (src.table? new.name).isNone).filterMap
        fun new => tableChange none (some new), Unreserved (Dialect.sqlite.emit change)) ↔
      ∀ new ∈ dst.tracked, src.table? new.name = none →
        ∀ name, isReservedName name = true → new.indexes.find? name = none := by
    simp only [forall_mem_filterMap, List.mem_filter, and_imp, Option.isNone_iff_eq_none]
    refine forall₃_congr fun new member _ => ?_
    have written : Unreserved (Dialect.sqlite.emit (.createTable new)) ↔ _ :=
      Sqlite.unreserved_createTable (after new (mem_tracked.1 member).1)
    simpa [tableChange] using written
  show Unreserved _ ↔ _
  rw [unreserved_flatMap, changesTo, List.forall_mem_append, List.forall_mem_append,
    and_iff_right options, held, fresh]
  rfl

/-- What introspection finds in the only schema of a store. -/
def ofMain (s : Store) : Snapshot :=
  { name := "main"
    options := { charset := "", collation := "" }
    tables := ((s.tables.filter fun t => !Catalog.Sqlite.isHidden t.name).mergeSort fun a b =>
      a.name ≤ b.name).map Catalog.Sqlite.table }

theorem snapshot_main (s : Store) : Driver.sqlite.snapshot s "main" = .ok (ofMain s) := by
  have own : Catalog.Sqlite.schemaTables s "main" = .ok s.tables := if_pos (by decide +kernel)
  show (do let tables ← Catalog.Sqlite.tables s "main"; _) = _
  rw [Catalog.Sqlite.tables, own]
  rfl

/-- A table of users with text columns; `definition` is the text that created it. -/
def usersStore (columns : List String) (definition : String) (indexes : List CatalogIndex) :
    Store :=
  { Store.fresh "2024-01-01 00:00:00" with
    tables :=
      [{ name := "users"
         definition
         columns := columns.map fun name =>
           { name, declared := "TEXT", notNull := false, default? := none, keyOrdinal := 0,
             isGenerated := false }
         indexes }] }

/-- What the engine makes of `UNIQUE (email)`. -/
def emailIndex : CatalogIndex :=
  { name := "sqlite_autoindex_users_1", unique := true, origin := .uniqueConstraint,
    members := [some "email"] }

def uniqueUsers : Store :=
  usersStore ["email"] "users (email TEXT, UNIQUE (email))" [emailIndex]

def namedUsers : Store :=
  usersStore ["email", "name"] "users (email TEXT, name TEXT, UNIQUE (email))" [emailIndex]

def looseUsers : Store :=
  usersStore ["email"] "users (email TEXT)" []

theorem users_reserved_unnamed :
    (Dialect.sqlite.emitAll ((ofMain uniqueUsers).changesTo (ofMain namedUsers))).map (·.kind) =
        [.alterTable] ∧
      (ofMain uniqueUsers).KeepsReserved (ofMain namedUsers) := by
  have kept := reserved_unnamed_iff (snapshot_main uniqueUsers) (snapshot_main namedUsers)
  exact ⟨by decide +kernel, kept.1 (unreserved_of_all (by decide +kernel))⟩

/-- A unique constraint that only one side has comes out as a statement about the index that the
engine made for it. -/
theorem constraint_index_named :
    ((Store.fresh "2024-01-01 00:00:00").execute
        "CREATE TABLE users (email TEXT, UNIQUE (email))").2.tables.map (·.indexes) =
        uniqueUsers.tables.map (·.indexes) ∧
      Driver.sqlite.snapshot looseUsers "main" = .ok (ofMain looseUsers) ∧
      Driver.sqlite.snapshot uniqueUsers "main" = .ok (ofMain uniqueUsers) ∧
      (Dialect.sqlite.emitAll ((ofMain looseUsers).changesTo (ofMain uniqueUsers))).map
          (fun s => (s.isExecutable, s.indexName?.map fun name => (name, isReservedName name))) =
        [(true, some ("sqlite_autoindex_users_1", true))] ∧
      (Dialect.sqlite.emitAll ((ofMain uniqueUsers).changesTo (ofMain looseUsers))).map
          (fun s => (s.isExecutable, s.indexName?.map fun name => (name, isReservedName name))) =
        [(true, some ("sqlite_autoindex_users_1", true))] :=
  ⟨by decide +kernel, snapshot_main looseUsers, snapshot_main uniqueUsers, by decide +kernel,
    by decide +kernel⟩

end Snapshot

end SchemaShift
