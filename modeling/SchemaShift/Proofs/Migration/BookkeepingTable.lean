import SchemaShift.Migration.History
import SchemaShift.Proofs.Store.Statements

/-!
# The making of the bookkeeping table

A manager makes the bookkeeping table with the statements of its dialect: a table and an index
for SQLite, one table for MySQL. Either statement of SQLite may be refused, and the one of MySQL
is refused in every store. So after a manager has made sure of the table, it is as it was before,
or there was none and it is the one that is known column by column.
-/

namespace SchemaShift

open Text Store

/-! ### The statements of the dialects -/

def bookkeepingColumns : List CatalogColumn :=
  let column (name declared : String) (default? : Option String) : CatalogColumn :=
    { name, declared, notNull := true, default?, keyOrdinal := 0, isGenerated := false }
  [{ name := "id", declared := "INTEGER", notNull := false, default? := none, keyOrdinal := 1,
     isGenerated := false },
    column "migrate_id" "bigint unsigned" none,
    column "name" "varchar(255)" (some "''"),
    column "status" "tinyint" (some "'0'"),
    column "version" "varchar(64)" (some "''"),
    column "create_time" "timestamp" (some "CURRENT_TIMESTAMP"),
    column "update_time" "timestamp" (some "CURRENT_TIMESTAMP")]

def bookkeepingClauses : String :=
  -- In pieces, because one long literal has too many characters to be taken apart at once.
  "\"id\" INTEGER PRIMARY KEY AUTOINCREMENT, " ++ "\"migrate_id\" bigint unsigned NOT NULL, " ++
    "\"name\" varchar(255) NOT NULL DEFAULT '', " ++
    "\"status\" tinyint NOT NULL DEFAULT '0', " ++
    "\"version\" varchar(64) NOT NULL DEFAULT '', " ++
    "\"create_time\" timestamp " ++ "NOT NULL DEFAULT CURRENT_TIMESTAMP, " ++
    "\"update_time\" timestamp " ++ "NOT NULL DEFAULT CURRENT_TIMESTAMP" ++ ")"

/-- The bookkeeping table as the store knows it, with these indexes. -/
def bookkeepingEntry (indexes : List CatalogIndex) : CatalogTable :=
  { name := bookkeepingName
    definition := "\"ksql_migrate_info\" " ++ "(" ++ bookkeepingClauses
    columns := bookkeepingColumns
    indexes }

/-- The index that lets no unit have two records. -/
def unitIndex : CatalogIndex :=
  { name := "uk_migrate_id", unique := true, origin := .statement, members := [some "migrate_id"] }

def tableStatement : String :=
  "CREATE TABLE " ++ "\"ksql_migrate_info\" " ++ "(" ++ bookkeepingClauses

def indexStatement : String :=
  "CREATE UNIQUE INDEX " ++ "\"uk_migrate_id\" " ++ "ON \"ksql_migrate_info\" " ++
    "(\"migrate_id\")"

def mysqlClauses : List String :=
  ["`id` bigint unsigned NOT NULL AUTO_INCREMENT, ",
    "`migrate_id` bigint unsigned NOT NULL ", "COMMENT 'migration unit id', ",
    "`name` varchar(255) NOT NULL DEFAULT '', ",
    "`status` tinyint NOT NULL DEFAULT '0' ", "COMMENT '0=migrated,1=not migrated', ",
    "`version` varchar(64) NOT NULL DEFAULT '', ",
    "`create_time` timestamp ", "NOT NULL DEFAULT CURRENT_TIMESTAMP, ",
    "`update_time` timestamp ", "NOT NULL DEFAULT CURRENT_TIMESTAMP ",
    "ON UPDATE CURRENT_TIMESTAMP, ", "PRIMARY KEY (`id`), ",
    "UNIQUE KEY `uk_migrate_id` (`migrate_id`)) ", "ENGINE=InnoDB DEFAULT CHARSET=utf8mb4 ",
    "COLLATE=utf8mb4_general_ci ", "COMMENT='ksql migration history'"]

def mysqlStatement : String :=
  "CREATE TABLE " ++ "`ksql_migrate_info` " ++ "(" ++ String.join mysqlClauses

theorem sqlite_tableText : Sqlite.createTableText bookkeepingTable = tableStatement := by
  decide +kernel

theorem sqlite_indexes :
    (bookkeepingTable.indexes.values.filter fun i => i.kind != .primary).map
        (Sqlite.createIndex bookkeepingTable.name) =
      [{ kind := .createIndex, table := some bookkeepingName, sql := indexStatement }] := by
  decide +kernel

theorem sqlite_creation :
    Dialect.sqlite.createTable bookkeepingTable =
      [{ kind := .createTable, table := some bookkeepingName, sql := tableStatement },
        { kind := .createIndex, table := some bookkeepingName, sql := indexStatement }] := by
  show Sqlite.createTable bookkeepingTable = _
  unfold Sqlite.createTable
  rw [sqlite_tableText, sqlite_indexes]
  rfl

theorem mysql_creation :
    Dialect.mysql.createTable bookkeepingTable =
      [{ kind := .createTable, table := some bookkeepingName, sql := mysqlStatement }] := by
  decide +kernel

def Store.Command.makesTable : Store.Command → Bool
  | .createTable target unlessThere definition =>
    !unlessThere && target.schema == none && target.text == bookkeepingName &&
      (definition.draft? target.text).map (·.table definition.text) == some (bookkeepingEntry [])
  | _ => false

def Store.Command.makesIndex : Store.Command → Bool
  | .createIndex unique target unlessThere table members condition =>
    unique && target.schema == none && target.text == unitIndex.name && !unlessThere &&
      table == bookkeepingName && condition == none && members.findSome? Member.nulls == none &&
      match members.mapM (indexMember
        { table := bookkeepingName, columns := bookkeepingColumns.map (·.name), place := .index })
      with
      | .ok named => named == unitIndex.members
      | .error _ => false
  | _ => false

def Store.Command.isFaultyTable : Store.Command → Bool
  | .createTable _ unlessThere definition => !unlessThere && definition.fault.isSome
  | _ => false

theorem tableStatement_command :
    (soleCommand? (strip tableStatement.toList)).any Store.Command.makesTable = true := by
  unfold tableStatement bookkeepingClauses
  simp only [String.toList_append, String.reduceToList]
  decide +kernel

theorem indexStatement_command :
    (soleCommand? (strip indexStatement.toList)).any Store.Command.makesIndex = true := by
  unfold indexStatement
  simp only [String.toList_append, String.reduceToList]
  decide +kernel

theorem mysqlStatement_command :
    (soleCommand? (strip mysqlStatement.toList)).any Store.Command.isFaultyTable = true := by
  unfold mysqlStatement mysqlClauses
  simp only [String.toList_append, String.reduceToList, String.join, List.foldl_cons,
    List.foldl_nil]
  decide +kernel

namespace Store

/-! ### Running the statements -/

theorem execute_tableStatement : ∃ d definition, d.name = bookkeepingName ∧
    d.table definition = bookkeepingEntry [] ∧ ∀ s : Store,
      (s.hasTable bookkeepingName = false → s.hasIndex bookkeepingName = false →
        s.execute tableStatement = (.ok (), s.addTable d definition)) ∧
      (s.hasTable bookkeepingName = true ∨ s.hasIndex bookkeepingName = true →
        ∃ e, s.execute tableStatement = (.error e, s)) := by
  obtain ⟨c, sole, makes⟩ := (Option.any_eq_true _ _).1 tableStatement_command
  cases c with
  | createTable target unlessThere definition =>
    simp only [Command.makesTable, Bool.and_eq_true, Bool.not_eq_true', beq_iff_eq,
      Option.map_eq_some_iff] at makes
    obtain ⟨⟨⟨rfl, own⟩, about⟩, d, described, entry⟩ := makes
    have free : isReservedName target.text = false := by
      rw [about]
      decide +kernel
    refine ⟨d, definition.text, congrArg CatalogTable.name entry, entry, fun s => ?_⟩
    have ran := createTable_of_draft? described own free s
    rw [execute_sole sole, run, ran, about]
    cases s.hasTable bookkeepingName with
    | true => exact ⟨fun absent => (nomatch absent), fun _ => ⟨_, rfl⟩⟩
    | false =>
      cases s.hasIndex bookkeepingName with
      | true => exact ⟨fun _ unindexed => (nomatch unindexed), fun _ => ⟨_, rfl⟩⟩
      | false => exact ⟨fun _ _ => rfl, fun taken => by rcases taken with h | h <;> cases h⟩
  | dropTable target ifThere => cases makes
  | createIndex unique target unlessThere table members condition => cases makes
  | dropIndex target ifThere => cases makes
  | addColumn target definition => cases makes

theorem execute_indexStatement {s : Store} {indexes : List CatalogIndex}
    (held : s.table? bookkeepingName = some (bookkeepingEntry indexes)) :
    (s.hasTable unitIndex.name = false → s.hasIndex unitIndex.name = false →
      s.execute indexStatement = (.ok (), s.updateTable bookkeepingName fun t =>
        { t with indexes := t.indexes ++ [unitIndex] })) ∧
    (s.hasTable unitIndex.name = true ∨ s.hasIndex unitIndex.name = true →
      ∃ e, s.execute indexStatement = (.error e, s)) := by
  obtain ⟨c, sole, makes⟩ := (Option.any_eq_true _ _).1 indexStatement_command
  cases c with
  | createIndex unique target unlessThere table members condition =>
    simp only [Command.makesIndex, Bool.and_eq_true, Bool.not_eq_true', beq_iff_eq] at makes
    obtain ⟨⟨⟨⟨⟨⟨⟨rfl, own⟩, about⟩, rfl⟩, rfl⟩, rfl⟩, plain⟩, means⟩ := makes
    split at means
    · rename_i named read
      have same : named = unitIndex.members := by simpa using means
      subst same
      have indexable : isReservedName bookkeepingName = false := by decide +kernel
      have free : isReservedName target.text = false := by
        rw [about]
        decide +kernel
      have ran := createIndex_of_members (t := bookkeepingEntry indexes) held plain read own
        indexable free true
      rw [execute_sole sole, run]
      change s.createIndex true target false bookkeepingName members none = _ at ran
      rw [ran, about]
      cases s.hasTable unitIndex.name with
      | true => exact ⟨fun absent => (nomatch absent), fun _ => ⟨_, rfl⟩⟩
      | false =>
        cases s.hasIndex unitIndex.name with
        | true => exact ⟨fun _ unindexed => (nomatch unindexed), fun _ => ⟨_, rfl⟩⟩
        | false => exact ⟨fun _ _ => rfl, fun taken => by rcases taken with h | h <;> cases h⟩
    · cases means
  | createTable target unlessThere definition => cases makes
  | dropTable target ifThere => cases makes
  | dropIndex target ifThere => cases makes
  | addColumn target definition => cases makes

theorem execute_mysqlStatement (s : Store) : ∃ e, s.execute mysqlStatement = (.error e, s) := by
  obtain ⟨c, sole, faulty⟩ := (Option.any_eq_true _ _).1 mysqlStatement_command
  cases c with
  | createTable target unlessThere definition =>
    simp only [Command.isFaultyTable, Bool.and_eq_true, Bool.not_eq_true',
      Option.isSome_iff_exists] at faulty
    obtain ⟨rfl, e, fault⟩ := faulty
    obtain ⟨e, refused⟩ := createTable_fault fault s target
    rw [execute_sole sole, run, refused]
    exact ⟨e, rfl⟩
  | dropTable target ifThere => cases faulty
  | createIndex unique target unlessThere table members condition => cases faulty
  | dropIndex target ifThere => cases faulty
  | addColumn target definition => cases faulty

/-! ### What a manager leaves -/

/-- The bookkeeping table of `t` is that of `s`, or it was made where there was none. Its rows
are the same. -/
structure Prepares (s t : Store) : Prop where
  ledger : t.ledger = s.ledger
  table : t.table? bookkeepingName = s.table? bookkeepingName ∨
    s.table? bookkeepingName = none ∧
      ∃ indexes, t.table? bookkeepingName = some (bookkeepingEntry indexes)

theorem Prepares.refl (s : Store) : s.Prepares s :=
  ⟨rfl, .inl rfl⟩

/-- How the statements of a dialect can go: the first is refused, the table is made without its
index, or all of them run. -/
inductive Creation (dialect : Dialect) (s : Store) : Except MigrationError Nat × Store → Prop where
  | refused {e : MigrationError} (why : dialect = .mysql ∨
      s.hasTable bookkeepingName = true ∨ s.hasIndex bookkeepingName = true) :
    Creation dialect s (.error e, s)
  | unindexed {e : MigrationError} {t : Store} (absent : s.table? bookkeepingName = none)
      (unnamed : s.hasIndex bookkeepingName = false)
      (why : s.hasTable unitIndex.name = true ∨ s.hasIndex unitIndex.name = true)
      (ledger : t.ledger = s.ledger) (now : t.now = s.now)
      (held : t.table? bookkeepingName = some (bookkeepingEntry [])) :
    Creation dialect s (.error e, t)
  | made {count : Nat} {t : Store} (absent : s.table? bookkeepingName = none)
      (unnamed : s.hasIndex bookkeepingName = false)
      (free : s.hasTable unitIndex.name = false ∧ s.hasIndex unitIndex.name = false)
      (ledger : t.ledger = s.ledger) (now : t.now = s.now)
      (held : t.table? bookkeepingName = some (bookkeepingEntry [unitIndex])) :
    Creation dialect s (.ok count, t)

/-- The new table and the one that counts its rows leave the name of the index as it was. -/
theorem unitIndex_addTable (s : Store) {d : Draft} {definition : String}
    (entry : d.table definition = bookkeepingEntry []) :
    (s.addTable d definition).hasTable unitIndex.name = s.hasTable unitIndex.name ∧
      (s.addTable d definition).hasIndex unitIndex.name = s.hasIndex unitIndex.name := by
  have other : sameLetters bookkeepingName unitIndex.name = false ∧
      sameLetters "sqlite_sequence" unitIndex.name = false := by decide +kernel
  have tables : (s.addTable d definition).tables = s.tables ++ bookkeepingEntry [] ::
      if d.counting && !s.hasTable sequenceTable.name then [sequenceTable] else [] := by
    unfold addTable
    dsimp only
    rw [entry, List.append_assoc]
    rfl
  unfold hasTable hasIndex table? index?
  rw [tables]
  split
  · simp [other, bookkeepingEntry, sequenceTable]
  · simp [other, bookkeepingEntry]

theorem creation_cases (dialect : Dialect) (s : Store) :
    Creation dialect s (applyStatements s (dialect.createTable bookkeepingTable)) := by
  cases dialect with
  | mysql =>
    obtain ⟨e, refused⟩ := execute_mysqlStatement s
    rw [mysql_creation, applyStatements, applyWith_refused rfl refused]
    exact .refused (.inl rfl)
  | sqlite =>
    obtain ⟨d, definition, named, entry, creation⟩ := execute_tableStatement
    rw [sqlite_creation]
    by_cases taken : s.hasTable bookkeepingName = true ∨ s.hasIndex bookkeepingName = true
    · obtain ⟨e, refused⟩ := (creation s).2 taken
      rw [applyStatements, applyWith_refused rfl refused]
      exact .refused (.inr taken)
    · simp only [not_or, Bool.not_eq_true] at taken
      have absent : s.table? bookkeepingName = none := by
        simpa [hasTable] using taken.1
      have held := table?_addTable absent named definition
      rw [entry] at held
      obtain ⟨sameTable, sameIndex⟩ := unitIndex_addTable s entry
      rw [applyStatements, applyWith_accepted rfl ((creation s).1 taken.1 taken.2)]
      by_cases again : s.hasTable unitIndex.name = true ∨ s.hasIndex unitIndex.name = true
      · obtain ⟨e, refused⟩ := (execute_indexStatement held).2 (sameTable ▸ sameIndex ▸ again)
        rw [applyWith_refused rfl refused]
        exact .unindexed absent taken.2 again rfl rfl held
      · simp only [not_or, Bool.not_eq_true] at again
        rw [applyWith_accepted rfl ((execute_indexStatement held).1
          (sameTable.trans again.1) (sameIndex.trans again.2))]
        exact .made absent taken.2 again rfl rfl
          (table?_updateTable (t := bookkeepingEntry []) held fun _ => rfl)

/-- Running the statements of a dialect prepares a store, also where one is refused. -/
theorem prepares_creation (dialect : Dialect) (s : Store) :
    s.Prepares (applyStatements s (dialect.createTable bookkeepingTable)).2 := by
  have went := creation_cases dialect s
  generalize applyStatements s (dialect.createTable bookkeepingTable) = outcome at went
  cases went with
  | refused why => exact .refl s
  | unindexed absent unnamed why ledger now held => exact ⟨ledger, .inr ⟨absent, [], held⟩⟩
  | made absent unnamed free ledger now held => exact ⟨ledger, .inr ⟨absent, [unitIndex], held⟩⟩

/-- Nothing stands where the bookkeeping table and its index are to be. -/
structure Vacant (s : Store) : Prop where
  table : s.table? bookkeepingName = none
  tableName : s.hasIndex bookkeepingName = false
  indexName : s.hasTable unitIndex.name = false ∧ s.hasIndex unitIndex.name = false

theorem creation_vacant {s : Store} (vacant : s.Vacant) : ∃ count t,
    applyStatements s (Dialect.sqlite.createTable bookkeepingTable) = (.ok count, t) ∧
      t.table? bookkeepingName = some (bookkeepingEntry [unitIndex]) := by
  have went := creation_cases .sqlite s
  obtain ⟨untabled, unindexed⟩ := vacant.indexName
  generalize applyStatements s (Dialect.sqlite.createTable bookkeepingTable) = outcome at went ⊢
  cases went with
  | refused why => simp [hasTable_absent vacant.table, vacant.tableName] at why
  | unindexed absent unnamed why ledger now held => simp [untabled, unindexed] at why
  | made absent unnamed free ledger now held => exact ⟨_, _, rfl, held⟩

end Store

end SchemaShift
