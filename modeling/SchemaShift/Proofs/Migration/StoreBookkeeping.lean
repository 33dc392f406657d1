import SchemaShift.Proofs.Migration.Bookkeeping
import SchemaShift.Proofs.Migration.BookkeepingTable
import SchemaShift.Proofs.Store.Cells

/-!
# The bookkeeping of the store

The store keeps books by the laws of `OrderlyBookkeeping`. Its rows take the next number each, and
a handle of its only schema sees its tables.
-/

namespace SchemaShift

open Text Store

/-- The handle is one of the only schema that a store has. -/
def Database.IsMain (db : Database) : Prop :=
  db.driver = .sqlite ∧ isOwnSchema db.name = true

/-! ### Row numbers -/

namespace Store.Ledger

/-- Every row has been numbered by the ledger. -/
def Counted (l : Ledger) : Prop :=
  ∀ r ∈ l.rows, r.id.toInt.toNat ≤ l.lastId

theorem foldl_max_le (rows : List Row) {n bound : Nat} (start : n ≤ bound)
    (below : ∀ r ∈ rows, r.id.toInt.toNat ≤ bound) :
    rows.foldl (fun n r => max n r.id.toInt.toNat) n ≤ bound := by
  induction rows generalizing n with
  | nil => exact start
  | cons r rows ih =>
    obtain ⟨first, rest⟩ := List.forall_mem_cons.1 below
    exact ih (Nat.max_le.2 ⟨start, first⟩) rest

theorem le_foldl_max (rows : List Row) (n : Nat) :
    n ≤ rows.foldl (fun n r => max n r.id.toInt.toNat) n ∧
      ∀ r ∈ rows, r.id.toInt.toNat ≤ rows.foldl (fun n r => max n r.id.toInt.toNat) n := by
  induction rows generalizing n with
  | nil => simp
  | cons r rows ih =>
    obtain ⟨start, rest⟩ := ih (max n r.id.toInt.toNat)
    refine ⟨Nat.le_trans (Nat.le_max_left _ _) start, ?_⟩
    rw [List.forall_mem_cons]
    exact ⟨Nat.le_trans (Nat.le_max_right _ _) start, rest⟩

theorem nextId_of_counted {l : Ledger} (counted : l.Counted) : l.nextId = l.lastId + 1 := by
  have above := (le_foldl_max l.rows l.lastId).1
  have below := foldl_max_le l.rows (Nat.le_refl l.lastId) counted
  unfold nextId
  omega

theorem lt_nextId {l : Ledger} {r : Row} (member : r ∈ l.rows) : r.id.toInt.toNat < l.nextId :=
  Nat.lt_succ_of_le ((le_foldl_max l.rows l.lastId).2 r member)

section Insert

variable {l : Ledger} (room : l.hasRoom = true) (key : Int64) (name version now : String)
  (status : Int64)
include room

theorem counted_insert : (l.insert key name status version now).Counted := by
  intro r member
  rw [hasRoom, decide_eq_true_eq] at room
  rcases List.mem_append.1 member with old | fresh
  · exact Nat.le_of_lt (lt_nextId old)
  · cases List.mem_singleton.1 fresh
    rw [toInt_ofNat room]
    exact Nat.le_refl _

theorem nextId_insert : (l.insert key name status version now).nextId = l.nextId + 1 :=
  nextId_of_counted (counted_insert room key name version now status)

end Insert

theorem nextId_erase_le (l : Ledger) (key : Int64) : (l.erase key).nextId ≤ l.nextId := by
  have above := le_foldl_max l.rows l.lastId
  have fewer := foldl_max_le (l.rows.filter fun r => !isFor key r) above.1
    fun r member => above.2 r (List.mem_filter.1 member).1
  exact Nat.succ_le_succ fewer

def journal (l : Ledger) : Journal :=
  { rows := l.rows, room := signedLimit - l.nextId }

theorem hasRoom_eq (l : Ledger) : l.hasRoom = (l.journal.room != 0) := by
  rw [Bool.eq_iff_iff, hasRoom, decide_eq_true_iff, bne_iff_ne, journal]
  dsimp only
  omega

theorem holds_eq (l : Ledger) (key : Int64) : l.holds key = (l.journal.count key != 0) := by
  rw [Bool.eq_iff_iff, bne_iff_ne, Journal.count, ne_eq, List.length_eq_zero_iff,
    List.filter_eq_nil_iff, holds, List.any_eq_true]
  simp [journal]

theorem journal_insert {l : Ledger} (room : l.journal.room ≠ 0) (key : Int64)
    (name version now : String) (status : Int64) :
    ∃ r, r.Records key name status version ∧ r.createTime = .text now ∧ r.updateTime = .text now ∧
      (l.insert key name status version now).journal = l.journal.write r := by
  have next := nextId_insert (by rwa [hasRoom_eq, bne_iff_ne]) key name version now status
  refine ⟨{ id := Int64.ofNat l.nextId, migrateId := .int key, name, status := .int status, version,
            createTime := .text now, updateTime := .text now }, ⟨rfl, rfl, rfl, rfl⟩, rfl, rfl, ?_⟩
  unfold journal Journal.write
  rw [next]
  rfl

theorem journal_erase (l : Ledger) (key : Int64) : ∃ room, l.journal.room ≤ room ∧
    (l.erase key).journal = l.journal.erase key room := by
  have fewer := l.nextId_erase_le key
  refine ⟨(l.erase key).journal.room, ?_, rfl⟩
  unfold journal
  dsimp only
  omega

theorem sorted_perm (l : Ledger) : l.sorted.Perm l.rows :=
  (List.mergeSort_perm _ _).trans (List.mergeSort_perm _ _)

end Store.Ledger

namespace Store

/-! ### Queries about records -/

/-- The bookkeeping table is there, and it has a column for the ids of units. -/
def isAnswerable (s : Store) : Bool :=
  (s.table? bookkeepingName).any fun t => (t.columnName? "migrate_id").isSome

/-- How a question about a record is refused. -/
def unanswered (s : Store) : StoreError :=
  if s.hasTable bookkeepingName then .noSuchColumn "migrate_id" else .noSuchTable bookkeepingName

theorem withColumns_migrateId (s : Store) : s.withColumns .noSuchColumn ["migrate_id"] =
    if s.isAnswerable then .ok () else .error s.unanswered := by
  have plain : lower "migrate_id" ∉ rowNumberNames := by decide
  rw [withColumns, isAnswerable, unanswered, hasTable]
  cases s.table? bookkeepingName with
  | none => rfl
  | some t => cases column : t.columnName? "migrate_id" <;> simp [plain, column]

theorem countRecords_eq (s : Store) (key : Int64) :
    s.countRecords key =
      if s.isAnswerable then .ok (s.ledger.count key) else .error s.unanswered := by
  rw [countRecords, withColumns_migrateId]
  cases s.isAnswerable <;> rfl

theorem withColumns_ok {s : Store} {missing : String → StoreError} {columns : List String}
    (ok : s.withColumns missing columns = .ok ()) : s.table? bookkeepingName ≠ none := by
  intro absent
  rw [withColumns, absent] at ok
  cases ok

section Own

variable {s : Store} {indexes : List CatalogIndex}
  (held : s.table? bookkeepingName = some (bookkeepingEntry indexes))
include held

theorem answerable_of_entry : s.isAnswerable = true := by
  have column : ((bookkeepingEntry []).columnName? "migrate_id").isSome = true := by
    decide +kernel
  unfold isAnswerable
  rw [held]
  exact column

theorem withColumns_entry (missing : String → StoreError) (columns : List String)
    (known : (columns.find? fun c => !rowNumberNames.contains (lower c) &&
      ((bookkeepingEntry []).columnName? c).isNone) = none) :
    s.withColumns missing columns = .ok () := by
  have same : (columns.find? fun c => !rowNumberNames.contains (lower c) &&
      ((bookkeepingEntry indexes).columnName? c).isNone) = none := known
  rw [withColumns, held]
  simp only [same]

/-- Only a unique index keeps a unit from a second record. -/
theorem insertRecord_entry (key : Int64) (name version : String) (status : Int64) :
    Server.insertRecord s key name status version =
      if s.ledger.journal.room = 0 then (.error .full, s)
      else if s.keepsUnique "migrate_id" = true ∧ s.ledger.journal.count key ≠ 0 then
        (.error repeated, s)
      else (.ok (), { s with ledger := s.ledger.insert key name status version s.now }) := by
  have columns := withColumns_entry held (.columnMissingFrom bookkeepingName)
    ["migrate_id", "name", "status", "version"] (by decide +kernel)
  show s.settle ((s.insertRecord key name status version).map _) = _
  unfold insertRecord
  rw [columns, Ledger.hasRoom_eq, Ledger.holds_eq]
  by_cases room : s.ledger.journal.room = 0
  · rw [if_pos room, room]
    rfl
  · rw [if_neg room, bne_iff_ne.2 room]
    by_cases twice : s.keepsUnique "migrate_id" = true ∧ s.ledger.journal.count key ≠ 0
    · rw [if_pos twice, twice.1, bne_iff_ne.2 twice.2]
      rfl
    · have once : (s.keepsUnique "migrate_id" && s.ledger.journal.count key != 0) = false := by
        rwa [← Bool.not_eq_true, Bool.and_eq_true, bne_iff_ne]
      rw [if_neg twice, once]
      rfl

theorem deleteRecord_entry (key : Int64) :
    s.deleteRecord key =
      .ok (s.ledger.count key, { s with ledger := s.ledger.erase key }) := by
  have columns := withColumns_entry held .noSuchColumn ["migrate_id"] (by decide +kernel)
  unfold deleteRecord
  rw [columns]
  rfl

theorem listRecords_entry : s.listRecords = .ok s.ledger.sorted := by
  have columns := withColumns_entry held .noSuchColumn (Field.all.map Field.column)
    (by decide +kernel)
  unfold listRecords
  rw [columns]
  rfl

end Own

/-! ### Handles of the only schema -/

theorem tableExists_entry {db : Database} (main : db.IsMain) {s : Store}
    {indexes : List CatalogIndex}
    (held : s.table? bookkeepingName = some (bookkeepingEntry indexes)) :
    db.tableExists s bookkeepingName = .ok true := by
  obtain ⟨sqlite, own⟩ := main
  have tables : Catalog.Sqlite.schemaTables s db.name = .ok s.tables := if_pos own
  have named : s.tables.any (fun t => t.name == bookkeepingName) = true :=
    List.any_eq_true.2 ⟨_, List.mem_of_find?_eq_some held, beq_self_eq_true _⟩
  rw [Database.tableExists, sqlite]
  show Database.asMigrationError (Catalog.Sqlite.tableExists s db.name _) = _
  rw [Catalog.Sqlite.tableExists, tables, ← named]
  rfl

theorem tableExists_absent {db : Database} (main : db.IsMain) {s : Store}
    (absent : s.table? bookkeepingName = none) :
    db.tableExists s bookkeepingName = .ok false := by
  obtain ⟨sqlite, own⟩ := main
  have tables : Catalog.Sqlite.schemaTables s db.name = .ok s.tables := if_pos own
  have unnamed : s.tables.any (fun t => t.name == bookkeepingName) = false := by
    rw [List.any_eq_false]
    intro t member named
    have other := List.find?_eq_none.1 absent t member
    rw [beq_iff_eq.1 named] at other
    exact other (by simp [sameLetters])
  rw [Database.tableExists, sqlite]
  show Database.asMigrationError (Catalog.Sqlite.tableExists s db.name _) = _
  rw [Catalog.Sqlite.tableExists, tables, ← unnamed]
  rfl

/-! ### The laws -/

instance : Books Store where
  booksTable? s := s.table? bookkeepingName
  journal s := s.ledger.journal
  IsOwn t := ∃ indexes, t = bookkeepingEntry indexes

theorem Prepares.books {s t : Store} (prepares : s.Prepares t) : PreparesBooks s t := by
  refine ⟨congrArg Ledger.journal prepares.ledger, ?_⟩
  rcases prepares.table with same | ⟨absent, indexes, held⟩
  · exact .inl same
  · exact .inr ⟨absent, _, held, indexes, rfl⟩

instance : Bookkeeping Store where
  Reaches := Database.IsMain
  booksAnswer := isAnswerable
  booksRefusal := unanswered
  making db s := (prepares_creation db.driver.dialect s).books
  seeing := by
    rintro db s main ⟨own, held, indexes, rfl⟩
    exact tableExists_entry main held
  counting := countRecords_eq
  there_of_answers := by
    intro s answers absent
    change s.table? bookkeepingName = none at absent
    simp [isAnswerable, absent] at answers
  answers_of_own := by
    rintro s ⟨own, held, indexes, rfl⟩
    exact answerable_of_entry held
  writing := by
    rintro s key ⟨own, held, indexes, rfl⟩ absent name status version
    have once : ¬(s.keepsUnique "migrate_id" = true ∧ s.ledger.journal.count key ≠ 0) :=
      fun twice => twice.2 absent
    rw [insertRecord_entry held, if_neg once]
    split
    · rename_i full
      exact .full full rfl rfl
    · rename_i room
      obtain ⟨r, record, -, -, rows⟩ :=
        Ledger.journal_insert room key name version s.now status
      exact .written room record rows rfl
  erasing := by
    rintro s ⟨own, held, indexes, rfl⟩ key
    have erased : Server.deleteRecord s key =
        (.ok (s.ledger.count key), { s with ledger := s.ledger.erase key }) :=
      congrArg s.settle (deleteRecord_entry held key)
    rw [erased]
    exact ⟨rfl, s.ledger.journal_erase key, rfl⟩
  listing := by
    intro s rows listed
    change s.listRecords = _ at listed
    cases columns : s.withColumns .noSuchColumn (Field.all.map Field.column) with
    | error e =>
      rw [listRecords, columns] at listed
      cases listed
    | ok done =>
      rw [listRecords, columns] at listed
      cases listed
      exact ⟨withColumns_ok columns, s.ledger.sorted_perm⟩

/-! ### Books in order -/

instance : OrderlyBooks Store where
  IsWhole t := t = bookkeepingEntry [unitIndex]
  Unoccupied := Vacant
  TellsTime s := ∃ m, MigrationRecord.readTime s.now = .ok m

theorem makeTable_creation (db : Database) (s : Store) :
    Creation db.driver.dialect s (History.makeTable db s) :=
  creation_cases db.driver.dialect s

theorem makeTable_vacant {db : Database} {s : Store} (main : db.IsMain) (free : s.Vacant) :
    ∃ count t, History.makeTable db s = (.ok count, t) := by
  obtain ⟨count, t, ran, -⟩ := creation_vacant free
  refine ⟨count, t, ?_⟩
  show applyStatements s (db.driver.dialect.createTable bookkeepingTable) = _
  rw [main.1]
  exact ran

theorem makeTable_refused {db : Database} {s t : Store} {e : MigrationError}
    (ordered : s.Vacant ∨ MadeBooks s) (ran : History.makeTable db s = (.error e, t)) : t = s := by
  have went := makeTable_creation db s
  rw [ran] at went
  cases went with
  | refused why => rfl
  | unindexed absent unnamed why ledger now held =>
    rcases ordered with free | ⟨whole, there, -⟩
    · obtain ⟨untabled, unindexed⟩ := free.indexName
      simp [untabled, unindexed] at why
    · cases absent.symm.trans there

theorem tellsTime_of_now {s t : Store} (clock : OrderlyBooks.TellsTime s) (same : t.now = s.now) :
    OrderlyBooks.TellsTime t := by
  obtain ⟨m, reads⟩ := clock
  exact ⟨m, same ▸ reads⟩

theorem makeTable_now (db : Database) (s : Store) : (History.makeTable db s).2.now = s.now := by
  have went := makeTable_creation db s
  generalize History.makeTable db s = outcome at went
  cases went with
  | refused why => rfl
  | unindexed absent unnamed why ledger now held => exact now
  | made absent unnamed free ledger now held => exact now

theorem deleteRecord_now (s : Store) (key : Int64) : (Server.deleteRecord s key).2.now = s.now := by
  show (s.settle (s.deleteRecord key)).2.now = s.now
  cases columns : s.withColumns .noSuchColumn ["migrate_id"] with
  | error e =>
    rw [deleteRecord, columns]
    rfl
  | ok done =>
    rw [deleteRecord, columns]
    rfl

theorem insertRecord_inserted {s : Store}
    (held : s.table? bookkeepingName = some (bookkeepingEntry [unitIndex]))
    (clock : OrderlyBooks.TellsTime s) (key : Int64) (name : String) (status : Int64)
    (version : String) :
    Inserted s key name status version (Server.insertRecord s key name status version) := by
  have unique : s.keepsUnique "migrate_id" = true := by
    rw [keepsUnique, held]
    decide +kernel
  rw [insertRecord_entry held, unique]
  split
  · rename_i full
    exact .full full
  · rename_i room
    split
    · rename_i twice
      exact .repeated room twice.2
    · rename_i once
      have absent : s.ledger.journal.count key = 0 := by simpa using once
      obtain ⟨r, record, created, updated, rows⟩ :=
        Ledger.journal_insert room key name version s.now status
      obtain ⟨m, reads⟩ := clock
      refine .written room absent record ⟨m, m, ?_, ?_⟩ rows rfl ⟨m, reads⟩
      · rw [created]
        exact reads
      · rw [updated]
        exact reads

theorem record_untabled {s : Store} (absent : s.table? bookkeepingName = none) (key : Int64) :
    (∀ name status version, ∃ e, Server.insertRecord s key name status version = (.error e, s)) ∧
      ∃ e, Server.deleteRecord s key = (.error e, s) := by
  have columns (missing : String → StoreError) (names : List String) :
      s.withColumns missing names = .error (.noSuchTable bookkeepingName) := by
    rw [withColumns, absent]
  constructor
  · intro name status version
    refine ⟨.noSuchTable bookkeepingName, ?_⟩
    show s.settle ((s.insertRecord key name status version).map _) = _
    rw [insertRecord, columns]
    rfl
  · refine ⟨.noSuchTable bookkeepingName, ?_⟩
    show s.settle (s.deleteRecord key) = _
    rw [deleteRecord, columns]
    rfl

instance : OrderlyBookkeeping Store where
  own_of_whole is := ⟨[unitIndex], is⟩
  absent_of_unoccupied free := free.table
  unseen main absent := tableExists_absent main absent
  making_unoccupied := makeTable_vacant
  made := by
    intro db s t count ran
    have went := makeTable_creation db s
    rw [ran] at went
    cases went with
    | made absent unnamed free ledger now held => exact ⟨absent, _, held, rfl⟩
  refused := makeTable_refused
  inserting := by
    rintro s ⟨whole, held, rfl⟩ clock key name status version
    exact insertRecord_inserted held clock key name status version
  listing_whole := by
    rintro s ⟨whole, held, rfl⟩
    refine ⟨_, listRecords_entry held, ?_⟩
    exact @List.pairwise_mergeSort Row (fun a b => a.migrateId.le b.migrateId)
      (fun a b c => Cell.le_trans _ _ _) (fun a b => Cell.le_total _ _) _
  untabled := record_untabled
  making_clock clock db := tellsTime_of_now clock (makeTable_now db _)
  erasing_clock clock key := tellsTime_of_now clock (deleteRecord_now _ key)

end Store

end SchemaShift
