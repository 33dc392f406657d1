import SchemaShift.Proofs.Migration.StoreBookkeeping
import SchemaShift.Proofs.Migration.Turn

/-!
# What a turn does to the books

A unit may do anything to a database but touch the books. Then a turn changes the rows of its own
unit at most: it writes or erases them after its action succeeded, and `TurnEffect` says when.
-/

namespace SchemaShift

open Text Store Books Bookkeeping

/-! ### Kept books -/

section Kept

variable {σ : Type}

/-- No action of the unit touches the bookkeeping table or its rows. -/
def MigrationUnit.LeavesBooks [Books σ] (u : MigrationUnit σ) : Prop :=
  ∀ d s, journal (u.action d s).2 = journal s ∧ booksTable? (u.action d s).2 = booksTable? s

/-- There is no bookkeeping table, or it is one that a manager made. -/
def OwnBooks [Server σ] [Books σ] (s : σ) : Prop :=
  booksTable? s = none ∧ (journal s).rows = [] ∨
    ∃ (db : Database) (before : σ) (after : Session σ), booksTable? before = none ∧
      History.ensure db (.start before) = (.ok (), after) ∧
      booksTable? after.store ≠ none ∧ booksTable? s = booksTable? after.store

section Books

variable [Books σ] {s t : σ}

theorem HasOwnBooks.of_table (held : HasOwnBooks s) (table : booksTable? t = booksTable? s) :
    HasOwnBooks t := by
  obtain ⟨own, there, made⟩ := held
  exact ⟨own, table.trans there, made⟩

theorem KeptBooks.prepared (kept : KeptBooks s) (prepared : PreparesBooks s t) : KeptBooks t := by
  rcases prepared.table with same | ⟨-, own⟩
  · unfold KeptBooks HasOwnBooks
    rw [same, prepared.rows]
    exact kept
  · exact .inr own

theorem PreparesBooks.unchanged (prepared : PreparesBooks s t) (there : booksTable? s ≠ none) :
    booksTable? t = booksTable? s := by
  rcases prepared.table with same | ⟨absent, -⟩
  · exact same
  · exact absurd absent there

theorem KeptBooks.own (kept : KeptBooks s) (there : booksTable? s ≠ none) : HasOwnBooks s := by
  rcases kept with ⟨absent, -⟩ | own
  · exact absurd absent there
  · exact own

end Books

theorem OwnBooks.kept [Server σ] [Bookkeeping σ] {s : σ} (own : OwnBooks s) : KeptBooks s := by
  rcases own with absent | ⟨db, before, after, absent, made, there, same⟩
  · exact .inl absent
  · have prepared := (History.ensure_prepares db (.start before)).store
    rw [made] at prepared
    rcases prepared.table with unchanged | ⟨-, own⟩
    · exact absurd (unchanged.trans absent) there
    · exact .inr (own.of_table same)

end Kept

/-! ### Stores and units to look at -/

/-- A handle of the only schema of a store. -/
def sqliteMain : Database :=
  { driver := .sqlite, name := "main" }

theorem sqliteMain_isMain : sqliteMain.IsMain :=
  ⟨rfl, by decide +kernel⟩

theorem Store.ownBooks_of_absent {s : Store} (absent : s.table? bookkeepingName = none)
    (bare : s.ledger = .empty) : OwnBooks s := by
  refine .inl ⟨absent, ?_⟩
  show s.ledger.rows = []
  rw [bare]
  rfl

theorem Store.ownBooks_of_entry {s : Store}
    (held : s.table? bookkeepingName = some (bookkeepingEntry [unitIndex])) : OwnBooks s := by
  obtain ⟨count, t, ran, made⟩ := creation_vacant (s := fresh "") ⟨rfl, rfl, rfl, rfl⟩
  have unseen : Server.tableExists sqliteMain (fresh "") bookkeepingName = .ok false :=
    tableExists_absent sqliteMain_isMain rfl
  have ensured := History.ensure_absent (s := .start (fresh "")) rfl unseen ran
  refine .inr ⟨_, fresh "", _, rfl, ensured, ?_, held.trans made.symm⟩
  rw [Session.start]
  change t.table? bookkeepingName ≠ none
  rw [made]
  exact Option.some_ne_none _

/-- A store in which a manager made the bookkeeping table, with these rows. -/
def Store.withLedger (ledger : Ledger) : Store :=
  { fresh "2024-01-01 00:00:00" with
    tables := [bookkeepingEntry [unitIndex]]
    ledger }

theorem Store.withLedger_ownBooks (ledger : Ledger) : OwnBooks (withLedger ledger) := by
  refine ownBooks_of_entry ?_
  have named : sameLetters bookkeepingName bookkeepingName = true := by simp [sameLetters]
  exact List.find?_cons_of_pos named

def MigrationUnit.idle (id : UInt64) (name : String) : MigrationUnit :=
  { id, name, version := "0.1.0", up := fun s => (.ok (), s), down := fun s => (.ok (), s) }

theorem MigrationUnit.idle_leavesBooks (id : UInt64) (name : String) :
    (idle id name).LeavesBooks := by
  intro d s
  cases d <;> exact ⟨rfl, rfl⟩

def Runner.orderRunner : Runner :=
  { db := sqliteMain
    registry := { units := [.idle 2 "orders"] }
    policy := .carryOn }

theorem Runner.orderRunner_leavesBooks : ∀ u ∈ orderRunner.registry.units, u.LeavesBooks :=
  List.forall_mem_singleton.2 (MigrationUnit.idle_leavesBooks 2 "orders")

/-! ### The effect of a turn -/

section Turn

variable {σ : Type}

/-- The rows before and after the record of a unit was written or erased. Without a row number
left nothing is written. -/
inductive Booked (u : MigrationUnit σ) (before after : Journal) : Direction → Prop where
  | written {key : Int64} {r : Row} (stored : storedId u.id = .ok key) (room : before.room ≠ 0)
      (record : r.Records key u.name MigrationRecord.migratedStatus u.version)
      (rows : after = before.write r) : Booked u before after .up
  | full (room : before.room = 0) (rows : after = before) : Booked u before after .up
  | erased {key : Int64} {room : Nat} (stored : storedId u.id = .ok key)
      (more : before.room ≤ room) (rows : after = before.erase key room) :
    Booked u before after .down

namespace Runner

inductive TurnEffect [Books σ] (d : Direction) (u : MigrationUnit σ) (s : Session σ) :
    Except MigrationError Turn × Session σ → Prop where
  | stopped {e : MigrationError} {t : Session σ} (calls : t.calls = s.calls)
      (rows : journal t.store = journal s.store) :
    TurnEffect d u s (.error e, t)
  | skipped {t : Session σ} (calls : t.calls = s.calls) (rows : journal t.store = journal s.store)
      (settled : (journal s.store).recorded u.id = (d == .up)) :
    TurnEffect d u s (.ok .skipped, t)
  | failed {t : Session σ} {cause : MigrationError} {before : σ}
      (calls : t.calls = s.calls ++ [{ direction := d, id := u.id, before, succeeded := false }])
      (rows : journal t.store = journal s.store)
      (pending : (journal s.store).recorded u.id = (d == .down)) :
    TurnEffect d u s (.ok (.failed cause), t)
  | applied {t : Session σ} {before : σ}
      (calls : t.calls = s.calls ++ [{ direction := d, id := u.id, before, succeeded := true }])
      (pending : (journal s.store).recorded u.id = (d == .down))
      (booked : Booked u (journal s.store) (journal t.store) d) :
    TurnEffect d u s (.ok .applied, t)

variable [Server σ] [Bookkeeping σ]

theorem insert_booked (db : Database) {u : MigrationUnit σ} {s : Session σ} {key : Int64}
    (ready : s.ready = true) (stored : storedId u.id = .ok key) (own : HasOwnBooks s.store)
    (absent : (journal s.store).recorded u.id = false) :
    ∃ result t, History.insert db u.id u.name u.version s = (result, { s with store := t }) ∧
      booksTable? t = booksTable? s.store ∧ Booked u (journal s.store) (journal t) .up ∧
      (result = .ok () ∨ ∃ e, result = .error e ∧ journal t = journal s.store) := by
  have wrote := writing own (Journal.count_of_unrecorded stored absent) u.name
    MigrationRecord.migratedStatus u.version
  rw [History.insert_ready db ready stored]
  dsimp only
  generalize Server.insertRecord s.store key u.name MigrationRecord.migratedStatus u.version =
    outcome at wrote
  cases wrote with
  | full room rows table =>
    exact ⟨_, _, rfl, table, .full room rows, .inr ⟨_, rfl, rows⟩⟩
  | written room record rows table =>
    exact ⟨_, _, rfl, table, .written stored room record rows, .inl rfl⟩

theorem book_booked (db : Database) {u : MigrationUnit σ} {d : Direction} {s : Session σ}
    {key : Int64} (ready : s.ready = true) (stored : storedId u.id = .ok key)
    (own : HasOwnBooks s.store)
    (pending : (journal s.store).recorded u.id = (d == .down)) :
    booksTable? (book db u d s).2.store = booksTable? s.store ∧
      Booked u (journal s.store) (journal (book db u d s).2.store) d := by
  cases d with
  | up =>
    obtain ⟨result, t, wrote, table, booked, -⟩ := insert_booked db ready stored own pending
    have after : (book db u .up s).2 = (History.insert db u.id u.name u.version s).2 := rfl
    rw [after, wrote]
    exact ⟨table, booked⟩
  | down =>
    have after : (book db u .down s).2 = (History.delete db u.id s).2 := rfl
    obtain ⟨-, ⟨room, more, rows⟩, table⟩ := erasing own key
    rw [after, History.delete_ready db ready stored]
    exact ⟨table, .erased stored more rows⟩

/-- A turn of a unit that leaves the books alone changes the rows of that unit only, and the
books stay kept. Where the bookkeeping table is there, it stays as it is. -/
theorem turn_books (db : Database) (d : Direction) {u : MigrationUnit σ} (leaves : u.LeavesBooks)
    {s : Session σ} (kept : KeptBooks s.store) :
    TurnEffect d u s (turn db d u s) ∧ KeptBooks (turn db d u s).2.store ∧
      (booksTable? s.store ≠ none →
        booksTable? (turn db d u s).2.store = booksTable? s.store) := by
  have went := turn_cases db d u s
  generalize turn db d u s = outcome at went
  cases went with
  | stopped prepared =>
    exact ⟨.stopped prepared.calls prepared.store.rows, kept.prepared prepared.store,
      prepared.store.unchanged⟩
  | skipped asked =>
    have settled := asked.answer
    rw [asked.prepared.store.rows] at settled
    exact ⟨.skipped asked.prepared.calls asked.prepared.store.rows settled,
      kept.prepared asked.prepared.store, asked.prepared.store.unchanged⟩
  | @failed t cause asked ran =>
    obtain ⟨rows, table⟩ := leaves d t.store
    have own := (kept.prepared asked.prepared.store).own asked.held
    have pending := asked.answer
    rw [asked.prepared.store.rows] at pending
    have calls : (started u d t).calls =
        s.calls ++ [{ direction := d, id := u.id, before := t.store, succeeded := false }] := by
      rw [← asked.prepared.calls, started_calls, ran]
      rfl
    exact ⟨.failed calls (rows.trans asked.prepared.store.rows) pending,
      .inr (own.of_table table),
      fun there => table.trans (asked.prepared.store.unchanged there)⟩
  | @applied t asked ran =>
    obtain ⟨rows, table⟩ := leaves d t.store
    have own := (kept.prepared asked.prepared.store).own asked.held
    obtain ⟨key, stored⟩ := asked.stored
    have pending := asked.answer
    have calls : (started u d t).calls =
        s.calls ++ [{ direction := d, id := u.id, before := t.store, succeeded := true }] := by
      rw [← asked.prepared.calls, started_calls, ran]
      rfl
    have more : (book db u d (started u d t)).2.calls = (started u d t).calls :=
      book_calls db d asked.ready stored
    have after : journal (started u d t).store = journal s.store :=
      rows.trans asked.prepared.store.rows
    rw [asked.prepared.store.rows] at pending
    obtain ⟨same, booked⟩ := book_booked db (s := started u d t) asked.ready stored
      (own.of_table table) (by rw [after, pending])
    rw [after] at booked
    exact ⟨.applied (more.trans calls) pending booked,
      .inr (own.of_table (same.trans table)),
      fun there => same.trans (table.trans (asked.prepared.store.unchanged there))⟩

theorem turn_effect (db : Database) (d : Direction) {u : MigrationUnit σ} (leaves : u.LeavesBooks)
    {s : Session σ} (kept : KeptBooks s.store) :
    TurnEffect d u s (turn db d u s) ∧ KeptBooks (turn db d u s).2.store := by
  obtain ⟨effect, stays, -⟩ := turn_books db d leaves kept
  exact ⟨effect, stays⟩

end Runner

end Turn

end SchemaShift
