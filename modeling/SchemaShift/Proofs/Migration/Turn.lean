import SchemaShift.Migration.Runner
import SchemaShift.Proofs.Migration.Bookkeeping

/-!
# The turn of a unit

Each operation of a history first prepares the bookkeeping table. `turn_cases` lists how a turn
can go: it stops before the action, or it passes the unit over, or the action was started on a
state in which the record of the unit called for it.
-/

namespace SchemaShift

open Text Store Session Books Bookkeeping

variable {σ : Type}

/-! ### Starting an action -/

namespace Runner

theorem isPending_iff (recorded : Bool) (d : Direction) :
    isPending recorded d = true ↔ recorded = (d == .down) := by
  cases d <;> cases recorded <;> decide

def started (u : MigrationUnit σ) (d : Direction) (s : Session σ) : Session σ :=
  (runAction u d s).2

theorem run_runAction (u : MigrationUnit σ) (d : Direction) (s : Session σ) :
    runAction u d s = (.ok (u.action d s.store).1, started u d s) := rfl

theorem started_calls (u : MigrationUnit σ) (d : Direction) (s : Session σ) :
    (started u d s).calls = s.calls ++
      [{ direction := d, id := u.id, before := s.store,
         succeeded := (u.action d s.store).1.isOk }] := rfl

/-- The call is one of an action of the unit, and the record of the unit called for it. -/
structure Calls [Books σ] (d : Direction) (u : MigrationUnit σ) (c : Call σ) : Prop where
  direction : c.direction = d
  id : c.id = u.id
  pending : (journal c.before).recorded c.id = (d == .down)

/-- The calls of a turn, whatever actions do to the books. -/
inductive TurnCalls [Books σ] (d : Direction) (u : MigrationUnit σ) (s : Session σ) :
    Except MigrationError Turn × Session σ → Prop where
  | stopped {e : MigrationError} {t : Session σ} (calls : t.calls = s.calls) :
    TurnCalls d u s (.error e, t)
  | skipped {t : Session σ} (calls : t.calls = s.calls) : TurnCalls d u s (.ok .skipped, t)
  | failed {t : Session σ} {cause : MigrationError} {c : Call σ}
      (calls : t.calls = s.calls ++ [c]) (called : Calls d u c) (succeeded : c.succeeded = false)
      (ran : u.action d c.before = (.error cause, t.store)) :
    TurnCalls d u s (.ok (.failed cause), t)
  | applied {t : Session σ} {c : Call σ} (calls : t.calls = s.calls ++ [c])
      (called : Calls d u c) (succeeded : c.succeeded = true) :
    TurnCalls d u s (.ok .applied, t)

end Runner

variable [Server σ]

/-! ### Making sure of the table -/

namespace History

theorem ensure_eq (db : Database) (s : Session σ) :
    ensure db s =
      if s.ready then (.ok (), s)
      else
        match Server.tableExists db s.store bookkeepingName with
        | .error e => (.error e, s)
        | .ok true => (.ok (), { s with ready := true })
        | .ok false =>
          match makeTable db s.store with
          | (.error e, t) => (.error e, { s with store := t })
          | (.ok _, t) => (.ok (), { s with store := t, ready := true }) := by
  unfold ensure
  rw [run_bind, run_get]
  dsimp only
  split
  · rfl
  · rw [run_bind, run_ask]
    cases Server.tableExists db s.store bookkeepingName with
    | error e => rfl
    | ok present =>
      cases present with
      | true => rfl
      | false =>
        simp only [Bool.false_eq_true, if_false, run_bind, run_perform]
        rcases makeTable db s.store with ⟨e | count, t⟩
        · rfl
        · rfl

theorem ensure_seen {db : Database} {s : Session σ}
    (there : Server.tableExists db s.store bookkeepingName = .ok true) :
    ensure db s = (.ok (), { s with ready := true }) := by
  rw [ensure_eq]
  split
  · rename_i ready
    rw [← ready]
  · rw [there]

theorem ensure_absent {db : Database} {s : Session σ} {count : Nat} {t : σ}
    (unready : s.ready = false) (absent : Server.tableExists db s.store bookkeepingName = .ok false)
    (ran : makeTable db s.store = (.ok count, t)) :
    ensure db s = (.ok (), { s with store := t, ready := true }) := by
  rw [ensure_eq, if_neg (by simp [unready]), absent]
  simp only [ran]

theorem ensure_ready (db : Database) {s : Session σ} (ready : s.ready = true) :
    ensure db s = (.ok (), s) := by
  rw [ensure_eq, if_pos ready]

theorem ensure_ok {db : Database} {s t : Session σ} (ran : ensure db s = (.ok (), t)) :
    t.ready = true := by
  rw [ensure_eq] at ran
  split at ran
  · rename_i ready
    cases ran
    exact ready
  · split at ran
    · cases ran
    · cases ran
      rfl
    · split at ran
      · cases ran
      · cases ran
        rfl

/-- Making sure of the table changes nothing, or it ran the statements for the table. -/
theorem ensure_leaves (db : Database) (s : Session σ) :
    (ensure db s).2.calls = s.calls ∧
      ((ensure db s).2.store = s.store ∨ (ensure db s).2.store = (makeTable db s.store).2) := by
  rw [ensure_eq]
  split
  · exact ⟨rfl, .inl rfl⟩
  · split
    · exact ⟨rfl, .inl rfl⟩
    · exact ⟨rfl, .inl rfl⟩
    · split
      · rename_i ran
        rw [ran]
        exact ⟨rfl, .inr rfl⟩
      · rename_i ran
        rw [ran]
        exact ⟨rfl, .inr rfl⟩

section Ready

variable {id : UInt64} {key : Int64} {s : Session σ} (db : Database) (ready : s.ready = true)
include ready

theorem list_ready :
    list db s = (refusal (Server.listRecords s.store) >>= MigrationRecord.ofRows, s) := by
  unfold list
  rw [run_bind, ensure_ready db ready]
  simp only [run_bind, run_ask]
  cases refusal (Server.listRecords s.store) <;> rfl

variable (stored : storedId id = .ok key)
include stored

theorem has_ready :
    has db id s = ((refusal (Server.countRecords s.store key)).map (· != 0), s) := by
  unfold has
  rw [run_bind, ensure_ready db ready]
  simp only [run_bind, run_lift, stored, run_ask]
  cases Server.countRecords s.store key <;> rfl

theorem insert_ready (name version : String) :
    insert db id name version s =
      let outcome := Server.insertRecord s.store key name MigrationRecord.migratedStatus version
      (refusal outcome.1, { s with store := outcome.2 }) := by
  unfold insert
  rw [run_bind, ensure_ready db ready]
  simp only [run_bind, run_lift, stored, run_perform]

theorem delete_ready :
    delete db id s =
      let outcome := Server.deleteRecord s.store key
      ((refusal outcome.1).map (· != 0), { s with store := outcome.2 }) := by
  unfold delete
  rw [run_bind, ensure_ready db ready]
  simp only [run_bind, run_lift, stored, run_perform]
  cases (Server.deleteRecord s.store key).1 <;> rfl

end Ready

end History

namespace Runner

theorem book_ok (db : Database) (u : MigrationUnit σ) (d : Direction) (s : Session σ) :
    (book db u d s).1 = .ok () := by
  cases d <;> rfl

theorem book_calls (db : Database) {u : MigrationUnit σ} (d : Direction) {s : Session σ}
    {key : Int64} (ready : s.ready = true) (stored : storedId u.id = .ok key) :
    (book db u d s).2.calls = s.calls := by
  cases d with
  | up =>
    show (History.insert db u.id u.name u.version s).2.calls = s.calls
    rw [History.insert_ready db ready stored]
  | down =>
    show (History.delete db u.id s).2.calls = s.calls
    rw [History.delete_ready db ready stored]

theorem book_ready (db : Database) {u : MigrationUnit σ} (d : Direction) {s : Session σ}
    {key : Int64} (ready : s.ready = true) (stored : storedId u.id = .ok key) :
    (book db u d s).2.ready = true := by
  cases d with
  | up =>
    show (History.insert db u.id u.name u.version s).2.ready = true
    rw [History.insert_ready db ready stored]
    exact ready
  | down =>
    show (History.delete db u.id s).2.ready = true
    rw [History.delete_ready db ready stored]
    exact ready

end Runner

/-! ### Looking into the books -/

section Laws

variable [Bookkeeping σ]

theorem PreparesBooks.refl (s : σ) : PreparesBooks s s :=
  ⟨rfl, .inl rfl⟩

/-- A manager made sure of the bookkeeping table and did nothing else. -/
structure Session.Prepares (s t : Session σ) : Prop where
  calls : t.calls = s.calls
  store : PreparesBooks s.store t.store

namespace History

theorem ensure_prepares (db : Database) (s : Session σ) : s.Prepares (ensure db s).2 := by
  obtain ⟨calls, same | made⟩ := ensure_leaves db s
  · exact ⟨calls, same ▸ .refl s.store⟩
  · exact ⟨calls, made ▸ making db s.store⟩

/-- Making sure of the table fails, or the manager knows about it afterwards. -/
theorem ensure_cases (db : Database) (s : Session σ) :
    ∃ t, s.Prepares t ∧
      ((∃ e, ensure db s = (.error e, t)) ∨ ensure db s = (.ok (), t) ∧ t.ready = true) := by
  have prepared := ensure_prepares db s
  rcases ran : ensure db s with ⟨e | u, t⟩ <;> rw [ran] at prepared
  · exact ⟨t, prepared, .inl ⟨e, rfl⟩⟩
  · exact ⟨t, prepared, .inr ⟨rfl, ensure_ok ran⟩⟩

/-- The manager made sure of the table, and it has the answer about the unit. -/
structure Answers (db : Database) (id : UInt64) (s t : Session σ) (recorded : Bool) : Prop where
  ensured : ensure db s = (.ok (), t)
  prepared : s.Prepares t
  ready : t.ready = true
  stored : ∃ key, storedId id = .ok key
  held : booksTable? t.store ≠ none
  answer : (journal t.store).recorded id = recorded

/-- Asking for a record prepares the bookkeeping table, and the answer is the truth. -/
theorem has_cases (db : Database) (id : UInt64) (s : Session σ) :
    (∃ e t, has db id s = (.error e, t) ∧ s.Prepares t) ∨
      ∃ recorded t, has db id s = (.ok recorded, t) ∧ Answers db id s t recorded := by
  unfold has
  rw [run_bind]
  obtain ⟨t, prepared, ⟨e, stopped⟩ | ⟨ensured, ready⟩⟩ := ensure_cases db s
  · rw [stopped]
    exact .inl ⟨e, t, rfl, prepared⟩
  · rw [ensured]
    simp only [run_bind, run_lift]
    cases stored : storedId id with
    | error e => exact .inl ⟨e, t, rfl, prepared⟩
    | ok key =>
      simp only [run_ask, counting]
      cases answers : booksAnswer t.store with
      | false => exact .inl ⟨_, t, rfl, prepared⟩
      | true =>
        refine .inr ⟨(journal t.store).recorded id, t, ?_, ?_⟩
        · rw [← Journal.recorded_eq_count stored]
          rfl
        · exact ⟨ensured, prepared, ready, ⟨key, stored⟩, there_of_answers answers, rfl⟩

end History

/-! ### Turns -/

namespace Runner

inductive TurnCases (db : Database) (d : Direction) (u : MigrationUnit σ) (s : Session σ) :
    Except MigrationError Turn × Session σ → Prop where
  | stopped {e : MigrationError} {t : Session σ} (prepared : s.Prepares t) :
    TurnCases db d u s (.error e, t)
  | skipped {t : Session σ} (asked : History.Answers db u.id s t (d == .up)) :
    TurnCases db d u s (.ok .skipped, t)
  | failed {t : Session σ} {cause : MigrationError}
      (asked : History.Answers db u.id s t (d == .down))
      (ran : (u.action d t.store).1 = .error cause) :
    TurnCases db d u s (.ok (.failed cause), started u d t)
  | applied {t : Session σ} (asked : History.Answers db u.id s t (d == .down))
      (ran : (u.action d t.store).1 = .ok ()) :
    TurnCases db d u s (.ok .applied, (book db u d (started u d t)).2)

theorem turn_cases (db : Database) (d : Direction) (u : MigrationUnit σ) (s : Session σ) :
    TurnCases db d u s (turn db d u s) := by
  unfold turn
  rw [run_bind]
  rcases History.has_cases db u.id s with ⟨e, t, failed, prepared⟩ | ⟨recorded, t, asked, answers⟩
  · rw [failed]
    exact .stopped prepared
  · rw [asked]
    dsimp only
    split
    · rename_i pending
      rw [isPending_iff] at pending
      subst pending
      rw [run_bind, run_runAction]
      dsimp only
      cases ran : (u.action d t.store).1 with
      | error cause => exact .failed answers ran
      | ok done =>
        have booked := book_ok db u d (started u d t)
        have result : TurnCases db d u s (.ok .applied, _) := .applied answers ran
        simp only [run_bind]
        cases wrote : book db u d (started u d t) with
        | mk outcome after =>
          rw [wrote] at booked result
          cases booked
          exact result
    · rename_i settled
      have answer : recorded = (d == .up) := by
        rw [isPending_iff] at settled
        cases d <;> cases recorded <;> first | rfl | exact absurd rfl settled
      subst answer
      exact .skipped answers

theorem turn_calls (db : Database) (d : Direction) (u : MigrationUnit σ) (s : Session σ) :
    TurnCalls d u s (turn db d u s) := by
  have went := turn_cases db d u s
  generalize turn db d u s = outcome at went
  cases went with
  | stopped prepared => exact .stopped prepared.calls
  | skipped asked => exact .skipped asked.prepared.calls
  | @failed t cause asked ran =>
    have calls := started_calls u d t
    rw [asked.prepared.calls, ran] at calls
    exact .failed calls ⟨rfl, rfl, asked.answer⟩ rfl (Prod.ext ran rfl)
  | @applied t asked ran =>
    obtain ⟨key, stored⟩ := asked.stored
    have calls := started_calls u d t
    rw [asked.prepared.calls, ran,
      ← book_calls db d (s := started u d t) asked.ready stored] at calls
    exact .applied calls ⟨rfl, rfl, asked.answer⟩ rfl

end Runner

end Laws

end SchemaShift
