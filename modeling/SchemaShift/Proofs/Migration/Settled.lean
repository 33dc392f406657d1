import SchemaShift.Proofs.Migration.History
import SchemaShift.Proofs.Migration.HistoryMap

/-!
# Requests and books in order

A manager that knows the books keeps them in order, whatever it is asked for and whatever the
actions of units do besides. A manager with a handle of another schema may be refused, and then
nothing changes.
-/

namespace SchemaShift

open Text Store Session Books Bookkeeping OrderlyBooks

variable {σ : Type}

def MigrationUnit.LeavesClock [OrderlyBooks σ] (u : MigrationUnit σ) : Prop :=
  ∀ d s, TellsTime s → TellsTime (u.action d s).2

theorem Session.run_return {α β : Type} (m : ManagerM σ α) (f : α → β) (s : Session σ) :
    ((m >>= fun a => pure (f a)) s).2 = (m s).2 := by
  rw [run_bind]
  rcases m s with ⟨e | a, t⟩ <;> rfl

theorem Session.refused_of_return {α β : Type} {m : ManagerM σ α} {f : α → β} {s t : Session σ}
    {e : MigrationError} (refused : (m >>= fun a => pure (f a)) s = (.error e, t)) :
    m s = (.error e, t) := by
  rw [run_bind] at refused
  rcases went : m s with ⟨failure | a, after⟩
  · rw [went] at refused
    cases refused
    rfl
  · rw [went] at refused
    cases refused

variable [Server σ]

namespace History

theorem list_ensured {db : Database} {s t : Session σ}
    (ensured : ensure db s = (.ok (), t)) (ready : t.ready = true) : list db s = list db t := by
  unfold list
  rw [run_bind, run_bind, ensured, ensure_ready db ready]

variable [OrderlyBookkeeping σ]

section Settled

variable {s : Session σ} (settled : s.Settled) (db : Database)
include settled

theorem perform_settled (call : HistoryCall) : (call.perform db s).2.Settled := by
  obtain ⟨reply, u, performed, stays, -⟩ : call.Served db s := HistoryCall.served settled call
  rw [performed]
  exact stays

theorem has_settled (id : UInt64) : (has db id s).2.Settled :=
  run_return (has db id) Reply.told s ▸ perform_settled settled db (.has id)

theorem insert_settled (id : UInt64) (name version : String) :
    (insert db id name version s).2.Settled :=
  run_return (insert db id name version) (fun _ => Reply.done) s ▸
    perform_settled settled db (.insert id name version)

theorem delete_settled (id : UInt64) : (delete db id s).2.Settled :=
  run_return (delete db id) Reply.told s ▸ perform_settled settled db (.delete id)

theorem list_settled : (list db s).2.Settled :=
  run_return (list db) Reply.listed s ▸ perform_settled settled db .list

end Settled

section Unmade

variable {s : Session σ} (ready : s.ready = true) (absent : booksTable? s.store = none)
  (db : Database)
include ready absent

theorem has_unmade (id : UInt64) : ∃ e, has db id s = (.error e, s) := by
  have reply : _ ∨ ∃ e, (HistoryCall.has id).perform db s = (.error e, s) :=
    HistoryCall.perform_unmade ready absent (.has id)
  obtain ensures | ⟨e, refused⟩ := reply
  · cases ensures
  · exact ⟨e, refused_of_return refused⟩

theorem list_unmade : ∃ e, list db s = (.error e, s) := by
  have reply : _ ∨ ∃ e, HistoryCall.list.perform db s = (.error e, s) :=
    HistoryCall.perform_unmade ready absent .list
  obtain ensures | ⟨e, refused⟩ := reply
  · cases ensures
  · exact ⟨e, refused_of_return refused⟩

end Unmade

end History

/-! ### Requests -/

namespace Runner

def statusOf (records : List MigrationRecord) (u : MigrationUnit σ) : UnitStatus :=
  { id := u.id
    name := u.name
    version := u.version
    record := (records.filter fun record => record.migrateId == u.id).getLast? }

theorem status_eq (r : Runner σ) (s : Session σ) :
    r.status s =
      match History.list r.db s with
      | (.ok records, t) => (.ok (r.registry.units.map (statusOf records)), t)
      | (.error e, t) => (.error e, t) := by
  unfold status
  rw [run_bind]
  rcases History.list r.db s with ⟨e | records, t⟩ <;> rfl

theorem status_stopped {r : Runner σ} {s t : Session σ} {e : MigrationError}
    (stopped : History.ensure r.db s = (.error e, t)) : r.status s = (.error e, t) := by
  rw [status_eq, History.list, run_bind, stopped]

variable [OrderlyBookkeeping σ]

theorem book_settled {s : Session σ} (settled : s.Settled) (db : Database) (u : MigrationUnit σ)
    (d : Direction) : (book db u d s).2.Settled := by
  cases d with
  | up => exact History.insert_settled settled db u.id u.name u.version
  | down => exact History.delete_settled settled db u.id

theorem started_settled {s : Session σ} (settled : s.Settled) {u : MigrationUnit σ}
    (leaves : u.LeavesBooks) (clock : u.LeavesClock) (d : Direction) :
    (started u d s).Settled := by
  obtain ⟨rows, table⟩ := leaves d s.store
  exact ⟨settled.ready, settled.held.of_table table, rows.symm ▸ settled.sound,
    clock d s.store settled.clock⟩

theorem turn_settled {s : Session σ} (settled : s.Settled) (db : Database) (d : Direction)
    {u : MigrationUnit σ} (leaves : u.LeavesBooks) (clock : u.LeavesClock) :
    (turn db d u s).2.Settled := by
  have asked := History.has_settled settled db u.id
  unfold turn
  rw [run_bind]
  generalize History.has db u.id s = answer at asked
  obtain ⟨e | recorded, t⟩ := answer
  · exact asked
  · have after := started_settled asked leaves clock d
    dsimp only
    split
    · rw [run_bind, run_runAction]
      dsimp only
      cases (u.action d t.store).1 with
      | error cause => exact after
      | ok done =>
        have booked := book_settled after db u d
        dsimp only
        rw [run_bind]
        generalize book db u d (started u d t) = wrote at booked
        obtain ⟨e | done, m⟩ := wrote
        · exact booked
        · exact booked
    · exact asked

theorem turn_unmade (db : Database) (d : Direction) (u : MigrationUnit σ) {s : Session σ}
    (ready : s.ready = true) (absent : booksTable? s.store = none) :
    ∃ e, turn db d u s = (.error e, s) := by
  obtain ⟨e, refused⟩ := History.has_unmade ready absent db u.id
  refine ⟨e, ?_⟩
  rw [turn, run_bind, refused]

theorem run_unmade (r : Runner σ) (d : Direction) {s : Session σ} (ready : s.ready = true)
    (absent : booksTable? s.store = none) : (r.run d s).2 = s := by
  rw [run_eq, History.ensure_ready r.db ready]
  dsimp only
  cases r.registry.units with
  | nil => rfl
  | cons u us =>
    obtain ⟨e, stopped⟩ := turn_unmade r.db d u ready absent
    rw [batch_cons, stopped]

end Runner

namespace Request

variable {r : Runner σ} {s m : Session σ}

theorem perform_stopped {e : MigrationError} (stopped : History.ensure r.db s = (.error e, m))
    (q : Request σ) : (q.perform r s).2 = m := by
  have has (id : UInt64) : History.has r.db id s = (.error e, m) := by
    rw [History.has, run_bind, stopped]
  have runs (d : Direction) : (r.run d s).2 = m := by
    rw [Runner.run_eq, stopped]
  cases q with
  | up => exact runs .up
  | down => exact runs .down
  | has id => exact congrArg Prod.snd (has id)
  | create u => rw [perform, Runner.create, run_bind, has]
  | status => exact congrArg Prod.snd (Runner.status_stopped stopped)

theorem perform_ensured (ensured : History.ensure r.db s = (.ok (), m)) (ready : m.ready = true)
    (q : Request σ) : q.perform r s = q.perform r m := by
  have again := History.ensure_ready r.db ready
  have has (id : UInt64) : History.has r.db id s = History.has r.db id m := by
    rw [History.has, run_bind, run_bind, ensured, again]
  have runs (d : Direction) : r.run d s = r.run d m := by
    rw [Runner.run_eq, Runner.run_eq, ensured, again]
  cases q with
  | up => exact congrArg (fun went => ([], went.2)) (runs .up)
  | down => exact congrArg (fun went => ([], went.2)) (runs .down)
  | has id => exact congrArg (fun went => ([], went.2)) (has id)
  | create u =>
    have created : r.create u s = r.create u m := by
      rw [Runner.create, run_bind, run_bind, has]
    rw [perform, perform, created]
  | status =>
    have listed : r.status s = r.status m := by
      rw [Runner.status_eq, Runner.status_eq, History.list, run_bind, run_bind, ensured, again]
    exact congrArg (fun went => ([], went.2)) listed

variable [OrderlyBookkeeping σ]

theorem perform_unmade (ready : m.ready = true) (absent : booksTable? m.store = none)
    (q : Request σ) : (q.perform r m).2 = m := by
  cases q with
  | up => exact r.run_unmade .up ready absent
  | down => exact r.run_unmade .down ready absent
  | has id =>
    obtain ⟨e, refused⟩ := History.has_unmade ready absent r.db id
    exact congrArg Prod.snd refused
  | create u =>
    obtain ⟨e, refused⟩ := History.has_unmade ready absent r.db u.id
    rw [perform, Runner.create, run_bind, refused]
  | status =>
    obtain ⟨e, refused⟩ := History.list_unmade ready absent r.db
    rw [perform, Runner.status_eq, refused]

theorem perform_settled (settled : m.Settled) (leaves : ∀ u ∈ r.registry.units, u.LeavesBooks)
    (clock : ∀ u ∈ r.registry.units, u.LeavesClock) (q : Request σ) :
    (q.perform r m).2.Settled := by
  have runs (d : Direction) : (r.run d m).2.Settled := by
    rw [Runner.run_eq, History.ensure_ready r.db settled.ready]
    refine Runner.batch_preserves ?_ r.policy settled
    exact fun u member s settled =>
      Runner.turn_settled settled r.db d (leaves u member) (clock u member)
  cases q with
  | up => exact runs .up
  | down => exact runs .down
  | has id => exact History.has_settled settled r.db id
  | create u =>
    have asked := History.has_settled settled r.db u.id
    rw [perform, Runner.create, run_bind]
    generalize History.has r.db u.id m = answer at asked
    obtain ⟨e | recorded, t⟩ := answer
    · exact asked
    · cases recorded with
      | true => exact asked
      | false =>
        have written := History.insert_settled asked r.db u.id u.name u.version
        dsimp only
        rw [if_neg Bool.false_ne_true, run_bind]
        generalize History.insert r.db u.id u.name u.version t = wrote at written
        obtain ⟨e | done, after⟩ := wrote
        · exact written
        · exact written
  | status =>
    have listed := History.list_settled settled r.db
    rw [perform, Runner.status_eq]
    generalize History.list r.db m = answer at listed
    obtain ⟨e | records, t⟩ := answer
    · exact listed
    · exact listed

/-- A request leaves the books in order, or it comes from a handle that does not see them and
changes nothing. -/
theorem perform_ordered (order : OrderedBooks s.store) (sound : (journal s.store).Sound)
    (clock : TellsTime s.store) (known : Reaches σ r.db → s.ready = true → MadeBooks s.store)
    (leaves : ∀ u ∈ r.registry.units, u.LeavesBooks ∧ u.LeavesClock) (q : Request σ) :
    (q.perform r s).2.Settled ∨ ¬Reaches σ r.db ∧ (q.perform r s).2.store = s.store := by
  have went := History.ensure_ensured r.db order known
  rcases outcome : History.ensure r.db s with ⟨result, m⟩
  rw [outcome] at went
  cases went with
  | stopped foreign =>
    rw [perform_stopped outcome]
    exact .inr ⟨foreign, rfl⟩
  | unmade foreign ready store absent =>
    rw [perform_ensured outcome ready, perform_unmade ready (store ▸ absent)]
    exact .inr ⟨foreign, store⟩
  | made ready rows tells held =>
    have settled : m.Settled := ⟨ready, held, rows ▸ sound, tells clock⟩
    rw [perform_ensured outcome ready]
    exact .inl (perform_settled settled (fun u member => (leaves u member).1)
      (fun u member => (leaves u member).2) q)

end Request

/-- What the managers of a history know about the books. -/
def World.office (w : World σ) : Office σ :=
  { store := w.store, ready := w.ready }

theorem World.visit_office (w : World σ) (v : Visit σ) : (w.visit v).office =
    w.office.after v.manager (v.request.perform v.runner (w.session v.manager)).2 := by
  unfold visit
  rcases v.request.perform v.runner (w.session v.manager) with ⟨created, s⟩
  rfl

variable [OrderlyBookkeeping σ]

namespace Office

theorem Steady.after {handles : Nat → Database} {o : Office σ} (steady : o.Steady handles)
    {manager : Nat} {s : Session σ}
    (went : s.Settled ∨ ¬Reaches σ (handles manager) ∧ s.store = o.store) :
    (o.after manager s).Steady handles := by
  rcases went with settled | ⟨foreign, same⟩
  · exact .settled settled manager
  · exact steady.unchanged same fun reaches => absurd reaches foreign

end Office

namespace World

theorem visit_steady {handles : Nat → Database} {v : Visit σ}
    (own : v.runner.db = handles v.manager)
    (leaves : ∀ u ∈ v.runner.registry.units, u.LeavesBooks ∧ u.LeavesClock) {w : World σ}
    (steady : w.office.Steady handles) : (w.visit v).office.Steady handles := by
  have known : Reaches σ v.runner.db → (w.session v.manager).ready = true →
      MadeBooks (w.session v.manager).store := by
    rw [own]
    exact steady.known v.manager
  have went := v.request.perform_ordered (s := w.session v.manager) steady.order steady.sound
    steady.clock known leaves
  rw [own] at went
  rw [visit_office]
  exact steady.after went

end World

end SchemaShift
