import SchemaShift.Proofs.Migration.History

/-!
# Exactly once

Whatever managers ask for and however actions fail, a unit is applied and reverted in turns, and
the books tell whether it is applied. Each request preserves `Tracks`, and so does a history.
-/

namespace SchemaShift

open Text Store Books Bookkeeping

variable {σ : Type}

/-- Every action was started on a store in which the record of its unit called for it. -/
def CalledFor [Books σ] (calls : List (Call σ)) : Prop :=
  ∀ c ∈ calls, (journal c.before).recorded c.id = (c.direction == .down)

theorem eventsOf_concat (calls : List (Call σ)) (c : Call σ) :
    eventsOf (calls ++ [c]) =
      eventsOf calls ++ if c.succeeded then [{ id := c.id, direction := c.direction }] else [] := by
  unfold eventsOf
  rw [List.filter_append, List.map_append]
  cases done : c.succeeded <;> simp [done]

/-! ### Turns and batches -/

variable [Server σ] [Bookkeeping σ]

namespace Runner

theorem turn_calledFor (db : Database) (d : Direction) (u : MigrationUnit σ) {s : Session σ}
    (called : CalledFor s.calls) : CalledFor (turn db d u s).2.calls := by
  have went := turn_calls db d u s
  generalize turn db d u s = outcome at went
  have started {t : Session σ} {c : Call σ} (calls : t.calls = s.calls ++ [c])
      (mine : Calls d u c) : CalledFor t.calls := by
    intro other member
    rw [calls] at member
    rcases List.mem_append.1 member with old | fresh
    · exact called other old
    · rw [List.mem_singleton.1 fresh, mine.direction]
      exact mine.pending
  cases went with
  | stopped calls => exact calls ▸ called
  | skipped calls => exact calls ▸ called
  | failed calls mine succeeded ran => exact started calls mine
  | applied calls mine succeeded => exact started calls mine

theorem turn_tracks (db : Database) (d : Direction) {u : MigrationUnit σ} (leaves : u.LeavesBooks)
    {left : Nat} {events : List Event} {s : Session σ}
    (tracks : Tracks left (events ++ eventsOf s.calls) s.store) :
    Tracks left (events ++ eventsOf (turn db d u s).2.calls) (turn db d u s).2.store := by
  obtain ⟨effect, kept⟩ := turn_effect db d leaves tracks.kept
  generalize turn db d u s = outcome at effect kept
  cases effect with
  | stopped calls rows =>
    rw [calls]
    exact tracks.same_rows kept rows
  | skipped calls rows settled =>
    rw [calls]
    exact tracks.same_rows kept rows
  | failed calls rows pending =>
    rw [calls, eventsOf_concat]
    simpa using tracks.same_rows kept rows
  | applied calls pending booked =>
    rw [calls, eventsOf_concat, if_pos rfl, ← List.append_assoc]
    exact tracks.booked kept pending booked

/-! ### Runs -/

variable {left : Nat} {events : List Event} {s : Session σ}

theorem run_calledFor (r : Runner σ) (d : Direction) (called : CalledFor s.calls) :
    CalledFor (r.run d s).2.calls := by
  obtain ⟨m, prepared, ⟨e, stopped⟩ | went⟩ := run_cases r d s
  · rw [stopped]
    exact prepared.calls ▸ called
  · rw [went]
    refine batch_preserves (P := fun s => CalledFor s.calls) ?_ r.policy ?_
    · exact fun u _ s called => turn_calledFor r.db d u called
    · exact prepared.calls ▸ called

theorem run_tracks (r : Runner σ) (d : Direction) (leaves : ∀ u ∈ r.registry.units, u.LeavesBooks)
    (tracks : Tracks left (events ++ eventsOf s.calls) s.store) :
    Tracks left (events ++ eventsOf (r.run d s).2.calls) (r.run d s).2.store := by
  obtain ⟨m, prepared, ⟨e, stopped⟩ | went⟩ := run_cases r d s
  · rw [stopped, prepared.calls]
    exact tracks.same_rows (tracks.kept.prepared prepared.store) prepared.store.rows
  · rw [went]
    refine batch_preserves
      (P := fun s => Tracks left (events ++ eventsOf s.calls) s.store) ?_ r.policy ?_
    · exact fun u member s tracks => turn_tracks r.db d (leaves u member) tracks
    · rw [prepared.calls]
      exact tracks.same_rows (tracks.kept.prepared prepared.store) prepared.store.rows

/-! ### The other requests -/

theorem has_prepares (r : Runner σ) (id : UInt64) (s : Session σ) : s.Prepares (r.has id s).2 := by
  unfold has
  rcases History.has_cases r.db id s with ⟨e, t, asked, prepared⟩ | ⟨b, t, asked, answers⟩
  · rw [asked]
    exact prepared
  · rw [asked]
    exact answers.prepared

theorem status_prepares (r : Runner σ) (s : Session σ) : s.Prepares (r.status s).2 := by
  obtain ⟨t, prepared, ⟨e, stopped⟩ | ⟨ensured, -⟩⟩ := History.ensure_cases r.db s
  · rw [status, History.list, Session.run_bind, Session.run_bind, stopped]
    exact prepared
  · rw [status, History.list, Session.run_bind, Session.run_bind, ensured]
    dsimp only
    rw [Session.run_bind, Session.run_ask]
    cases History.refusal (Server.listRecords t.store) with
    | error e => exact prepared
    | ok rows =>
      dsimp only
      rw [Session.run_lift]
      cases MigrationRecord.ofRows rows with
      | error e => exact prepared
      | ok records => exact prepared

inductive Created (u : MigrationUnit σ) (s : Session σ) :
    Except MigrationError Bool × Session σ → Prop
  | failed {e : MigrationError} {t : Session σ} (calls : t.calls = s.calls)
      (rows : journal t.store = journal s.store) :
    Created u s (.error e, t)
  | present {t : Session σ} (calls : t.calls = s.calls)
      (rows : journal t.store = journal s.store) :
    Created u s (.ok false, t)
  | recorded {t : Session σ} (calls : t.calls = s.calls)
      (absent : (journal s.store).recorded u.id = false)
      (booked : Booked u (journal s.store) (journal t.store) .up) :
    Created u s (.ok true, t)

theorem create_created (r : Runner σ) (u : MigrationUnit σ) {s : Session σ}
    (kept : KeptBooks s.store) :
    Created u s (r.create u s) ∧ KeptBooks (r.create u s).2.store := by
  unfold create
  rw [Session.run_bind]
  rcases History.has_cases r.db u.id s with ⟨e, t, asked, prepared⟩ | ⟨b, t, asked, answers⟩
  · rw [asked]
    exact ⟨.failed prepared.calls prepared.store.rows, kept.prepared prepared.store⟩
  · have prepared := answers.prepared
    rw [asked]
    cases b with
    | true =>
      exact ⟨.present prepared.calls prepared.store.rows, kept.prepared prepared.store⟩
    | false =>
      obtain ⟨key, stored⟩ := answers.stored
      have own := (kept.prepared prepared.store).own answers.held
      have settled := answers.answer
      rw [prepared.store.rows] at settled
      obtain ⟨result, after, wrote, table, booked, outcome⟩ :=
        insert_booked r.db answers.ready stored own answers.answer
      rw [prepared.store.rows] at booked
      have stays : KeptBooks after := .inr (own.of_table table)
      dsimp only
      rw [if_neg (by simp), Session.run_bind, wrote]
      rcases outcome with rfl | ⟨e, rfl, rows⟩
      · exact ⟨.recorded prepared.calls settled booked, stays⟩
      · exact ⟨.failed prepared.calls (rows.trans prepared.store.rows), stays⟩

/-! ### Asking for a record -/

/-- Asking through a handle that sees the books finds every record. -/
theorem has_recorded (r : Runner σ) (id : UInt64) (reaches : Reaches σ r.db)
    (kept : KeptBooks s.store) (recorded : (journal s.store).recorded id = true) :
    (r.has id s).1 = .ok true := by
  obtain ⟨key, stored⟩ := Journal.stored_of_recorded recorded
  rcases kept with ⟨-, bare⟩ | own
  · rw [Journal.recorded, Journal.records_bare bare] at recorded
    cases recorded
  · have ensured := History.ensure_seen (seeing reaches own)
    have found : ((journal s.store).count key != 0) = true := by
      rw [Journal.recorded_eq_count stored, recorded]
    rw [has, History.has, Session.run_bind, ensured]
    simp only [Session.run_bind, Session.run_lift, stored, Session.run_ask, counting,
      answers_of_own own, if_true]
    exact congrArg Except.ok found

theorem has_truth (r : Runner σ) {id : UInt64} {answer : Bool}
    (asked : (r.has id s).1 = .ok answer) : (journal s.store).recorded id = answer := by
  rcases History.has_cases r.db id s with ⟨e, t, failed, -⟩ | ⟨b, t, answered, answers⟩
  · rw [has, failed] at asked
    cases asked
  · rw [has, answered] at asked
    cases asked
    rw [← answers.prepared.store.rows]
    exact answers.answer

end Runner

/-! ### Visits and histories -/

theorem Request.perform_tracks {left : Nat} {events : List Event} {r : Runner σ}
    (leaves : ∀ u ∈ r.registry.units, u.LeavesBooks) {s : Session σ} (called : CalledFor s.calls)
    (tracks : Tracks left (events ++ eventsOf s.calls) s.store) (q : Request σ) :
    CalledFor (q.perform r s).2.calls ∧
      Tracks left (events ++ eventsOf (q.perform r s).2.calls ++ (q.perform r s).1)
        (q.perform r s).2.store := by
  have prepares {t : Session σ} (prepared : s.Prepares t) :
      CalledFor t.calls ∧ Tracks left (events ++ eventsOf t.calls ++ []) t.store := by
    rw [prepared.calls, List.append_nil]
    exact ⟨called, tracks.same_rows (tracks.kept.prepared prepared.store) prepared.store.rows⟩
  cases q with
  | up =>
    refine ⟨r.run_calledFor .up called, ?_⟩
    rw [perform, List.append_nil]
    exact r.run_tracks .up leaves tracks
  | down =>
    refine ⟨r.run_calledFor .down called, ?_⟩
    rw [perform, List.append_nil]
    exact r.run_tracks .down leaves tracks
  | has id => exact prepares (r.has_prepares id s)
  | status => exact prepares (r.status_prepares s)
  | create u =>
    obtain ⟨created, kept⟩ := r.create_created u tracks.kept
    rw [perform]
    generalize r.create u s = outcome at created kept
    cases created with
    | failed calls rows =>
      rw [calls, List.append_nil]
      exact ⟨called, tracks.same_rows kept rows⟩
    | present calls rows =>
      rw [calls, List.append_nil]
      exact ⟨called, tracks.same_rows kept rows⟩
    | recorded calls absent booked =>
      rw [calls]
      exact ⟨called, tracks.booked kept absent booked⟩

namespace World

theorem visit_tracks {left : Nat} {v : Visit σ}
    (leaves : ∀ u ∈ v.runner.registry.units, u.LeavesBooks) {w : World σ}
    (sound : CalledFor w.calls ∧ Tracks left w.events w.store) :
    CalledFor (w.visit v).calls ∧ Tracks left (w.visit v).events (w.visit v).store := by
  obtain ⟨called, tracks⟩ := sound
  have bare : Tracks left (w.events ++ eventsOf (w.session v.manager).calls)
      (w.session v.manager).store := by
    simpa [session, eventsOf] using tracks
  have none : CalledFor (w.session v.manager).calls := fun c member => (nomatch member)
  obtain ⟨fresh, after⟩ := v.request.perform_tracks leaves none bare
  refine ⟨fun c member => ?_, after⟩
  rcases List.mem_append.1 member with old | new
  · exact called c old
  · exact fresh c new

/-- Asking a runner for the record of a unit tells whether the last event about it wrote one. A
handle that sees the books always gets to know it. -/
structure Tells (w : World σ) (r : Runner σ) (manager : Nat) (id : UInt64) : Prop where
  truth : ∀ answer, (r.has id (w.session manager)).1 = .ok answer →
    (answer = true ↔ (directions id w.events).getLast? = some .up)
  found : Reaches σ r.db →
    ((r.has id (w.session manager)).1 = .ok true ↔
      (directions id w.events).getLast? = some .up)

/-- Whoever asks for what in which order, and whichever actions fail: no unit is applied while it
has a record or reverted while it has none. And as long as the row numbers reach, applying and
reverting a unit take turns, and asking for its record tells which of them came last. -/
theorem exactly_once {start : σ} (own : OwnBooks start) (bare : (journal start).rows = [])
    {visits : List (Visit σ)}
    (leaves : ∀ v ∈ visits, ∀ u ∈ v.runner.registry.units, u.LeavesBooks) :
    CalledFor ((World.start start).run visits).calls ∧
      (written ((World.start start).run visits).events ≤ (journal start).room →
        ∀ id, Alternates .up (directions id ((World.start start).run visits).events) ∧
          ∀ r manager, Tells ((World.start start).run visits) r manager id) := by
  have sound := run_preserves (P := fun w => CalledFor w.calls ∧
    Tracks (journal start).room w.events w.store)
    (fun v member w sound => visit_tracks (leaves v member) sound)
    (w := World.start start) ⟨fun c member => (nomatch member), .initial own.kept bare⟩
  obtain ⟨called, kept, agrees⟩ := sound
  refine ⟨called, fun bound id => ?_⟩
  obtain ⟨-, each⟩ := agrees bound
  obtain ⟨alternates, last⟩ := each id
  refine ⟨alternates, fun r manager => ⟨fun answer asked => ?_, fun reaches => ?_⟩⟩
  · rw [← r.has_truth asked]
    exact last
  · rw [← last]
    exact ⟨r.has_truth, fun recorded => r.has_recorded id reaches kept recorded⟩

def mixedRunner : Runner :=
  { db := sqliteMain
    registry :=
      { units :=
          [.idle 1 "users",
           { MigrationUnit.idle 2 "orders" with up := fun s => (.error (.unit "not now"), s) }] }
    policy := .carryOn }

theorem mixedRunner_leavesBooks : ∀ u ∈ mixedRunner.registry.units, u.LeavesBooks := by
  refine List.forall_mem_cons.2 ⟨MigrationUnit.idle_leavesBooks 1 "users", ?_⟩
  refine List.forall_mem_singleton.2 fun d s => ?_
  cases d <;> exact ⟨rfl, rfl⟩

def mixedVisits : List Visit :=
  [{ manager := 0, runner := mixedRunner, request := .up },
   { manager := 1, runner := mixedRunner, request := .create (.idle 2 "orders") },
   { manager := 0, runner := mixedRunner, request := .down },
   { manager := 2, runner := mixedRunner, request := .up },
   { manager := 1, runner := .orderRunner, request := .has 2 }]

def bareStart : Store :=
  .withLedger { rows := [], lastId := 0 }

theorem mixedVisits_leaveBooks :
    ∀ v ∈ mixedVisits, ∀ u ∈ v.runner.registry.units, u.LeavesBooks := by
  simpa [mixedVisits] using ⟨mixedRunner_leavesBooks, Runner.orderRunner_leavesBooks⟩

theorem mixed_exactly_once :
    ((World.start bareStart).run mixedVisits).events.map (fun e => (e.id, e.direction)) =
        [(1, .up), (2, .up), (1, .down), (2, .down), (1, .up)] ∧
      CalledFor ((World.start bareStart).run mixedVisits).calls ∧
      ∀ id, Alternates .up (directions id ((World.start bareStart).run mixedVisits).events) ∧
        ∀ r manager, Tells ((World.start bareStart).run mixedVisits) r manager id := by
  have own : OwnBooks bareStart := Store.withLedger_ownBooks _
  obtain ⟨called, once⟩ := exactly_once own rfl mixedVisits_leaveBooks
  exact ⟨by decide +kernel, called, once (by decide +kernel)⟩

/-- The books have been made by hand, without columns for most of a record. -/
def handmadeStart : Store :=
  ((Store.fresh "2024-01-01 00:00:00").execute
    "CREATE TABLE ksql_migrate_info (migrate_id INTEGER)").2

def orderVisits : List Visit :=
  [{ manager := 0, runner := .orderRunner, request := .up },
   { manager := 0, runner := .orderRunner, request := .up }]

/-- Where no row number is left, or where a manager did not make the table, a unit is applied
twice without being reverted, and no record tells that it was. -/
theorem unnumbered_applied_twice :
    (OwnBooks (Store.withLedger { rows := [], lastId := 9223372036854775807 }) ∧
      let w := (World.start (.withLedger { rows := [], lastId := 9223372036854775807 })).run
        orderVisits
      directions 2 w.events = [.up, .up] ∧
        (Runner.orderRunner.has 2 (w.session 0)).1.toOption = some false) ∧
    (handmadeStart.ledger.rows = [] ∧
      let w := (World.start handmadeStart).run orderVisits
      directions 2 w.events = [.up, .up] ∧
        (Runner.orderRunner.has 2 (w.session 0)).1.toOption = some false) :=
  ⟨⟨Store.withLedger_ownBooks _, by decide +kernel, by decide +kernel⟩,
    by decide +kernel, by decide +kernel, by decide +kernel⟩

end World

end SchemaShift
