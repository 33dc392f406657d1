import SchemaShift.Proofs.Migration.Abort
import SchemaShift.Proofs.Migration.Delivery

/-!
# Batches that finish

Under the policy that carries on, neither a failing action nor a record that cannot be written ends
a batch. What ends it is the question which comes before an action: whether the unit has a record.
`batch_ending` follows a batch up to the first unit for which the books have no answer.
-/

namespace SchemaShift

open Text Store Session Books Bookkeeping

variable {σ : Type}

namespace Registry

/-- The units with an id below `id`. -/
def below (r : Registry σ) (id : UInt64) : Registry σ :=
  { units := r.units.filter fun u => u.id < id }

theorem below_units {r : Registry σ} (built : r.Built) {before after : List (MigrationUnit σ)}
    {u : MigrationUnit σ} (units : r.units = before ++ u :: after) :
    (r.below u.id).units = before := by
  obtain ⟨smaller, larger⟩ := built.split units
  have kept : before.filter (fun v => v.id < u.id) = before := by
    refine List.filter_eq_self.2 fun v member => ?_
    simpa using smaller v member
  have gone : after.filter (fun v => v.id < u.id) = [] := by
    refine List.filter_eq_nil_iff.2 fun v member => ?_
    simpa using UInt64.le_of_lt (larger v member)
  rw [below, units, List.filter_append, List.filter_cons, kept, gone]
  simp

end Registry

variable [Server σ] [Bookkeeping σ]

namespace Runner

/-! ### Turns -/

section Turns

variable (db : Database) (d : Direction) {u : MigrationUnit σ} {s : Session σ} {key : Int64}
  (ready : s.ready = true) (stored : storedId u.id = .ok key)
include ready stored

/-- If the books answer, the turn ends well, whatever the action does and whether or not it can be
recorded. -/
theorem turn_answerable (answerable : booksAnswer s.store = true) :
    ∃ o m, turn db d u s = (.ok o, m) ∧ m.ready = true := by
  have asked := History.has_ready db ready stored
  rw [counting, if_pos answerable] at asked
  unfold turn
  rw [run_bind, asked]
  dsimp only [History.refusal, Except.mapError, Except.map]
  split
  · rw [run_bind, run_runAction]
    cases ran : (u.action d s.store).1 with
    | error cause => exact ⟨.failed cause, started u d s, rfl, ready⟩
    | ok done =>
      have booked := book_ok db u d (started u d s)
      have after : (book db u d (started u d s)).2.ready = true := book_ready db d ready stored
      dsimp only
      rw [run_bind]
      generalize book db u d (started u d s) = written at booked after
      obtain ⟨outcome, m⟩ := written
      cases booked
      exact ⟨.applied, m, rfl, after⟩
  · exact ⟨.skipped, s, rfl, ready⟩

/-- If they do not, no action is started. -/
theorem turn_unanswerable (unanswerable : booksAnswer s.store = false) :
    turn db d u s = (.error (.database (.refused (booksRefusal s.store))), s) := by
  have asked := History.has_ready db ready stored
  rw [counting, unanswerable] at asked
  rw [turn, run_bind, asked]
  rfl

end Turns

/-! ### Batches -/

/-- How a batch that carries on goes from the session `s`: through all units, with an answer from
the books for each of them, or up to the first one for which there is none. -/
inductive Ending (db : Database) (d : Direction) (s : Session σ) (us : List (MigrationUnit σ)) :
    Prop where
  | finished {report : Report} {t : Session σ} (ran : batch db .carryOn d us s = (.ok report, t))
      (answered : ∀ before u after, us = before ++ u :: after →
        booksAnswer (batch db .carryOn d before s).2.store = true) :
      Ending db d s us
  | stopped {before : List (MigrationUnit σ)} {u : MigrationUnit σ}
      {after : List (MigrationUnit σ)} {report : Report} {t : Session σ}
      (units : us = before ++ u :: after)
      (ran : batch db .carryOn d before s = (.ok report, t))
      (unanswered : booksAnswer t.store = false)
      (ended : batch db .carryOn d us s =
        (.error (.database (.refused (booksRefusal t.store))), t)) :
      Ending db d s us

variable {db : Database} {d : Direction} {u : MigrationUnit σ} {us : List (MigrationUnit σ)}
  {s m : Session σ} {o : Turn}

theorem Ending.cons (turned : turn db d u s = (.ok o, m)) (answerable : booksAnswer s.store = true)
    (rest : Ending db d m us) : Ending db d s (u :: us) := by
  cases rest with
  | @finished report t ran answered =>
    have whole : batch db .carryOn d (u :: us) s = (.ok (o.report u.id report), t) := by
      rw [batch_goesOn turned (.inl rfl), ran]
    refine .finished whole fun before v after split => ?_
    cases before with
    | nil => exact answerable
    | cons w before =>
      obtain ⟨rfl, rest⟩ := List.cons.inj split
      rw [batch_goesOn_snd turned (.inl rfl)]
      exact answered before v after rest
  | @stopped before v after report t units ran unanswered ended =>
    have front : batch db .carryOn d (u :: before) s = (.ok (o.report u.id report), t) := by
      rw [batch_goesOn turned (.inl rfl), ran]
    have whole : batch db .carryOn d (u :: us) s =
        (.error (.database (.refused (booksRefusal t.store))), t) := by
      rw [batch_goesOn turned (.inl rfl), ended]
    exact .stopped (congrArg (u :: ·) units) front unanswered whole

theorem batch_ending (db : Database) (d : Direction) {us : List (MigrationUnit σ)}
    (stored : ∀ u ∈ us, ∃ key, storedId u.id = .ok key) {s : Session σ}
    (ready : s.ready = true) : Ending db d s us := by
  -- A ready manager does not look for the table again, so the store alone decides on each turn.
  induction us generalizing s with
  | nil => exact .finished rfl fun before u after split => by simp at split
  | cons u us ih =>
    obtain ⟨⟨key, own⟩, others⟩ := List.forall_mem_cons.1 stored
    cases answerable : booksAnswer s.store with
    | true =>
      obtain ⟨o, m, turned, still⟩ := turn_answerable db d ready own answerable
      exact (ih others still).cons turned answerable
    | false =>
      have turned := turn_unanswerable db d ready own answerable
      have ended : batch db .carryOn d (u :: us) s =
          (.error (.database (.refused (booksRefusal s.store))), s) := by
        rw [batch_cons, turned]
      exact .stopped (List.nil_append (u :: us)).symm rfl answerable ended

/-- The report tells of the actions that were started which ones succeeded. -/
theorem batch_reported {policy : FailurePolicy} {us : List (MigrationUnit σ)} {s t : Session σ}
    {report : Report} (ran : batch db policy d us s = (.ok report, t)) :
    ∃ calls, t.calls = s.calls ++ calls ∧
      report.applied = (calls.filter fun c => c.succeeded).map (·.id) ∧
      report.failed = (calls.filter fun c => !c.succeeded).map (·.id) := by
  induction us generalizing s report with
  | nil =>
    cases ran
    exact ⟨[], by simp, rfl, rfl⟩
  | cons u us ih =>
    obtain ⟨o, m, later, turned, rest, rfl⟩ := batch_ok ran
    obtain ⟨calls, more, applied, failed⟩ := ih rest
    have went := turn_calls db d u s
    rw [turned] at went
    cases went with
    | skipped same => exact ⟨calls, by rw [more, same], applied, failed⟩
    | @failed _ _ c own called unsuccessful _ =>
      refine ⟨c :: calls, by rw [more, own, List.append_assoc, List.singleton_append], ?_, ?_⟩
      · simpa [Turn.report, unsuccessful] using applied
      · simpa [Turn.report, unsuccessful, called.id] using failed
    | @applied _ c own called succeeded =>
      refine ⟨c :: calls, by rw [more, own, List.append_assoc, List.singleton_append], ?_, ?_⟩
      · simpa [Turn.report, succeeded, called.id] using applied
      · simpa [Turn.report, succeeded] using failed

/-! ### Runs -/

/-- The run that carries on ends in the session `t` with a report. Every registered id stands in
one of its lists, and those whose action succeeded are the applied ones. -/
structure Finishes (registry : Registry σ) (db : Database) (d : Direction) (s : Session σ)
    (report : Report) (t : Session σ) : Prop where
  ends : run { db, registry, policy := .carryOn } d s = (.ok report, t)
  listed : report.Partitions registry.ids
  applied : report.applied = ((callsOf { db, registry, policy := .carryOn } d s).filter
    fun c => c.succeeded).map (·.id)
  failed : report.failed = ((callsOf { db, registry, policy := .carryOn } d s).filter
    fun c => !c.succeeded).map (·.id)

/-- The session in which the turn of `u` comes: the one that the units before it leave behind. -/
def arrival (registry : Registry σ) (db : Database) (d : Direction) (s : Session σ)
    (u : MigrationUnit σ) : Session σ :=
  (run { db, registry := registry.below u.id, policy := .carryOn } d s).2

variable {registry : Registry σ} {db : Database} {d : Direction} {s m t : Session σ}
  {report : Report}

theorem finishes_of_ran (ascending : registry.units.Pairwise fun a b => a.id < b.id)
    (ensured : History.ensure db s = (.ok (), m))
    (ran : batch db .carryOn d registry.units m = (.ok report, t)) :
    Finishes registry db d s report t := by
  have prepared := History.ensure_prepares db s
  rw [ensured] at prepared
  have ends : run { db, registry, policy := .carryOn } d s = (.ok report, t) :=
    (run_of_ensured ensured registry .carryOn d).trans ran
  obtain ⟨calls, more, applied, failed⟩ := batch_reported ran
  have own : callsOf { db, registry, policy := .carryOn } d s = calls :=
    callsOf_eq (by rw [ends, more, prepared.calls])
  exact ⟨ends, (batch_covers ran).partitions (List.pairwise_map.2 ascending),
    by rw [own, applied], by rw [own, failed]⟩

omit [Bookkeeping σ] in
theorem arrival_eq (built : registry.Built) (ensured : History.ensure db s = (.ok (), m))
    {before after : List (MigrationUnit σ)} {u : MigrationUnit σ}
    (units : registry.units = before ++ u :: after) :
    arrival registry db d s u = (batch db .carryOn d before m).2 := by
  rw [arrival, run_of_ensured ensured, Registry.below_units built units]

/-- If the books can be prepared, a run that carries on finishes exactly if they have an answer for
every unit when its turn comes. Otherwise it ends without a report at the first unit for which they
have none, although all units before it went through. -/
theorem carryOn_finishes_iff (built : registry.Built)
    (ensured : History.ensure db s = (.ok (), m)) (d : Direction) :
    ((∃ report t, Finishes registry db d s report t) ↔
      ∀ u ∈ registry.units, booksAnswer (arrival registry db d s u).store = true) ∧
    ((¬∃ report t, Finishes registry db d s report t) →
      ∃ u ∈ registry.units, ∃ report,
        Finishes (registry.below u.id) db d s report (arrival registry db d s u) ∧
        booksAnswer (arrival registry db d s u).store = false ∧
        run { db, registry, policy := .carryOn } d s =
          (.error (.database (.refused (booksRefusal (arrival registry db d s u).store))),
            arrival registry db d s u)) := by
  have ending := batch_ending db d (fun u member => built.stored member) (History.ensure_ok ensured)
  cases ending with
  | @finished report t ran answered =>
    have finishes := finishes_of_ran built.ascending ensured ran
    refine ⟨⟨fun _ u member => ?_, fun _ => ⟨report, t, finishes⟩⟩, fun never => ?_⟩
    · obtain ⟨before, after, units⟩ := List.append_of_mem member
      rw [arrival_eq built ensured units]
      exact answered before u after units
    · exact absurd ⟨report, t, finishes⟩ never
  | @stopped before u after report t units ran unanswered ended =>
    have member : u ∈ registry.units := units ▸ List.mem_append_right before List.mem_cons_self
    have arrived : arrival registry db d s u = t := by rw [arrival_eq built ensured units, ran]
    have stops := (run_of_ensured ensured registry .carryOn d).trans ended
    have early : Finishes (registry.below u.id) db d s report t := by
      refine finishes_of_ran (built.ascending.sublist List.filter_sublist) ensured ?_
      rw [Registry.below_units built units, ran]
    refine ⟨⟨fun ⟨report, t, finishes⟩ => ?_, fun answered => ?_⟩, fun _ => ?_⟩
    · cases finishes.ends.symm.trans stops
    · have answer := answered u member
      rw [arrived, unanswered] at answer
      cases answer
    · refine ⟨u, member, report, ?_⟩
      rw [arrived]
      exact ⟨early, unanswered, stops⟩

/-- Takes the books away and puts them back with a column for the ids alone. -/
def trimUnit : MigrationUnit :=
  .ofSql 7 "trim" "0.1.0"
    ["DROP TABLE ksql_migrate_info", "CREATE TABLE ksql_migrate_info (migrate_id INTEGER)"] []

def trimRegistry : Registry :=
  { units := [trimUnit, .idle 8 "orders"] }

/-- Both units are applied, and neither can be recorded. -/
theorem trim_finishes :
    trimRegistry.Built ∧ (History.ensure sqliteMain booksStart).1.toOption = some () ∧
      ∃ report t, Finishes trimRegistry sqliteMain .up booksStart report t ∧
        report.applied = [7, 8] ∧ (journal t.store).recorded 7 = false ∧
        (journal t.store).recorded 8 = false := by
  have built : trimRegistry.Built :=
    .register (.register .empty (u := trimUnit) rfl) (u := .idle 8 "orders") rfl
  have prepared : (History.ensure sqliteMain booksStart).1.toOption = some () := by decide +kernel
  obtain ⟨m, ensured⟩ := ran_of_toOption prepared
  have answered : ∀ u ∈ trimRegistry.units,
      booksAnswer (arrival trimRegistry sqliteMain .up booksStart u).store = true := by
    refine List.forall_mem_cons.2 ⟨?_, List.forall_mem_singleton.2 ?_⟩
    · decide +kernel
    · decide +kernel
  obtain ⟨report, t, finishes⟩ := (carryOn_finishes_iff built ensured .up).1.2 answered
  have ends := finishes.ends
  have ran : (run { db := sqliteMain, registry := trimRegistry, policy := .carryOn } .up
        booksStart).1.toOption.map (·.applied) = some [7, 8] ∧
      (run { db := sqliteMain, registry := trimRegistry, policy := .carryOn } .up
        booksStart).2.store.ledger.rows = [] := by
    decide +kernel
  rw [ends] at ran
  obtain ⟨applied, books⟩ := ran
  exact ⟨built, prepared, report, t, finishes, Option.some.inj applied,
    by rw [Journal.recorded, Journal.records_bare books]; rfl,
    by rw [Journal.recorded, Journal.records_bare books]; rfl⟩

def dropRegistry : Registry :=
  { units := [.ofSql 7 "drop" "0.1.0" ["DROP TABLE ksql_migrate_info"] [], .idle 8 "orders"] }

/-- The action that takes the books away succeeds, and the batch ends with the next question. -/
theorem drop_stops :
    dropRegistry.Built ∧ (History.ensure sqliteMain booksStart).1.toOption = some () ∧
      (callsOf { db := sqliteMain, registry := dropRegistry, policy := .carryOn } .up
        booksStart).map (fun c => (c.id, c.succeeded)) = [(7, true)] ∧
      (run { db := sqliteMain, registry := dropRegistry, policy := .carryOn } .up booksStart).1 =
        .error (.database (.refused (.noSuchTable bookkeepingName))) ∧
      ¬∃ report t, Finishes dropRegistry sqliteMain .up booksStart report t := by
  have built : dropRegistry.Built :=
    .register (.register .empty
      (u := .ofSql 7 "drop" "0.1.0" ["DROP TABLE ksql_migrate_info"] []) rfl)
      (u := .idle 8 "orders") rfl
  have ran : (callsOf { db := sqliteMain, registry := dropRegistry, policy := .carryOn } .up
        booksStart).map (fun c => (c.id, c.succeeded)) = [(7, true)] ∧
      (run { db := sqliteMain, registry := dropRegistry, policy := .carryOn } .up booksStart).1 =
        .error (.database (.refused (.noSuchTable bookkeepingName))) := by
    decide +kernel
  obtain ⟨called, stops⟩ := ran
  refine ⟨built, by decide +kernel, called, stops, ?_⟩
  rintro ⟨report, t, finishes⟩
  rw [finishes.ends] at stops
  cases stops

end Runner

end SchemaShift
