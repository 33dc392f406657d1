import SchemaShift.Proofs.Migration.ExactlyOnce
import SchemaShift.Proofs.Migration.Finishing
import SchemaShift.Proofs.Migration.Settled

/-!
# What a status foretells

A status is made of the list of records, a run asks for one record at a time. Both look at the same
rows, and the rows of a unit stay as they are until its own turn. So the status tells which actions
the next run starts.
-/

namespace SchemaShift

open Text Store Session Books Bookkeeping OrderlyBooks OrderlyBookkeeping

variable {σ : Type}

/-! ### The actions that a run starts -/

/-- The calls are those of the pending units, or of the first of them up to one that fails. -/
inductive Starts (policy : FailurePolicy) (pending : List UInt64) (calls : List (Call σ)) :
    Prop where
  | all (ids : calls.map (·.id) = pending)
  | cut (done : List (Call σ)) (k : Call σ) (rest : List UInt64) (abort : policy = .abort)
      (made : calls = done ++ [k]) (ids : pending = calls.map (·.id) ++ rest)
      (succeeded : ∀ c ∈ done, c.succeeded = true) (failing : k.succeeded = false)

theorem Starts.cons {policy : FailurePolicy} {pending : List UInt64} {calls : List (Call σ)}
    {c : Call σ} (goesOn : policy = .carryOn ∨ c.succeeded = true)
    (starts : Starts policy pending calls) : Starts policy (c.id :: pending) (c :: calls) := by
  cases starts with
  | all ids => exact .all (congrArg (c.id :: ·) ids)
  | cut done k rest abort made ids succeeded failing =>
    have passed : c.succeeded = true := by
      rcases goesOn with on | passed
      · rw [on] at abort
        cases abort
      · exact passed
    refine .cut (c :: done) k rest abort ?_ ?_ ?_ failing
    · rw [made, List.cons_append]
    · rw [ids, List.map_cons, List.cons_append]
    · exact List.forall_mem_cons.2 ⟨passed, succeeded⟩

namespace Runner

/-- The units whose actions the rows call for. -/
def pendingIds (j : Journal) (d : Direction) (us : List (MigrationUnit σ)) : List UInt64 :=
  (us.filter fun u => isPending (j.recorded u.id) d).map (·.id)

section Pending

variable {j : Journal} {d : Direction} {u : MigrationUnit σ} (us : List (MigrationUnit σ))

theorem pendingIds_pending (pending : isPending (j.recorded u.id) d = true) :
    pendingIds j d (u :: us) = u.id :: pendingIds j d us := by
  unfold pendingIds
  rw [List.filter_cons, if_pos pending, List.map_cons]

theorem pendingIds_settled (settled : ¬isPending (j.recorded u.id) d = true) :
    pendingIds j d (u :: us) = pendingIds j d us := by
  unfold pendingIds
  rw [List.filter_cons, if_neg settled]

theorem pendingIds_congr {other : Journal} {us : List (MigrationUnit σ)}
    (same : ∀ u ∈ us, j.recorded u.id = other.recorded u.id) :
    pendingIds j d us = pendingIds other d us := by
  unfold pendingIds
  congr 1
  refine List.filter_congr fun u member => ?_
  rw [same u member]

end Pending

variable [Server σ] [Bookkeeping σ]

theorem batch_starts (db : Database) (policy : FailurePolicy) (d : Direction)
    {us : List (MigrationUnit σ)} (leaves : ∀ u ∈ us, u.LeavesBooks)
    (stored : ∀ u ∈ us, ∃ key, storedId u.id = .ok key)
    (ascending : us.Pairwise fun a b => a.id < b.id) {s : Session σ} (ready : s.ready = true)
    (kept : KeptBooks s.store) (there : booksTable? s.store ≠ none) :
    ∃ calls, (batch db policy d us s).2.calls = s.calls ++ calls ∧
      (∀ c ∈ calls, c.direction = d) ∧
      Starts policy (pendingIds (journal s.store) d us) calls := by
  induction us generalizing s with
  | nil => exact ⟨[], (List.append_nil s.calls).symm, by simp, .all rfl⟩
  | cons u us ih =>
    obtain ⟨above, tail⟩ := List.pairwise_cons.1 ascending
    obtain ⟨mine, others⟩ := List.forall_mem_cons.1 leaves
    obtain ⟨⟨key, own⟩, theirs⟩ := List.forall_mem_cons.1 stored
    obtain ⟨o, m, turned, still⟩ :=
      turn_answerable db d ready own (answers_of_own (kept.own there))
    obtain ⟨effect, stays, same⟩ := turn_books db d mine kept
    rw [turned] at effect stays same
    have unmoved : pendingIds (journal m.store) d us = pendingIds (journal s.store) d us := by
      obtain ⟨rows, only, -, -, elsewhere⟩ := effect.ownRows
      refine pendingIds_congr fun v member => ?_
      have other : v.id ∉ rows := by
        intro here
        exact UInt64.ne_of_lt (above v member) (only v.id here).symm
      rw [Journal.recorded, elsewhere v.id other, Journal.recorded]
    obtain ⟨calls, more, directed, starts⟩ := ih others theirs tail still stays (same there ▸ there)
    rw [unmoved] at starts
    have goesOn {c : Call σ} (called : m.calls = s.calls ++ [c]) (direction : c.direction = d)
        (id : c.id = u.id) (pending : isPending ((journal s.store).recorded u.id) d = true)
        (went : (batch db policy d (u :: us) s).2 = (batch db policy d us m).2)
        (passes : policy = .carryOn ∨ c.succeeded = true) :
        ∃ calls, (batch db policy d (u :: us) s).2.calls = s.calls ++ calls ∧
          (∀ c ∈ calls, c.direction = d) ∧
          Starts policy (pendingIds (journal s.store) d (u :: us)) calls := by
      refine ⟨c :: calls, ?_, List.forall_mem_cons.2 ⟨direction, directed⟩, ?_⟩
      · rw [went, more, called, List.append_assoc, List.singleton_append]
      · rw [pendingIds_pending us pending, ← id]
        exact starts.cons passes
    cases effect with
    | skipped called rows settled =>
      have idle : ¬isPending ((journal s.store).recorded u.id) d = true := by
        rw [isPending_iff, settled]
        cases d <;> decide
      refine ⟨calls, ?_, directed, ?_⟩
      · rw [batch_goesOn_snd turned (.inr (by simp)), more, called]
      · rw [pendingIds_settled us idle]
        exact starts
    | applied called pending booked =>
      exact goesOn called rfl rfl ((isPending_iff _ d).2 pending)
        (batch_goesOn_snd turned (.inr (by simp)) us) (.inr rfl)
    | @failed _ cause before called rows pending =>
      have due := (isPending_iff _ d).2 pending
      cases policy with
      | carryOn =>
        exact goesOn called rfl rfl due (batch_goesOn_snd turned (.inl rfl) us) (.inl rfl)
      | abort =>
        refine ⟨[{ direction := d, id := u.id, before, succeeded := false }], ?_, by simp, ?_⟩
        · rw [batch_cons, turned]
          exact called
        · rw [pendingIds_pending us due]
          exact .cut [] _ _ rfl rfl rfl (by simp) rfl

end Runner

/-! ### Rows with keys -/

namespace Journal

/-- The unit ids in the rows are integers, as records have them. -/
def Keyed (j : Journal) : Prop :=
  ∀ r ∈ j.rows, ∃ key, r.migrateId = .int key

theorem Keyed.booked {u : MigrationUnit σ} {before after : Journal} {d : Direction}
    (keyed : before.Keyed) (booked : Booked u before after d) : after.Keyed := by
  cases booked with
  | written stored room record rows =>
    rw [rows]
    exact List.forall_mem_append.2 ⟨keyed, List.forall_mem_singleton.2 ⟨_, record.key⟩⟩
  | full room rows =>
    rw [rows]
    exact keyed
  | erased stored more rows =>
    rw [rows]
    intro r member
    exact keyed r (List.mem_filter.1 member).1

/-- Where the rows can be listed, a unit has a row exactly if it is in the list. -/
theorem Keyed.listed_iff {j : Journal} (keyed : j.Keyed) {rows : List Row}
    (same : rows.Perm j.rows) {records : List MigrationRecord}
    (read : MigrationRecord.ofRows rows = .ok records) (id : UInt64) :
    (∃ record ∈ records, record.migrateId = id) ↔ j.recorded id = true := by
  obtain ⟨readable, rfl⟩ := MigrationRecord.ofRows_ok read
  have there : j.recorded id = true ↔ ∃ r, r ∈ j.records id := by
    rw [recorded, Bool.not_eq_true', List.isEmpty_eq_false_iff_exists_mem]
  rw [there]
  constructor
  · rintro ⟨record, listed, rfl⟩
    obtain ⟨r, member, found⟩ := List.mem_filterMap.1 listed
    obtain ⟨key, own⟩ := keyed r (same.mem_iff.1 member)
    obtain ⟨stored, -⟩ := keyed_record own (MigrationRecord.read?_eq_some.1 found)
    exact ⟨r, mem_records.2 ⟨key, stored, same.mem_iff.1 member, own⟩⟩
  · rintro ⟨r, member⟩
    obtain ⟨key, stored, held, own⟩ := mem_records.1 member
    obtain ⟨record, found⟩ := readable r (same.mem_iff.2 held)
    obtain ⟨mine, -⟩ := keyed_record own found
    refine ⟨record, List.mem_filterMap.2 ⟨r, same.mem_iff.2 held, ?_⟩,
      storedId_injective mine stored⟩
    exact MigrationRecord.read?_eq_some.2 found

end Journal

/-! ### The answer to a status -/

namespace Runner

section Listed

variable {j : Journal} (keyed : j.Keyed) {rows : List Row} (same : rows.Perm j.rows)
  {records : List MigrationRecord} (read : MigrationRecord.ofRows rows = .ok records)
include keyed same read

theorem isApplied_statusOf (u : MigrationUnit σ) :
    (statusOf records u).isApplied = j.recorded u.id := by
  rw [Bool.eq_iff_iff, ← keyed.listed_iff same read]
  unfold UnitStatus.isApplied statusOf
  dsimp only
  rw [List.getLast?_isSome, ne_eq, List.filter_eq_nil_iff]
  simp

theorem pending_statusOf (d : Direction) (us : List (MigrationUnit σ)) :
    ((us.map (statusOf records)).filter fun e => isPending e.isApplied d).map (·.id) =
      pendingIds j d us := by
  rw [List.filter_map, List.map_map]
  unfold pendingIds
  congr 1
  exact List.filter_congr fun u _ =>
    congrArg (isPending · d) (isApplied_statusOf keyed same read u)

end Listed

variable [Server σ]

/-- The status lists the registered units, and tells of each whether it is recorded and what a run
will do with it. -/
structure Foretells (r : Runner σ) (listed : List UnitStatus) (t : Session σ) : Prop where
  units : listed.map (fun e => (e.id, e.name, e.version)) =
    r.registry.units.map fun u => (u.id, u.name, u.version)
  ascending : listed.Pairwise fun a b => a.id < b.id
  recorded : ∀ e ∈ listed, (r.has e.id t).1 = .ok e.isApplied
  own : ∀ e ∈ listed, ∀ record, e.record = some record → record.migrateId = e.id
  starts : ∀ d, (∀ c ∈ r.callsOf d t, c.direction = d) ∧
    Starts r.policy ((listed.filter fun e => isPending e.isApplied d).map (·.id)) (r.callsOf d t)

variable [Bookkeeping σ]

theorem list_ok {db : Database} {s t : Session σ} {records : List MigrationRecord}
    (answered : History.list db s = (.ok records, t)) :
    s.Prepares t ∧ t.ready = true ∧ booksTable? t.store ≠ none ∧
      ∃ rows, rows.Perm (journal t.store).rows ∧ MigrationRecord.ofRows rows = .ok records := by
  obtain ⟨m, prepared, ⟨e, stopped⟩ | ⟨ensured, ready⟩⟩ := History.ensure_cases db s
  · rw [History.list, run_bind, stopped] at answered
    cases answered
  · rw [History.list_ensured ensured ready, History.list_ready db ready] at answered
    obtain ⟨read, rfl⟩ := Prod.mk.inj answered
    cases listed : Server.listRecords m.store with
    | error e =>
      rw [listed] at read
      cases read
    | ok rows =>
      rw [listed] at read
      obtain ⟨there, same⟩ := listing listed
      exact ⟨prepared, ready, there, rows, same, read⟩

theorem foretells {r : Runner σ} (built : r.registry.Built)
    (leaves : ∀ u ∈ r.registry.units, u.LeavesBooks) {s t : Session σ} (kept : KeptBooks s.store)
    (keyed : (journal s.store).Keyed) {listed : List UnitStatus}
    (answered : r.status s = (.ok listed, t)) : r.Foretells listed t := by
  rw [status_eq] at answered
  rcases asked : History.list r.db s with ⟨e | records, m⟩
  · rw [asked] at answered
    cases answered
  · rw [asked] at answered
    cases answered
    obtain ⟨prepared, ready, there, rows, same, read⟩ := list_ok asked
    have stays := kept.prepared prepared.store
    have own := stays.own there
    have keyed : (journal t.store).Keyed := prepared.store.rows ▸ keyed
    refine ⟨?_, List.pairwise_map.2 built.ascending, ?_, ?_, fun d => ?_⟩
    · rw [List.map_map]
      rfl
    · refine List.forall_mem_map.2 fun u member => ?_
      obtain ⟨key, stored⟩ := built.stored member
      have asked : r.has u.id t = _ := History.has_ready r.db ready stored
      change (r.has u.id t).1 = _
      rw [asked, counting, if_pos (answers_of_own own),
        isApplied_statusOf keyed same read, ← Journal.recorded_eq_count stored]
      rfl
    · refine List.forall_mem_map.2 fun u _ record found => ?_
      have member := List.mem_of_getLast? found
      exact beq_iff_eq.1 (List.mem_filter.1 member).2
    · obtain ⟨calls, more, directed, starts⟩ := batch_starts r.db r.policy d leaves
        (fun u member => built.stored member) built.ascending ready stays there
      have went : r.run d t = batch r.db r.policy d r.registry.units t := by
        rw [run_eq, History.ensure_ready r.db ready]
      have own : r.callsOf d t = calls := callsOf_eq (went ▸ more)
      rw [own, pending_statusOf keyed same read]
      exact ⟨directed, starts⟩

end Runner

/-! ### Histories -/

variable [Server σ]

/-- What every written and every erased record preserves holds of the rows after a request. -/
theorem Request.perform_rows [Bookkeeping σ] {P : Journal → Prop}
    (step : ∀ {u : MigrationUnit σ} {before after : Journal} {d : Direction},
      Booked u before after d → P before → P after)
    {r : Runner σ} (leaves : ∀ u ∈ r.registry.units, u.LeavesBooks) {s : Session σ}
    (kept : KeptBooks s.store) (holds : P (journal s.store)) (q : Request σ) :
    KeptBooks (q.perform r s).2.store ∧ P (journal (q.perform r s).2.store) := by
  have prepares {t : Session σ} (prepared : s.Prepares t) :
      KeptBooks t.store ∧ P (journal t.store) :=
    ⟨kept.prepared prepared.store, prepared.store.rows ▸ holds⟩
  have runs (d : Direction) : KeptBooks (r.run d s).2.store ∧ P (journal (r.run d s).2.store) := by
    obtain ⟨m, prepared, ⟨e, stopped⟩ | went⟩ := r.run_cases d s
    · rw [stopped]
      exact prepares prepared
    · rw [went]
      refine Runner.batch_preserves (P := fun s => KeptBooks s.store ∧ P (journal s.store)) ?_
        r.policy (prepares prepared)
      rintro u member s ⟨kept, holds⟩
      obtain ⟨effect, stays⟩ := Runner.turn_effect r.db d (leaves u member) kept
      refine ⟨stays, ?_⟩
      generalize Runner.turn r.db d u s = outcome at effect
      cases effect with
      | stopped calls rows => exact rows ▸ holds
      | skipped calls rows settled => exact rows ▸ holds
      | failed calls rows pending => exact rows ▸ holds
      | applied calls pending booked => exact step booked holds
  cases q with
  | up => exact runs .up
  | down => exact runs .down
  | has id => exact prepares (r.has_prepares id s)
  | status => exact prepares (r.status_prepares s)
  | create u =>
    obtain ⟨created, stays⟩ := r.create_created u kept
    rw [perform]
    generalize r.create u s = outcome at created stays
    cases created with
    | failed calls rows => exact ⟨stays, rows ▸ holds⟩
    | present calls rows => exact ⟨stays, rows ▸ holds⟩
    | recorded calls absent booked => exact ⟨stays, step booked holds⟩

namespace World

variable [OrderlyBookkeeping σ]

theorem status_answers {handles : Nat → Database} {w : World σ} (steady : w.office.Steady handles)
    {r : Runner σ} {manager : Nat} (own : r.db = handles manager) (reaches : Reaches σ r.db) :
    ∃ listed t, r.status (w.session manager) = (.ok listed, t) := by
  have known : Reaches σ r.db → (w.session manager).ready = true →
      MadeBooks (w.session manager).store := by
    rw [own]
    exact steady.known manager
  have went := History.ensure_ensured r.db (s := w.session manager) steady.order known
  rcases outcome : History.ensure r.db (w.session manager) with ⟨result, m⟩
  rw [outcome] at went
  cases went with
  | stopped foreign => exact absurd reaches foreign
  | unmade foreign ready store absent => exact absurd reaches foreign
  | made ready rows clock held =>
    have sound : (journal m.store).Sound := rows ▸ steady.sound
    obtain ⟨found, listed, ascending⟩ := listing_whole held
    obtain ⟨records, read, -⟩ := sound.list_records (listing listed).2 ascending
    have answered : History.list r.db (w.session manager) = (.ok records, m) := by
      rw [History.list_ensured outcome ready, History.list_ready r.db ready, listed]
      exact congrArg (·, m) read
    rw [Runner.status_eq, answered]
    exact ⟨_, m, rfl⟩

/-- Each manager works through a handle of its own, and there is a clock. -/
structure Regular (handles : Nat → Database) (visits : List (Visit σ)) (start : σ) : Prop where
  free : booksTable? start = none → Unoccupied start
  clock : TellsTime start
  units : ∀ v ∈ visits, ∀ u ∈ v.runner.registry.units, u.LeavesClock
  own : ∀ v ∈ visits, v.runner.db = handles v.manager

theorem status_foretells {start : σ} (own : OwnBooks start) (sound : (journal start).Sound)
    {visits : List (Visit σ)}
    (leaves : ∀ v ∈ visits, ∀ u ∈ v.runner.registry.units, u.LeavesBooks)
    {r : Runner σ} (built : r.registry.Built) (mine : ∀ u ∈ r.registry.units, u.LeavesBooks)
    (manager : Nat) :
    (∀ listed t, r.status (((World.start start).run visits).session manager) = (.ok listed, t) →
      r.Foretells listed t) ∧
    (∀ handles, Regular handles visits start → r.db = handles manager → Reaches σ r.db →
      ∃ listed t, r.status (((World.start start).run visits).session manager) =
        (.ok listed, t)) := by
  constructor
  · intro listed t answered
    have rows := run_preserves (P := fun w => KeptBooks w.store ∧ (journal w.store).Keyed)
      (fun v member w held => v.request.perform_rows (fun booked keyed => keyed.booked booked)
        (leaves v member) held.1 held.2)
      (w := World.start start) ⟨own.kept, sound.keyed⟩
    exact r.foretells built mine rows.1 rows.2 answered
  · intro handles regular handle reaches
    have steady := run_preserves (P := fun w => w.office.Steady handles)
      (fun v member w steady => visit_steady (regular.own v member)
        (fun u listed => ⟨leaves v member u listed, regular.units v member u listed⟩) steady)
      (w := World.start start)
      ⟨own.ordered regular.free, sound, regular.clock, fun _ _ ready => nomatch ready⟩
    exact status_answers steady handle reaches

/-- The second unit is not recorded, so the next run tries it again. -/
theorem mixed_status_foretells :
    OwnBooks bareStart ∧ (journal bareStart).Sound ∧
      (∀ v ∈ mixedVisits, ∀ u ∈ v.runner.registry.units, u.LeavesBooks) ∧
      mixedRunner.registry.Built ∧ (∀ u ∈ mixedRunner.registry.units, u.LeavesBooks) ∧
      Regular (fun _ => sqliteMain) mixedVisits bareStart ∧ mixedRunner.db.IsMain ∧
      ∃ listed t, mixedRunner.status (((World.start bareStart).run mixedVisits).session 0) =
          (.ok listed, t) ∧ mixedRunner.Foretells listed t ∧
        listed.map (fun e => (e.id, e.isApplied)) = [(1, true), (2, false)] ∧
        (mixedRunner.callsOf .up t).map (·.id) = [2] := by
  have own : OwnBooks bareStart := Store.withLedger_ownBooks _
  have sound : (journal bareStart).Sound :=
    ⟨fun r member => (nomatch member), fun r member => (nomatch member), .nil⟩
  have built : mixedRunner.registry.Built :=
    .register (.register .empty (u := .idle 1 "users") rfl)
      (u := { MigrationUnit.idle 2 "orders" with up := fun s => (.error (.unit "not now"), s) }) rfl
  have main : mixedRunner.db.IsMain := sqliteMain_isMain
  have there : bareStart.table? bookkeepingName ≠ none := by decide +kernel
  have mixed : ∀ u ∈ mixedRunner.registry.units, u.LeavesClock := by
    refine List.forall_mem_cons.2 ⟨?_, List.forall_mem_singleton.2 ?_⟩
    · intro d s clock
      cases d <;> exact clock
    · intro d s clock
      cases d <;> exact clock
  have orders : ∀ u ∈ Runner.orderRunner.registry.units, u.LeavesClock := by
    refine List.forall_mem_singleton.2 fun d s clock => ?_
    cases d <;> exact clock
  have regular : Regular (fun _ => sqliteMain) mixedVisits bareStart :=
    { free := fun absent => absurd absent there
      clock := ⟨Office.newYear, by decide +kernel⟩
      units := by simpa [mixedVisits] using ⟨mixed, orders⟩
      own := by simp [mixedVisits, mixedRunner, Runner.orderRunner] }
  have foretold := status_foretells own sound mixedVisits_leaveBooks built mixedRunner_leavesBooks 0
  obtain ⟨listed, t, answered⟩ := foretold.2 (fun _ => sqliteMain) regular rfl main
  have outcome : (mixedRunner.status
        (((World.start bareStart).run mixedVisits).session 0)).1.toOption.map
          (·.map fun e => (e.id, e.isApplied)) = some [(1, true), (2, false)] ∧
      (mixedRunner.callsOf .up (mixedRunner.status
        (((World.start bareStart).run mixedVisits).session 0)).2).map (·.id) = [2] := by
    decide +kernel
  rw [answered] at outcome
  exact ⟨own, sound, mixedVisits_leaveBooks, built, mixedRunner_leavesBooks, regular, main, listed,
    t, answered, foretold.1 listed t answered, Option.some.inj outcome.1, outcome.2⟩

def tempRunner : Runner :=
  { db := Office.sqliteTemp, registry := { units := [.idle 7 "users"] }, policy := .carryOn }

/-- An aborting run does not come to the units after the one that fails, and through a handle of a
schema that does not have the books there is no status. -/
theorem status_promises_more :
    (OwnBooks bareStart ∧ Runner.stubbornRegistry.Built ∧
      (∀ u ∈ Runner.stubbornRegistry.units, u.LeavesBooks) ∧
      let r := Runner.stubbornRunner .abort
      let s := (World.start bareStart).session 0
      (r.status s).1.toOption.map (·.map fun e => (e.id, e.isApplied)) =
          some [(1, false), (2, false), (3, false)] ∧
        (r.callsOf .up (r.status s).2).map (·.id) = [1, 2]) ∧
    (OwnBooks Office.usersStart ∧ tempRunner.registry.Built ∧
      (∀ u ∈ tempRunner.registry.units, u.LeavesBooks) ∧
      ∃ e, (tempRunner.status ((World.start Office.usersStart).session 0)).1 = .error e) := by
  have stubborn : ∀ u ∈ Runner.stubbornRegistry.units, u.LeavesBooks := by
    refine List.forall_mem_cons.2 ⟨MigrationUnit.idle_leavesBooks 1 "users", ?_⟩
    refine List.forall_mem_cons.2 ⟨fun d s => ?_, List.forall_mem_singleton.2 ?_⟩
    · cases d <;> exact ⟨rfl, rfl⟩
    · exact MigrationUnit.idle_leavesBooks 3 "items"
  have there : Office.usersStart.table? bookkeepingName ≠ none := by decide +kernel
  have unseen : Office.sqliteTemp.tableExists Office.usersStart bookkeepingName = .ok false := by
    decide +kernel
  obtain ⟨e, refused⟩ := History.ensure_blocked
    (s := (World.start Office.usersStart).session 0) rfl unseen (.inl there)
  refine ⟨⟨Store.withLedger_ownBooks _, Runner.stubbornRegistry_built, stubborn, by decide +kernel,
    by decide +kernel⟩, Store.withLedger_ownBooks _, ?_, ?_, e, ?_⟩
  · exact .register .empty (u := .idle 7 "users") rfl
  · exact List.forall_mem_singleton.2 (MigrationUnit.idle_leavesBooks 7 "users")
  · have none : tempRunner.status ((World.start Office.usersStart).session 0) = _ :=
      Runner.status_stopped refused
    rw [none]

end World

end SchemaShift
