import SchemaShift.Proofs.Migration.Batch

/-!
# Reports and books

The books change by what a report says. `Agrees` ties the lists of a report to the rows before
and after its batch; it is carried from the last turn to the first.
-/

namespace SchemaShift

open Text Store Books

variable {σ : Type}

/-- The rows of a unit whose record was written or erased. -/
def MigrationUnit.RowsAfter (u : MigrationUnit σ) : Direction → List Row → Prop
  | .up, rows => ∃ r, rows = [r] ∧ r.name = u.name ∧ r.version = u.version ∧
      r.status = .int MigrationRecord.migratedStatus
  | .down, rows => rows = []

namespace Report

/-- The units whose records a batch writes or erases. Records are written as long as there are
row numbers. -/
def booked (r : Report) (before : Journal) : Direction → List UInt64
  | .up => r.applied.take before.room
  | .down => r.applied

/-- The report says what happened to the books. -/
structure Agrees (r : Report) (d : Direction) (units : List (MigrationUnit σ))
    (before after : Journal) : Prop where
  skipped : ∀ u ∈ units, u.id ∈ r.skipped ↔ before.recorded u.id = (d == .up)
  booked : ∀ u ∈ units, u.id ∈ r.booked before d → u.RowsAfter d (after.records u.id)
  others : ∀ id, id ∉ r.booked before d → after.records id = before.records id

theorem booked_subset (r : Report) (before : Journal) (d : Direction) :
    r.booked before d ⊆ r.applied := by
  cases d with
  | up => exact List.take_subset _ _
  | down => exact List.Subset.refl _

end Report

namespace Runner

variable {d : Direction} {u : MigrationUnit σ} {s m : Session σ} {o : Turn}

/-- The units among whose rows a turn works: its own one, or none. -/
structure OwnRows (d : Direction) (u : MigrationUnit σ) (o : Turn) (before after : Journal)
    (own : List UInt64) : Prop where
  only : ∀ id ∈ own, id = u.id
  booked : ∀ later : Report,
    (o.report u.id later).booked before d = own ++ later.booked after d
  rows : u.id ∈ own → u.RowsAfter d (after.records u.id)
  others : ∀ id, id ∉ own → after.records id = before.records id

theorem ownRows_none {before : Journal} (unapplied : o ≠ .applied) :
    OwnRows d u o before before [] := by
  refine ⟨by simp, fun later => ?_, by simp, fun id _ => rfl⟩
  cases o with
  | applied => exact absurd rfl unapplied
  | skipped => cases d <;> rfl
  | failed cause => cases d <;> rfl

theorem Booked.ownRows {before after : Journal} (booked : Booked u before after d)
    (pending : before.recorded u.id = (d == .down)) :
    ∃ own, OwnRows d u .applied before after own := by
  cases booked with
  | @written key r stored room record rows =>
    subst rows
    refine ⟨[u.id], by simp, fun later => ?_, fun _ => ?_, fun id other => ?_⟩
    · obtain ⟨left, room⟩ := Nat.exists_eq_succ_of_ne_zero room
      simp only [Turn.report, Report.booked, Journal.write, room]
      rw [List.take_succ_cons]
      rfl
    · rw [Journal.records_write stored record.key, Journal.records_of_unrecorded pending]
      exact ⟨r, rfl, record.name, record.version, record.status⟩
    · exact Journal.records_write_other stored (by simpa using other) record.key before
  | full room rows =>
    subst rows
    refine ⟨[], by simp, fun later => ?_, by simp, fun id _ => rfl⟩
    simp only [Report.booked, room, List.take_zero, List.append_nil]
  | @erased key room stored more rows =>
    subst rows
    refine ⟨[u.id], by simp, fun later => rfl, fun _ => ?_, fun id other => ?_⟩
    · exact Journal.records_erase stored before room
    · exact Journal.records_erase_other stored (by simpa using other) before room

section Effect

variable [Books σ]

theorem TurnEffect.ownRows (effect : TurnEffect d u s (.ok o, m)) :
    ∃ own, OwnRows d u o (journal s.store) (journal m.store) own := by
  cases effect with
  | skipped calls rows settled =>
    rw [rows]
    exact ⟨[], ownRows_none (by simp)⟩
  | failed calls rows pending =>
    rw [rows]
    exact ⟨[], ownRows_none (by simp)⟩
  | applied calls pending booked => exact Booked.ownRows booked pending

theorem TurnEffect.skipped_iff (effect : TurnEffect d u s (.ok o, m)) {later : Report}
    (fresh : u.id ∉ later.skipped) :
    u.id ∈ (o.report u.id later).skipped ↔ (journal s.store).recorded u.id = (d == .up) := by
  have opposite : (d == Direction.down) ≠ (d == .up) := by cases d <;> decide
  cases effect with
  | skipped calls rows settled => simp [Turn.report, settled]
  | failed calls rows pending => simp [Turn.report, fresh, pending, opposite]
  | applied calls pending booked => simp [Turn.report, fresh, pending, opposite]

theorem TurnEffect.agrees (effect : TurnEffect d u s (.ok o, m)) {us : List (MigrationUnit σ)}
    {later : Report} {after : Journal} (rest : later.Agrees d us (journal m.store) after)
    (covers : later.Covers (us.map (·.id))) (fresh : ∀ v ∈ us, v.id ≠ u.id) :
    (o.report u.id later).Agrees d (u :: us) (journal s.store) after := by
  obtain ⟨own, only, booked, rows, others⟩ := effect.ownRows
  have absent : u.id ∉ us.map (·.id) := by
    simpa using fresh
  have unbooked : u.id ∉ later.booked (journal m.store) d := fun here =>
    absent (covers.applied.subset (later.booked_subset _ d here))
  have unskipped : u.id ∉ later.skipped := fun here => absent (covers.skipped.subset here)
  constructor
  · intro v member
    rcases List.mem_cons.1 member with rfl | listed
    · exact effect.skipped_iff unskipped
    · have other : v.id ∉ own := fun here => fresh v listed (only _ here)
      have same : (journal m.store).recorded v.id = (journal s.store).recorded v.id := by
        rw [Journal.recorded, others _ other, Journal.recorded]
      rw [← same, ← rest.skipped v listed]
      cases o <;> simp [Turn.report, fresh v listed]
  · intro v member here
    rw [booked, List.mem_append] at here
    rcases List.mem_cons.1 member with rfl | listed
    · rcases here with mine | theirs
      · rw [rest.others _ unbooked]
        exact rows mine
      · exact absurd theirs unbooked
    · rcases here with mine | theirs
      · exact absurd (only _ mine) (fresh v listed)
      · exact rest.booked v listed theirs
  · intro id missing
    rw [booked, List.mem_append, not_or] at missing
    rw [rest.others id missing.2, others id missing.1]

end Effect

theorem batch_agrees [Server σ] [Bookkeeping σ] {db : Database} {policy : FailurePolicy}
    {us : List (MigrationUnit σ)} {s t : Session σ} {report : Report}
    (leaves : ∀ u ∈ us, u.LeavesBooks) (kept : KeptBooks s.store)
    (ascending : us.Pairwise fun a b => a.id < b.id)
    (ran : batch db policy d us s = (.ok report, t)) :
    report.Agrees d us (journal s.store) (journal t.store) := by
  induction us generalizing s report with
  | nil =>
    cases ran
    refine ⟨by simp, by simp, fun id _ => rfl⟩
  | cons u us ih =>
    obtain ⟨above, tail⟩ := List.pairwise_cons.1 ascending
    obtain ⟨first, others⟩ := List.forall_mem_cons.1 leaves
    obtain ⟨o, m, later, turned, rest, rfl⟩ := batch_ok ran
    obtain ⟨effect, stays⟩ := turn_effect db d first kept
    rw [turned] at effect stays
    exact effect.agrees (ih others stays tail rest) (batch_covers rest)
      fun v member => Ne.symm (UInt64.ne_of_lt (above v member))

def RecordedAfter (d : Direction) (booked : List UInt64) (before : Journal) (id : UInt64) : Prop :=
  match d with
  | .up => before.recorded id = true ∨ id ∈ booked
  | .down => before.recorded id = true ∧ id ∉ booked

theorem recordedAfter_iff {report : Report} {units : List (MigrationUnit σ)}
    {before after : Journal}
    (agrees : report.Agrees d units before after)
    (known : ∀ id ∈ report.booked before d, ∃ u ∈ units, u.id = id) (id : UInt64) :
    after.recorded id = true ↔ RecordedAfter d (report.booked before d) before id := by
  by_cases here : id ∈ report.booked before d
  · obtain ⟨u, member, rfl⟩ := known id here
    have rows := agrees.booked u member here
    cases d with
    | up =>
      obtain ⟨r, row, -⟩ := rows
      simp [RecordedAfter, Journal.recorded, here, row]
    | down =>
      have none : after.records u.id = [] := rows
      simp [RecordedAfter, Journal.recorded, here, none]
  · have same := agrees.others id here
    cases d <;> simp [RecordedAfter, Journal.recorded, here, same]

/-- When a batch ends well, its report divides the registered ids among its lists. If moreover
no unit touches the books, the skipped units are those in the wanted state, and the records that
were written or erased are those of the applied units, as far as the row numbers reach; all
other records are as they were. -/
theorem run_agrees [Server σ] [Bookkeeping σ] {registry : Registry σ} (built : registry.Built)
    {db : Database} {policy : FailurePolicy} {d : Direction} {s t : Session σ} {report : Report}
    (own : OwnBooks s.store)
    (ran : Runner.run { db, registry, policy } d s = (.ok report, t)) :
    report.Partitions registry.ids ∧
      ((∀ u ∈ registry.units, u.LeavesBooks) →
        report.Agrees d registry.units (journal s.store) (journal t.store) ∧
          ∀ id, (journal t.store).recorded id = true ↔
            RecordedAfter d (report.booked (journal s.store) d) (journal s.store) id) := by
  have ascending := built.ascending
  obtain ⟨m, prepared, stopped | went⟩ := run_cases { db, registry, policy } d s
  · obtain ⟨e, stopped⟩ := stopped
    rw [stopped] at ran
    cases ran
  · rw [went] at ran
    have covers := batch_covers ran
    refine ⟨covers.partitions (List.pairwise_map.2 ascending), fun leaves => ?_⟩
    have agrees := batch_agrees leaves (own.kept.prepared prepared.store) ascending ran
    rw [prepared.store.rows] at agrees
    refine ⟨agrees, recordedAfter_iff agrees fun id here => ?_⟩
    have listed := covers.applied.subset (report.booked_subset _ d here)
    simpa using listed

def idleRow (number : Int64) (key : Int64) (name : String) : Row :=
  { id := number
    migrateId := .int key
    name
    status := .int 0
    version := "0.1.0"
    createTime := .text "2024-01-01 00:00:00"
    updateTime := .text "2024-01-01 00:00:00" }

def idleRegistry : Registry :=
  { units := [.idle 1 "users", .idle 2 "orders"] }

def idleStart : Session :=
  .start (.withLedger { rows := [idleRow 1 1 "users"], lastId := 1 })

theorem idle_run_agrees : ∃ t,
    Runner.run { db := sqliteMain, registry := idleRegistry, policy := .abort } .up idleStart =
        (.ok { applied := [2], skipped := [1], failed := [] }, t) ∧
      Report.Partitions { applied := [2], skipped := [1], failed := [] } idleRegistry.ids ∧
      Report.Agrees { applied := [2], skipped := [1], failed := [] } .up idleRegistry.units
        (journal idleStart.store) (journal t.store) := by
  have built : idleRegistry.Built :=
    .register (.register .empty (u := .idle 1 "users") rfl) (u := .idle 2 "orders") rfl
  have leaves : ∀ u ∈ idleRegistry.units, u.LeavesBooks := by
    refine List.forall_mem_cons.2 ⟨MigrationUnit.idle_leavesBooks 1 "users", ?_⟩
    exact orderRunner_leavesBooks
  have ran : Runner.run { db := sqliteMain, registry := idleRegistry, policy := .abort } .up
      idleStart = (.ok { applied := [2], skipped := [1], failed := [] }, _) := rfl
  obtain ⟨lists, books⟩ := run_agrees built (Store.withLedger_ownBooks _) ran
  exact ⟨_, ran, lists, (books leaves).1⟩

/-- The last row number is taken. -/
def fullStart : Session :=
  .start (.withLedger { rows := [idleRow 9223372036854775807 1 "users"], lastId := 1 })

/-- Without a row number left a unit is applied and not recorded. -/
theorem full_run_unrecorded :
    OwnBooks fullStart.store ∧ orderRunner.registry.Built ∧
      (∀ u ∈ orderRunner.registry.units, u.LeavesBooks) ∧
      (orderRunner.run .up fullStart).1 = .ok { applied := [2], skipped := [], failed := [] } ∧
      (journal (orderRunner.run .up fullStart).2.store).recorded 2 = false := by
  refine ⟨Store.withLedger_ownBooks _, .register .empty (u := .idle 2 "orders") rfl, ?_, ?_, ?_⟩
  · exact orderRunner_leavesBooks
  · rfl
  · rfl

end Runner

end SchemaShift
