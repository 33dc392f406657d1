import Mathlib.Data.List.Nodup
import SchemaShift.Proofs.Migration.Books
import SchemaShift.Proofs.Migration.Registry

/-!
# Batches

A batch takes one turn after another. What every turn preserves the batch preserves, and the
lists of its report divide the ids of its units among them.
-/

namespace SchemaShift

open Text Store

variable {σ : Type} [Server σ]

namespace Runner

/-! ### A batch, turn by turn -/

theorem batch_cons (db : Database) (policy : FailurePolicy) (d : Direction) (u : MigrationUnit σ)
    (us : List (MigrationUnit σ)) (s : Session σ) :
    batch db policy d (u :: us) s =
      match turn db d u s with
      | (.error e, t) => (.error e, t)
      | (.ok o, t) =>
        match o, policy with
        | .failed cause, .abort => (.error (.unitFailed u.id u.name cause), t)
        | o, _ =>
          match batch db policy d us t with
          | (.ok later, t) => (.ok (o.report u.id later), t)
          | (.error e, t) => (.error e, t) := by
  have rest (o : Turn) (t : Session σ) :
      (do return o.report u.id (← batch db policy d us) : ManagerM σ Report) t =
        match batch db policy d us t with
        | (.ok later, t) => (.ok (o.report u.id later), t)
        | (.error e, t) => (.error e, t) := by
    rw [Session.run_bind]
    rcases batch db policy d us t with ⟨e | later, t⟩ <;> rfl
  rw [batch, Session.run_bind]
  rcases turn db d u s with ⟨e | o, t⟩
  · rfl
  · cases o with
    | applied => exact rest .applied t
    | skipped => exact rest .skipped t
    | failed cause =>
      cases policy with
      | carryOn => exact rest (.failed cause) t
      | abort => rfl

/-- A batch that ends well is a turn and a batch that end well. -/
theorem batch_ok {db : Database} {policy : FailurePolicy} {d : Direction}
    {u : MigrationUnit σ} {us : List (MigrationUnit σ)} {s t : Session σ} {report : Report}
    (ran : batch db policy d (u :: us) s = (.ok report, t)) :
    ∃ o m later, turn db d u s = (.ok o, m) ∧ batch db policy d us m = (.ok later, t) ∧
      report = o.report u.id later := by
  rw [batch_cons] at ran
  rcases turned : turn db d u s with ⟨e | o, m⟩
  · rw [turned] at ran
    cases ran
  · rw [turned] at ran
    dsimp only at ran
    split at ran
    · cases ran
    · rcases rest : batch db policy d us m with ⟨e | later, after⟩
      · rw [rest] at ran
        cases ran
      · rw [rest] at ran
        cases ran
        exact ⟨o, m, later, rfl, rest, rfl⟩

theorem batch_preserves {db : Database} {d : Direction} {P : Session σ → Prop}
    {us : List (MigrationUnit σ)} (step : ∀ u ∈ us, ∀ s, P s → P (turn db d u s).2)
    (policy : FailurePolicy) {s : Session σ} (start : P s) : P (batch db policy d us s).2 := by
  induction us generalizing s with
  | nil => exact start
  | cons u us ih =>
    obtain ⟨first, rest⟩ := List.forall_mem_cons.1 step
    have turned := first s start
    rw [batch_cons]
    rcases outcome : turn db d u s with ⟨e | o, m⟩
    · rw [outcome] at turned
      exact turned
    · rw [outcome] at turned
      dsimp only
      split
      · exact turned
      · have later := ih rest turned
        rcases ending : batch db policy d us m with ⟨e | report, after⟩
        · rw [ending] at later
          exact later
        · rw [ending] at later
          exact later

theorem run_eq (r : Runner σ) (d : Direction) (s : Session σ) :
    r.run d s =
      match History.ensure r.db s with
      | (.ok _, m) => batch r.db r.policy d r.registry.units m
      | (.error e, m) => (.error e, m) := by
  rw [run, Session.run_bind]
  rcases History.ensure r.db s with ⟨e | u, m⟩ <;> rfl

/-- A run prepares the books and then is a batch, unless they cannot be prepared. -/
theorem run_cases [Bookkeeping σ] (r : Runner σ) (d : Direction) (s : Session σ) :
    ∃ m, s.Prepares m ∧ ((∃ e, r.run d s = (.error e, m)) ∨
      r.run d s = batch r.db r.policy d r.registry.units m) := by
  obtain ⟨m, prepared, ⟨e, stopped⟩ | ⟨ensured, -⟩⟩ := History.ensure_cases r.db s
  · refine ⟨m, prepared, .inl ⟨e, ?_⟩⟩
    rw [run_eq, stopped]
  · refine ⟨m, prepared, .inr ?_⟩
    rw [run_eq, ensured]

end Runner

/-! ### The lists of a report -/

namespace Report

/-- The lists of a report put the ids in three heaps, each in ascending order. -/
structure Partitions (r : Report) (ids : List UInt64) : Prop where
  applied : r.applied.Pairwise (· < ·)
  skipped : r.skipped.Pairwise (· < ·)
  failed : r.failed.Pairwise (· < ·)
  notSkipped : r.applied.Disjoint r.skipped
  notFailed : r.applied.Disjoint r.failed
  notBoth : r.skipped.Disjoint r.failed
  together : ∀ id, id ∈ ids ↔ id ∈ r.applied ∨ id ∈ r.skipped ∨ id ∈ r.failed

/-- Every id stands in one list of the report, where the ids keep their order. -/
structure Covers (r : Report) (ids : List UInt64) : Prop where
  applied : r.applied.Sublist ids
  skipped : r.skipped.Sublist ids
  failed : r.failed.Sublist ids
  all : (r.applied ++ r.skipped ++ r.failed).Perm ids

theorem covers_empty : Report.empty.Covers [] :=
  ⟨.slnil, .slnil, .slnil, .nil⟩

theorem Covers.cons {later : Report} {ids : List UInt64} (rest : later.Covers ids) (id : UInt64)
    (o : Runner.Turn) : (o.report id later).Covers (id :: ids) := by
  obtain ⟨applied, skipped, failed, all⟩ := rest
  cases o with
  | applied => exact ⟨applied.cons_cons id, skipped.cons id, failed.cons id, all.cons id⟩
  | skipped =>
    refine ⟨applied.cons id, skipped.cons_cons id, failed.cons id, ?_⟩
    exact (List.perm_middle.append_right later.failed).trans (all.cons id)
  | failed cause =>
    refine ⟨applied.cons id, skipped.cons id, failed.cons_cons id, ?_⟩
    exact List.perm_middle.trans (all.cons id)

theorem Covers.partitions {r : Report} {ids : List UInt64} (covers : r.Covers ids)
    (ascending : ids.Pairwise (· < ·)) : r.Partitions ids := by
  have distinct : ids.Nodup := ascending.imp fun lt => UInt64.ne_of_lt lt
  have apart := covers.all.nodup_iff.2 distinct
  obtain ⟨front, -, back⟩ := List.nodup_append'.1 apart
  obtain ⟨-, -, first⟩ := List.nodup_append'.1 front
  constructor
  · exact ascending.sublist covers.applied
  · exact ascending.sublist covers.skipped
  · exact ascending.sublist covers.failed
  · exact first
  · exact fun id here => back (List.mem_append_left _ here)
  · exact fun id here => back (List.mem_append_right _ here)
  · intro id
    rw [← covers.all.mem_iff, List.mem_append, List.mem_append, or_assoc]

end Report

namespace Runner

theorem batch_covers {db : Database} {policy : FailurePolicy} {d : Direction}
    {us : List (MigrationUnit σ)} {s t : Session σ} {report : Report}
    (ran : batch db policy d us s = (.ok report, t)) : report.Covers (us.map (·.id)) := by
  induction us generalizing s report with
  | nil =>
    cases ran
    exact Report.covers_empty
  | cons u us ih =>
    obtain ⟨o, m, later, -, rest, rfl⟩ := batch_ok ran
    exact (ih rest).cons u.id o

end Runner

end SchemaShift
