import SchemaShift.Proofs.Migration.Batch

/-!
# Histories

A history is a sequence of visits: some manager asks a runner for something, on the one database
that all of them share. The events of a history are the actions that succeeded and the records
that were created by hand. `Tracks` is the invariant: what the books hold about a unit follows
from the last event about it, as long as there is a row number for every record.
-/

namespace SchemaShift

open Text Store Books

variable {σ : Type}

/-! ### Events -/

/-- A unit was applied or recorded by hand, or it was reverted. -/
structure Event where
  id : UInt64
  direction : Direction
deriving DecidableEq

def directions (id : UInt64) (events : List Event) : List Direction :=
  (events.filter fun e => e.id == id).map (·.direction)

def written (events : List Event) : Nat :=
  (events.filter fun e => e.direction == .up).length

def eventsOf (calls : List (Call σ)) : List Event :=
  (calls.filter (·.succeeded)).map fun c => { id := c.id, direction := c.direction }

def Direction.opposite : Direction → Direction
  | .up => .down
  | .down => .up

def Alternates : Direction → List Direction → Prop
  | _, [] => True
  | first, d :: rest => d = first ∧ Alternates first.opposite rest

theorem alternates_concat {first d : Direction} {ds : List Direction}
    (alternates : Alternates first ds)
    (next : d = ((ds.getLast?).map Direction.opposite).getD first) :
    Alternates first (ds ++ [d]) := by
  induction ds generalizing first with
  | nil => exact ⟨next, trivial⟩
  | cons e ds ih =>
    obtain ⟨rfl, rest⟩ := alternates
    refine ⟨rfl, ih rest ?_⟩
    rw [next, List.getLast?_cons]
    cases ds.getLast? <;> rfl

/-! ### Visits -/

inductive Request (σ : Type := Store) where
  | up
  | down
  | has (id : UInt64)
  | create (u : MigrationUnit σ)
  | status

/-- The records created by a request, and the session after it. -/
def Request.perform [Server σ] (r : Runner σ) (s : Session σ) :
    Request σ → List Event × Session σ
  | .up => ([], (r.up s).2)
  | .down => ([], (r.down s).2)
  | .has id => ([], (r.has id s).2)
  | .create u =>
    match r.create u s with
    | (.ok true, t) => ([{ id := u.id, direction := .up }], t)
    | (_, t) => ([], t)
  | .status => ([], (r.status s).2)

structure Visit (σ : Type := Store) where
  manager : Nat
  runner : Runner σ
  request : Request σ

structure World (σ : Type := Store) where
  store : σ
  ready : Nat → Bool
  calls : List (Call σ)
  events : List Event

namespace World

def start (store : σ) : World σ :=
  { store, ready := fun _ => false, calls := [], events := [] }

def session (w : World σ) (manager : Nat) : Session σ :=
  { store := w.store, ready := w.ready manager, calls := [] }

variable [Server σ]

def visit (w : World σ) (v : Visit σ) : World σ :=
  let (created, s) := v.request.perform v.runner (w.session v.manager)
  { store := s.store
    ready := fun manager => if manager = v.manager then s.ready else w.ready manager
    calls := w.calls ++ s.calls
    events := w.events ++ eventsOf s.calls ++ created }

def run (w : World σ) (visits : List (Visit σ)) : World σ :=
  visits.foldl visit w

theorem run_preserves {P : World σ → Prop} {visits : List (Visit σ)}
    (step : ∀ v ∈ visits, ∀ w, P w → P (w.visit v)) {w : World σ} (start : P w) :
    P (w.run visits) := by
  unfold run
  induction visits generalizing w with
  | nil => exact start
  | cons v visits ih =>
    obtain ⟨first, rest⟩ := List.forall_mem_cons.1 step
    exact ih rest (first w start)

end World

/-! ### The invariant -/

/-- The books of a state follow from the events, where `left` is for how many rows there were
numbers before them. -/
structure Tracks [Books σ] (left : Nat) (events : List Event) (s : σ) : Prop where
  kept : KeptBooks s
  agrees : written events ≤ left →
    left ≤ (journal s).room + written events ∧
      ∀ id, Alternates .up (directions id events) ∧
        ((journal s).recorded id = true ↔ (directions id events).getLast? = some .up)

namespace Tracks

theorem written_concat (events : List Event) (e : Event) :
    written (events ++ [e]) = written events + if e.direction = .up then 1 else 0 := by
  obtain ⟨id, direction⟩ := e
  unfold written
  rw [List.filter_append, List.length_append]
  cases direction <;> rfl

theorem directions_concat (id : UInt64) (events : List Event) (e : Event) :
    directions id (events ++ [e]) =
      directions id events ++ if e.id = id then [e.direction] else [] := by
  unfold directions
  rw [List.filter_append, List.map_append]
  by_cases mine : e.id = id
  · simp [mine]
  · simp [mine]

theorem alternates_event {events : List Event} {before after : Journal} {id : UInt64}
    {d : Direction} (pending : before.recorded id = (d == .down))
    (now : after.recorded id = (d == .up))
    (others : ∀ other, other ≠ id → after.recorded other = before.recorded other)
    (agrees : ∀ id, Alternates .up (directions id events) ∧
      (before.recorded id = true ↔ (directions id events).getLast? = some .up)) (other : UInt64) :
    Alternates .up (directions other (events ++ [{ id, direction := d }])) ∧
      (after.recorded other = true ↔
        (directions other (events ++ [{ id, direction := d }])).getLast? = some .up) := by
  rw [directions_concat]
  obtain ⟨alternates, last⟩ := agrees other
  by_cases mine : id = other
  · subst mine
    rw [if_pos rfl]
    refine ⟨alternates_concat alternates ?_, ?_⟩
    · rw [pending] at last
      cases d with
      | up =>
        cases ended : (directions id events).getLast? with
        | none => rfl
        | some e =>
          cases e with
          | up => simp [ended] at last
          | down => rfl
      | down => rw [last.1 rfl, Option.map_some, Option.getD_some, Direction.opposite]
    · rw [now, List.getLast?_concat]
      cases d <;> simp
  · rw [if_neg mine, List.append_nil, others other (Ne.symm mine)]
    exact ⟨alternates, last⟩

variable [Books σ] {left : Nat} {events : List Event} {s t : σ}

theorem initial (kept : KeptBooks s) (bare : (journal s).rows = []) :
    Tracks (journal s).room [] s := by
  refine ⟨kept, fun _ => ⟨Nat.le_refl _, fun id => ⟨trivial, ?_⟩⟩⟩
  simp [Journal.recorded, Journal.records_bare bare, directions]

theorem same_rows (tracks : Tracks left events s) (kept : KeptBooks t)
    (rows : journal t = journal s) : Tracks left events t := by
  obtain ⟨-, agrees⟩ := tracks
  exact ⟨kept, rows ▸ agrees⟩

theorem booked (tracks : Tracks left events s) {u : MigrationUnit σ} {d : Direction}
    (kept : KeptBooks t) (pending : (journal s).recorded u.id = (d == .down))
    (booked : Booked u (journal s) (journal t) d) :
    Tracks left (events ++ [{ id := u.id, direction := d }]) t := by
  obtain ⟨-, agrees⟩ := tracks
  refine ⟨kept, fun bound => ?_⟩
  cases booked with
  | @written key r stored room record rows =>
    rw [written_concat, if_pos rfl] at bound ⊢
    obtain ⟨numbers, each⟩ := agrees (by omega)
    rw [rows]
    refine ⟨?_, fun id => alternates_event pending ?_ ?_ each id⟩
    · change left ≤ (journal s).room - 1 + (written events + 1)
      omega
    · rw [Journal.recorded, Journal.records_write stored record.key]
      simp
    · intro other different
      rw [Journal.recorded, Journal.records_write_other stored different record.key,
        Journal.recorded]
  | full room rows =>
    -- The bound leaves a number for this record, so there is room for it.
    rw [written_concat, if_pos rfl] at bound
    obtain ⟨numbers, -⟩ := agrees (by omega)
    omega
  | @erased key room stored more rows =>
    rw [written_concat, if_neg (by simp), Nat.add_zero] at bound ⊢
    obtain ⟨numbers, each⟩ := agrees bound
    rw [rows]
    refine ⟨?_, fun id => alternates_event pending ?_ ?_ each id⟩
    · change left ≤ room + written events
      omega
    · rw [Journal.recorded, Journal.records_erase stored]
      rfl
    · intro other different
      rw [Journal.recorded, Journal.records_erase_other stored different, Journal.recorded]

end Tracks

end SchemaShift
