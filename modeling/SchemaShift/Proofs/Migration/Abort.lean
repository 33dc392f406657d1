import SchemaShift.Proofs.Migration.Agreement

/-!
# Stopping at the first failure

An aborting batch and one that carries on go together up to the first action that fails. There
the first ends, and it ends where a batch that carries on would end if it had no units after the
failing one. `batch_course` follows the two batches turn by turn.
-/

namespace SchemaShift

open Text Store Books

variable {σ : Type}

namespace Runner

/-! ### Turns that do not fail -/

/-- The turn ended in the session `m` without a failing action, and `own` are its calls. -/
structure Passes (u : MigrationUnit σ) (s : Session σ) (o : Turn) (m : Session σ)
    (own : List (Call σ)) : Prop where
  unfailed : ∀ cause, o ≠ .failed cause
  calls : m.calls = s.calls ++ own
  succeeded : ∀ c ∈ own, c.succeeded = true
  mine : ∀ c ∈ own, c.id = u.id
  applied : ∀ later : Report, (o.report u.id later).applied = own.map (·.id) ++ later.applied
  failed : ∀ later : Report, (o.report u.id later).failed = later.failed

theorem passes_skipped {u : MigrationUnit σ} {s m : Session σ} (calls : m.calls = s.calls) :
    Passes u s .skipped m [] := by
  refine ⟨fun cause same => (nomatch same), by simp [calls], by simp, by simp, ?_, ?_⟩
  · exact fun later => rfl
  · exact fun later => rfl

theorem passes_applied [Books σ] {d : Direction} {u : MigrationUnit σ} {s m : Session σ}
    {c : Call σ}
    (calls : m.calls = s.calls ++ [c]) (called : Calls d u c) (succeeded : c.succeeded = true) :
    Passes u s .applied m [c] := by
  refine ⟨fun cause same => (nomatch same), calls, by simpa using succeeded,
    by simpa using called.id, fun later => ?_, fun later => rfl⟩
  simp [Turn.report, called.id]

variable [Server σ] {db : Database} {d : Direction} {u v : MigrationUnit σ}
  {us before after : List (MigrationUnit σ)} {s m t : Session σ} {o : Turn}
  {own done : List (Call σ)} {k : Call σ} {cause : MigrationError} {report : Report}

theorem batch_goesOn {policy : FailurePolicy} (turned : turn db d u s = (.ok o, m))
    (on : policy = .carryOn ∨ ∀ cause, o ≠ .failed cause) (us : List (MigrationUnit σ)) :
    batch db policy d (u :: us) s =
      match batch db policy d us m with
      | (.ok later, t) => (.ok (o.report u.id later), t)
      | (.error e, t) => (.error e, t) := by
  rw [batch_cons, turned]
  dsimp only
  split
  · rcases on with carryOn | unfailed
    · cases carryOn
    · exact absurd rfl (unfailed _)
  · rfl

theorem batch_goesOn_snd {policy : FailurePolicy} (turned : turn db d u s = (.ok o, m))
    (on : policy = .carryOn ∨ ∀ cause, o ≠ .failed cause) (us : List (MigrationUnit σ)) :
    (batch db policy d (u :: us) s).2 = (batch db policy d us m).2 := by
  rw [batch_goesOn turned on]
  rcases batch db policy d us m with ⟨e | later, t⟩ <;> rfl

/-- No action of the batch fails, and its calls are `calls`. The policy makes no difference. -/
structure Uncut (db : Database) (d : Direction) (s : Session σ) (us : List (MigrationUnit σ))
    (calls : List (Call σ)) : Prop where
  called : (batch db .carryOn d us s).2.calls = s.calls ++ calls
  succeeded : ∀ c ∈ calls, c.succeeded = true
  same : batch db .abort d us s = batch db .carryOn d us s

theorem Uncut.cons {calls : List (Call σ)} (turned : turn db d u s = (.ok o, m))
    (passes : Passes u s o m own) (uncut : Uncut db d m us calls) :
    Uncut db d s (u :: us) (own ++ calls) := by
  refine ⟨?_, List.forall_mem_append.2 ⟨passes.succeeded, uncut.succeeded⟩, ?_⟩
  · rw [batch_goesOn_snd turned (.inl rfl), uncut.called, passes.calls, List.append_assoc]
  · rw [batch_goesOn turned (.inr passes.unfailed), batch_goesOn turned (.inl rfl), uncut.same]

variable [Bookkeeping σ]

theorem batch_calls (db : Database) (policy : FailurePolicy) (d : Direction)
    (us : List (MigrationUnit σ)) (s : Session σ) :
    ∃ calls, (batch db policy d us s).2.calls = s.calls ++ calls := by
  refine batch_preserves (P := fun t => ∃ calls, t.calls = s.calls ++ calls) ?_ policy
    ⟨[], by simp⟩
  rintro u - m ⟨calls, so⟩
  have went := turn_calls db d u m
  generalize turn db d u m = outcome at went
  cases went with
  | stopped same => exact ⟨calls, same.trans so⟩
  | skipped same => exact ⟨calls, same.trans so⟩
  | failed more called succeeded ran => exact ⟨calls ++ [_], by rw [more, so, List.append_assoc]⟩
  | applied more called succeeded => exact ⟨calls ++ [_], by rw [more, so, List.append_assoc]⟩

/-! ### The cut -/

/-- The units before `u` pass with the calls `done`. Then `k`, the call of `u`, fails and leaves
the session `t`, from which a batch that carries on goes on with the units after `u`. -/
structure Cut (db : Database) (d : Direction) (s : Session σ) (before : List (MigrationUnit σ))
    (u : MigrationUnit σ) (after : List (MigrationUnit σ)) (done : List (Call σ)) (k : Call σ)
    (cause : MigrationError) (t : Session σ) (report : Report) : Prop where
  called : Calls d u k
  failing : k.succeeded = false
  failure : u.action d k.before = (.error cause, t.store)
  succeeded : ∀ c ∈ done, c.succeeded = true
  known : ∀ c ∈ done, ∃ v ∈ before, v.id = c.id
  calls : t.calls = s.calls ++ (done ++ [k])
  aborts : batch db .abort d (before ++ u :: after) s =
    (.error (.unitFailed u.id u.name cause), t)
  carriesOn : ∃ calls, (batch db .carryOn d (before ++ u :: after) s).2.calls = t.calls ++ calls
  shortened : batch db .carryOn d (before ++ [u]) s = (.ok report, t)
  applied : report.applied = done.map (·.id)
  failed : report.failed = [u.id]

theorem cut_here (turned : turn db d u s = (.ok (.failed cause), t))
    (calls : t.calls = s.calls ++ [k]) (called : Calls d u k) (failing : k.succeeded = false)
    (failure : u.action d k.before = (.error cause, t.store)) (after : List (MigrationUnit σ)) :
    Cut db d s [] u after [] k cause t { applied := [], skipped := [], failed := [u.id] } := by
  refine ⟨called, failing, failure, by simp, by simp, calls, ?_, ?_, ?_, rfl, rfl⟩
  · rw [List.nil_append, batch_cons, turned]
  · obtain ⟨calls, more⟩ := batch_calls db .carryOn d after t
    exact ⟨calls, by rw [List.nil_append, batch_goesOn_snd turned (.inl rfl), more]⟩
  · rw [List.nil_append, batch_cons, turned]
    rfl

theorem Cut.cons (turned : turn db d v s = (.ok o, m)) (passes : Passes v s o m own)
    (cut : Cut db d m before u after done k cause t report) :
    Cut db d s (v :: before) u after (own ++ done) k cause t (o.report v.id report) := by
  refine ⟨cut.called, cut.failing, cut.failure, ?_, ?_, ?_, ?_, ?_, ?_, ?_, ?_⟩
  · exact List.forall_mem_append.2 ⟨passes.succeeded, cut.succeeded⟩
  · refine List.forall_mem_append.2 ⟨fun c member => ?_, fun c member => ?_⟩
    · exact ⟨v, List.mem_cons_self, (passes.mine c member).symm⟩
    · obtain ⟨w, listed, same⟩ := cut.known c member
      exact ⟨w, List.mem_cons_of_mem _ listed, same⟩
  · rw [cut.calls, passes.calls, List.append_assoc, List.append_assoc]
  · rw [List.cons_append, batch_goesOn turned (.inr passes.unfailed), cut.aborts]
  · obtain ⟨calls, more⟩ := cut.carriesOn
    exact ⟨calls, by rw [List.cons_append, batch_goesOn_snd turned (.inl rfl), more]⟩
  · rw [List.cons_append, batch_goesOn turned (.inl rfl), cut.shortened]
  · rw [passes.applied, cut.applied, List.map_append]
  · rw [passes.failed, cut.failed]

/-- How the two batches of the units go from the session `s`. -/
inductive Course (db : Database) (d : Direction) (s : Session σ) :
    List (MigrationUnit σ) → Prop where
  | uncut {us : List (MigrationUnit σ)} {calls : List (Call σ)} (uncut : Uncut db d s us calls) :
      Course db d s us
  | cut {before : List (MigrationUnit σ)} {u : MigrationUnit σ} {after : List (MigrationUnit σ)}
      {done : List (Call σ)} {k : Call σ} {cause : MigrationError} {t : Session σ} {report : Report}
      (cut : Cut db d s before u after done k cause t report) :
      Course db d s (before ++ u :: after)

theorem Course.cons (turned : turn db d u s = (.ok o, m)) (passes : Passes u s o m own)
    (course : Course db d m us) : Course db d s (u :: us) := by
  cases course with
  | uncut uncut => exact .uncut (uncut.cons turned passes)
  | cut cut => exact .cut (cut.cons turned passes)

theorem batch_course (db : Database) (d : Direction) (us : List (MigrationUnit σ))
    (s : Session σ) : Course db d s us := by
  induction us generalizing s with
  | nil => exact .uncut ⟨(List.append_nil s.calls).symm, by simp, rfl⟩
  | cons u us ih =>
    have went := turn_calls db d u s
    generalize turned : turn db d u s = outcome at went
    cases went with
    | stopped calls =>
      -- An error of the books, not of an action: both policies give up here.
      have uncut : Uncut db d s (u :: us) [] := by
        refine ⟨?_, by simp, ?_⟩
        · rw [batch_cons, turned, List.append_nil, ← calls]
        · rw [batch_cons, batch_cons, turned]
      exact .uncut uncut
    | skipped calls => exact (ih _).cons turned (passes_skipped calls)
    | applied calls called succeeded =>
      exact (ih _).cons turned (passes_applied calls called succeeded)
    | failed calls called failing failure =>
      exact .cut (cut_here turned calls called failing failure us)

end Runner

/-! ### Runs -/

namespace Registry

/-- The units with an id up to `id`. -/
def upTo (r : Registry σ) (id : UInt64) : Registry σ :=
  { units := r.units.filter fun u => u.id ≤ id }

theorem Built.split {r : Registry σ} (built : r.Built) {before after : List (MigrationUnit σ)}
    {u : MigrationUnit σ} (units : r.units = before ++ u :: after) :
    (∀ v ∈ before, v.id < u.id) ∧ ∀ v ∈ after, u.id < v.id := by
  have ascending := built.ascending
  rw [units] at ascending
  obtain ⟨-, rest, below⟩ := List.pairwise_append.1 ascending
  exact ⟨fun v member => below v member u List.mem_cons_self, (List.pairwise_cons.1 rest).1⟩

theorem upTo_units {r : Registry σ} (built : r.Built) {before after : List (MigrationUnit σ)}
    {u : MigrationUnit σ} (units : r.units = before ++ u :: after) :
    (r.upTo u.id).units = before ++ [u] := by
  obtain ⟨below, above⟩ := built.split units
  have kept : before.filter (fun v => v.id ≤ u.id) = before := by
    refine List.filter_eq_self.2 fun v member => ?_
    simpa using UInt64.le_of_lt (below v member)
  have gone : after.filter (fun v => v.id ≤ u.id) = [] := by
    refine List.filter_eq_nil_iff.2 fun v member => ?_
    simpa using above v member
  rw [upTo, units, List.filter_append, List.filter_cons, kept, gone]
  simp

end Registry

namespace Runner

section Calls

variable [Server σ]

/-- The actions that a run starts, in their order. -/
def callsOf (r : Runner σ) (d : Direction) (s : Session σ) : List (Call σ) :=
  (r.run d s).2.calls.drop s.calls.length

theorem callsOf_eq {r : Runner σ} {d : Direction} {s : Session σ} {calls : List (Call σ)}
    (more : (r.run d s).2.calls = s.calls ++ calls) : r.callsOf d s = calls := by
  rw [callsOf, more, List.drop_left]

def firstFailure (r : Runner σ) (d : Direction) (s : Session σ) : Option (Call σ) :=
  (r.callsOf d s).find? fun c => !c.succeeded

theorem run_of_ensured {db : Database} {s m : Session σ}
    (ensured : History.ensure db s = (.ok (), m)) (registry : Registry σ)
    (policy : FailurePolicy) (d : Direction) :
    run { db, registry, policy } d s = batch db policy d registry.units m := by
  rw [run_eq, ensured]

end Calls

variable [Server σ] [Bookkeeping σ]

/-- An aborting run ends with the failure of `u` in the session `t`. A run that carries on ends in
the same session if it has no units after `u`. -/
structure CutShort (registry : Registry σ) (db : Database) (d : Direction) (s : Session σ)
    (k : Call σ) (u : MigrationUnit σ) (cause : MigrationError) (t : Session σ)
    (report : Report) : Prop where
  unit : u ∈ registry.units
  called : Calls d u k
  failure : u.action d k.before = (.error cause, t.store)
  aborts : run { db, registry, policy := .abort } d s =
    (.error (.unitFailed u.id u.name cause), t)
  shortened : run { db, registry := registry.upTo u.id, policy := .carryOn } d s = (.ok report, t)
  calls : callsOf { db, registry, policy := .abort } d s =
    (callsOf { db, registry, policy := .carryOn } d s).takeWhile (·.succeeded) ++ [k]
  started : ∀ c ∈ callsOf { db, registry, policy := .abort } d s, c.id ≤ u.id
  applied : report.applied =
    ((callsOf { db, registry, policy := .carryOn } d s).takeWhile (·.succeeded)).map (·.id)
  failed : report.failed = [u.id]
  books : OwnBooks s.store → (∀ v ∈ registry.units, v.LeavesBooks) →
    report.Agrees d (registry.upTo u.id).units (journal s.store) (journal t.store)
  later : OwnBooks s.store → (∀ v ∈ registry.units, v.LeavesBooks) →
    ∀ id, u.id < id → (journal t.store).records id = (journal s.store).records id

theorem Cut.books {registry : Registry σ} (built : registry.Built) {db : Database} {d : Direction}
    {s m : Session σ} (prepared : s.Prepares m) {before after : List (MigrationUnit σ)}
    {u : MigrationUnit σ} (units : registry.units = before ++ u :: after) {done : List (Call σ)}
    {k : Call σ} {cause : MigrationError} {t : Session σ} {report : Report}
    (cut : Cut db d m before u after done k cause t report) (own : OwnBooks s.store)
    (leaves : ∀ v ∈ registry.units, v.LeavesBooks) :
    report.Agrees d (registry.upTo u.id).units (journal s.store) (journal t.store) := by
  have subset : (registry.upTo u.id).units.Sublist registry.units := List.filter_sublist
  have ran := cut.shortened
  rw [← Registry.upTo_units built units] at ran
  rw [← prepared.store.rows]
  exact batch_agrees (fun v member => leaves v (subset.subset member))
    (own.kept.prepared prepared.store) (built.ascending.sublist subset) ran

theorem Cut.cutShort {registry : Registry σ} (built : registry.Built) {db : Database}
    {d : Direction} {s m : Session σ} (prepared : s.Prepares m)
    (ensured : History.ensure db s = (.ok (), m)) {before after : List (MigrationUnit σ)}
    {u : MigrationUnit σ} (units : registry.units = before ++ u :: after) {done : List (Call σ)}
    {k : Call σ} {cause : MigrationError} {t : Session σ} {report : Report}
    (cut : Cut db d m before u after done k cause t report) :
    firstFailure { db, registry, policy := .carryOn } d s = some k ∧
      CutShort registry db d s k u cause t report := by
  have went := run_of_ensured ensured
  obtain ⟨rest, more⟩ := cut.carriesOn
  have all : callsOf { db, registry, policy := .carryOn } d s = done ++ k :: rest := by
    refine callsOf_eq ?_
    rw [went, units, more, cut.calls, prepared.calls]
    simp
  have cutCalls : callsOf { db, registry, policy := .abort } d s = done ++ [k] := by
    refine callsOf_eq ?_
    rw [went, units, cut.aborts, cut.calls, prepared.calls]
  have front : (done ++ k :: rest).takeWhile (·.succeeded) = done := by
    rw [List.takeWhile_append_of_pos cut.succeeded,
      List.takeWhile_cons_of_neg (by simp [cut.failing]), List.append_nil]
  have below : ∀ c ∈ done, c.id < u.id := by
    intro c member
    obtain ⟨v, listed, same⟩ := cut.known c member
    exact same ▸ (built.split units).1 v listed
  refine ⟨?_, ?_, cut.called, cut.failure, ?_, ?_, ?_, ?_, ?_, cut.failed, ?_, ?_⟩
  · have passed : done.find? (fun c => !c.succeeded) = none := by
      simpa using cut.succeeded
    rw [firstFailure, all, List.find?_append, passed, Option.none_or,
      List.find?_cons_of_pos (by simp [cut.failing])]
  · rw [units]
    exact List.mem_append_right _ List.mem_cons_self
  · rw [went, units, cut.aborts]
  · rw [went, Registry.upTo_units built units, cut.shortened]
  · rw [cutCalls, all, front]
  · rw [cutCalls]
    refine List.forall_mem_append.2 ⟨fun c member => UInt64.le_of_lt (below c member), ?_⟩
    simp [cut.called.id]
  · rw [all, front, cut.applied]
  · exact cut.books built prepared units
  · intro own leaves id above
    refine (cut.books built prepared units own leaves).others id fun booked => ?_
    have applied := report.booked_subset _ d booked
    rw [cut.applied] at applied
    obtain ⟨c, member, rfl⟩ := List.mem_map.1 applied
    exact UInt64.lt_irrefl _ (UInt64.lt_trans above (below c member))

/-- Either no action of the run that carries on fails, and then the aborting run is the same run,
or the aborting run is cut at the first action that fails. -/
theorem abort_cuts {registry : Registry σ} (built : registry.Built) (db : Database) (d : Direction)
    (s : Session σ) :
    (firstFailure { db, registry, policy := .carryOn } d s = none →
      run { db, registry, policy := .abort } d s = run { db, registry, policy := .carryOn } d s) ∧
    ∀ k, firstFailure { db, registry, policy := .carryOn } d s = some k →
      ∃ u cause t report, CutShort registry db d s k u cause t report := by
  obtain ⟨m, prepared, ⟨e, stopped⟩ | ⟨ensured, -⟩⟩ := History.ensure_cases db s
  · have ended (policy : FailurePolicy) : run { db, registry, policy } d s = (.error e, m) := by
      rw [run_eq, stopped]
    refine ⟨fun _ => (ended .abort).trans (ended .carryOn).symm, fun k failed => ?_⟩
    have none : callsOf { db, registry, policy := .carryOn } d s = [] := by
      refine callsOf_eq ?_
      rw [ended, prepared.calls, List.append_nil]
    rw [firstFailure, none] at failed
    cases failed
  · have went := run_of_ensured ensured registry
    have course := batch_course db d registry.units m
    generalize units : registry.units = us at course
    cases course with
    | @uncut _ calls uncut =>
      subst units
      refine ⟨fun _ => by rw [went, went, uncut.same], fun k failed => ?_⟩
      have all : callsOf { db, registry, policy := .carryOn } d s = calls := by
        refine callsOf_eq ?_
        rw [went, uncut.called, prepared.calls]
      rw [firstFailure, all] at failed
      have here := List.find?_some failed
      simp [uncut.succeeded k (List.mem_of_find?_eq_some failed)] at here
    | @cut _ u _ _ _ cause t report cut =>
      obtain ⟨first, short⟩ := cut.cutShort built prepared ensured units
      refine ⟨fun none => ?_, fun other failed => ?_⟩
      · rw [first] at none
        cases none
      · rw [first] at failed
        cases failed
        exact ⟨u, cause, t, report, short⟩

def stubbornRegistry : Registry :=
  { units :=
      [.idle 1 "users",
       { MigrationUnit.idle 2 "orders" with up := fun s => (.error (.unit "not now"), s) },
       .idle 3 "items"] }

theorem stubbornRegistry_built : stubbornRegistry.Built :=
  .register (.register (.register .empty (u := .idle 1 "users") rfl)
    (u := { MigrationUnit.idle 2 "orders" with up := fun s => (.error (.unit "not now"), s) })
    rfl) (u := .idle 3 "items") rfl

def stubbornRunner (policy : FailurePolicy) : Runner :=
  { db := sqliteMain, registry := stubbornRegistry, policy }

def emptyStart : Session :=
  .start (.withLedger { rows := [], lastId := 0 })

theorem stubborn_abort_cuts :
    stubbornRegistry.Built ∧
      ((stubbornRunner .carryOn).callsOf .up emptyStart).map (·.id) = [1, 2, 3] ∧
      ((stubbornRunner .abort).callsOf .up emptyStart).map (·.id) = [1, 2] ∧
      ∃ k, firstFailure (stubbornRunner .carryOn) .up emptyStart = some k ∧ k.id = 2 ∧
        ∃ u cause t report, CutShort stubbornRegistry sqliteMain .up emptyStart k u cause t
          report := by
  have failed : firstFailure (stubbornRunner .carryOn) .up emptyStart = some _ := rfl
  exact ⟨stubbornRegistry_built, rfl, rfl, _, failed, rfl,
    (abort_cuts stubbornRegistry_built sqliteMain .up emptyStart).2 _ failed⟩

end Runner

end SchemaShift
