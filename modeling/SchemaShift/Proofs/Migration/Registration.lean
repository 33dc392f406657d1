import SchemaShift.Proofs.Migration.Records
import SchemaShift.Proofs.Migration.Registry

/-!
# Filling a registry

A registry is filled by calls that register one unit or load a bundle. What a call does to it is
settled unit by unit, so that every invariant of a whole history follows from one registration.
-/

namespace SchemaShift.Registry

open Text

/-- A call on a registry that is being filled. -/
inductive Call where
  | register (u : MigrationUnit)
  | load (b : UnitBundle)

def Call.units : Call → List MigrationUnit
  | .register u => [u]
  | .load b => b.units

/-- The answer to a call, and the registry that it leaves. -/
def take (r : Registry) : Call → Except MigrationError Unit × Registry
  | .register u =>
    match r.register u with
    | .ok t => (.ok (), t)
    | .error e => (.error e, r)
  | .load b => r.load b

def takeAll (r : Registry) (calls : List Call) : Registry :=
  calls.foldl (fun r c => (r.take c).2) r

/-- Those of the units, offered in order, that are tried: the first refused one is the last. -/
def tried (r : Registry) : List MigrationUnit → List MigrationUnit
  | [] => []
  | u :: us =>
    match r.register u with
    | .ok t => u :: t.tried us
    | .error _ => [u]

/-- All units that are tried in the course of the calls, in order. -/
def triedIn (r : Registry) : List Call → List MigrationUnit
  | [] => []
  | c :: cs => r.tried c.units ++ (r.take c).2.triedIn cs

/-- What comes of registering a unit: an id without room is refused first, then one that is taken,
and neither refusal touches the registry. -/
inductive Registers (r : Registry) (u : MigrationUnit) :
    Except MigrationError Unit × Registry → Prop where
  | outOfRange (above : signedLimit ≤ u.id.toNat) :
      Registers r u (.error (.idOutOfRange (natText u.id.toNat)), r)
  | taken (room : u.id.toNat < signedLimit) (held : u.id ∈ r.ids) :
      Registers r u (.error (.duplicateId u.id), r)
  | registered {t : Registry} (room : u.id.toNat < signedLimit) (free : u.id ∉ r.ids)
      (units : t.units.Perm (u :: r.units)) : Registers r u (.ok (), t)

/-- What comes of loading units: all are registered, or those before the first one that is refused,
and the error is the one of that refusal. -/
inductive Loads (r : Registry) (us : List MigrationUnit) :
    Except MigrationError Unit × Registry → Prop where
  | loaded {t : Registry} (units : t.units.Perm (r.units ++ us)) : Loads r us (.ok (), t)
  | stopped {t : Registry} {before rest : List MigrationUnit} {u : MigrationUnit}
      {e : MigrationError} (offered : us = before ++ u :: rest)
      (units : t.units.Perm (r.units ++ before)) (refused : t.take (.register u) = (.error e, t)) :
      Loads r us (.error e, t)

/-! ### One registration -/

theorem registers (r : Registry) (u : MigrationUnit) : r.Registers u (r.take (.register u)) := by
  rcases register_cases r u with ⟨above, answer⟩ | ⟨room, held, answer⟩ | ⟨room, free, answer⟩
  · simp only [take, answer]
    exact .outOfRange above
  · simp only [take, answer]
    exact .taken room held
  · simp only [take, answer]
    exact .registered room free (perm_insertUnit u r.units)

/-! ### Units in a row -/

theorem take_eq_registerAll (r : Registry) (c : Call) : r.take c = r.registerAll c.units := by
  cases c with
  | load b => rfl
  | register u =>
    simp only [take, Call.units, registerAll]
    cases r.register u <;> rfl

theorem loads (r : Registry) (us : List MigrationUnit) : r.Loads us (r.registerAll us) := by
  induction us generalizing r with
  | nil => exact .loaded (by simp)
  | cons u us ih =>
    unfold registerAll
    cases answer : r.register u with
    | error e =>
      have refused : r.take (.register u) = (.error e, r) := by simp only [take, answer]
      have offered : u :: us = [] ++ u :: us := rfl
      exact .stopped offered (by simp) refused
    | ok t =>
      obtain ⟨-, -, units⟩ := register_ok answer
      have grown (more : List MigrationUnit) :
          (t.units ++ more).Perm (r.units ++ u :: more) := by
        rw [units]
        exact ((perm_insertUnit u r.units).append_right more).trans List.perm_middle.symm
      have further := ih t
      show r.Loads (u :: us) (t.registerAll us)
      generalize t.registerAll us = outcome at further ⊢
      cases further with
      | loaded rest => exact .loaded (rest.trans (grown us))
      | stopped offered rest refused =>
        exact .stopped (by rw [offered, List.cons_append]) (rest.trans (grown _)) refused

theorem Built.registerAll {r : Registry} (built : r.Built) (us : List MigrationUnit) :
    (r.registerAll us).2.Built := by
  induction us generalizing r with
  | nil => exact built
  | cons u us ih =>
    unfold Registry.registerAll
    cases answer : r.register u with
    | error e => exact built
    | ok t => exact ih (.register built answer)

theorem Built.takeAll {r : Registry} (built : r.Built) (calls : List Call) :
    (r.takeAll calls).Built := by
  induction calls generalizing r with
  | nil => exact built
  | cons c calls ih =>
    have next := built.registerAll c.units
    rw [← take_eq_registerAll] at next
    exact ih next

/-! ### The first unit of an id -/

/-- Under each id that has room stands the first of the units with it, and under others none. -/
def HoldsFirst (r : Registry) (seen : List MigrationUnit) : Prop :=
  ∀ id : UInt64, r.get? id = if id.toNat < signedLimit then seen.find? (·.id == id) else none

theorem find?_insertUnit {u : MigrationUnit} {us : List MigrationUnit}
    (fresh : ∀ v ∈ us, v.id ≠ u.id) (id : UInt64) :
    (insertUnit u us).find? (·.id == id) =
      if u.id = id then some u else us.find? (·.id == id) := by
  induction us with
  | nil =>
    by_cases own : u.id = id
    · simp [insertUnit, own]
    · simp [insertUnit, own]
  | cons v us ih =>
    obtain ⟨first, rest⟩ := List.forall_mem_cons.1 fresh
    unfold insertUnit
    split
    · by_cases own : u.id = id
      · simp [own]
      · simp [own]
    · by_cases other : v.id = id
      · subst other
        simp [Ne.symm first]
      · have unlike : (v.id == id) = false := by simpa using other
        rw [List.find?_cons, unlike, ih rest, List.find?_cons, unlike]

/-- A unit changes what is found exactly if it is the first with its id. -/
theorem HoldsFirst.one {r : Registry} {seen : List MigrationUnit} (first : r.HoldsFirst seen)
    (u : MigrationUnit) : (r.take (.register u)).2.HoldsFirst (seen ++ [u]) := by
  intro id
  rw [List.find?_append]
  have before := first id
  rcases register_cases r u with ⟨above, answer⟩ | ⟨room, held, answer⟩ | ⟨room, free, answer⟩
  · simp only [take, answer, before]
    split
    · rename_i below
      have unlike : u.id ≠ id := fun same => by
        rw [same] at above
        omega
      simp [unlike]
    · rfl
  · simp only [take, answer, before]
    split
    · rename_i below
      by_cases own : u.id = id
      · subst own
        have there : r.get? u.id ≠ none := fun absent => (get?_eq_none_iff r u.id).1 absent held
        rw [before, if_pos below] at there
        obtain ⟨v, found⟩ := Option.ne_none_iff_exists'.1 there
        simp [found]
      · simp [own]
    · rfl
  · have fresh : ∀ v ∈ r.units, v.id ≠ u.id := fun v member same =>
      free (List.mem_map.2 ⟨v, member, same⟩)
    have found : ({ units := insertUnit u r.units } : Registry).get? id =
        if u.id = id then some u else r.get? id := find?_insertUnit fresh id
    simp only [take, answer, found]
    by_cases own : u.id = id
    · subst own
      have absent := (get?_eq_none_iff r u.id).2 free
      rw [before, if_pos room] at absent
      rw [if_pos rfl, if_pos room, absent]
      simp
    · simp [own, before]

theorem HoldsFirst.registerAll {r : Registry} {seen : List MigrationUnit}
    (first : r.HoldsFirst seen) (us : List MigrationUnit) :
    (r.registerAll us).2.HoldsFirst (seen ++ r.tried us) := by
  induction us generalizing r seen with
  | nil => simpa [Registry.registerAll, tried] using first
  | cons u us ih =>
    have next := first.one u
    unfold Registry.registerAll tried
    cases answer : r.register u with
    | error e =>
      simp only [take, answer] at next
      exact next
    | ok t =>
      simp only [take, answer] at next
      simpa using ih next

theorem HoldsFirst.takeAll {r : Registry} {seen : List MigrationUnit} (first : r.HoldsFirst seen)
    (calls : List Call) : (r.takeAll calls).HoldsFirst (seen ++ r.triedIn calls) := by
  induction calls generalizing r seen with
  | nil => simpa [Registry.takeAll, triedIn] using first
  | cons c calls ih =>
    have next := first.registerAll c.units
    rw [← take_eq_registerAll] at next
    have whole := ih next
    rwa [List.append_assoc] at whole

theorem holdsFirst_empty : Registry.empty.HoldsFirst [] := by
  intro id
  simp [empty, get?]

/-- The state of a registry with which registration of the units `seen` was tried, in this order:
its ids strictly ascend and have room, each is that of the first unit that came with it, and one
more call does what it says. -/
structure Filled (r : Registry) (seen : List MigrationUnit) : Prop where
  ascending : r.units.Pairwise fun u v => u.id < v.id
  room : ∀ u ∈ r.units, u.id.toNat < signedLimit
  first : r.HoldsFirst seen
  register : ∀ u, r.Registers u (r.take (.register u))
  load : ∀ b : UnitBundle, r.Loads b.units (r.take (.load b))

/-- Every registry is so filled, whatever calls it was filled by. -/
theorem takeAll_filled (calls : List Call) :
    (Registry.empty.takeAll calls).Filled (Registry.empty.triedIn calls) where
  ascending := (Built.empty.takeAll calls).ascending
  room := by
    intro u member
    obtain ⟨key, stored⟩ := (Built.empty.takeAll calls).stored member
    exact (storedId_iff.1 stored).1
  first := holdsFirst_empty.takeAll calls
  register := registers _
  load := by
    intro b
    rw [take_eq_registerAll]
    exact loads _ b.units

end SchemaShift.Registry
