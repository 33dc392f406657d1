import Mathlib.Order.Basic
import SchemaShift.Migration.Registry

/-!
# Registries

A registry is filled by registering units one after another. However that goes, its ids strictly
ascend and every one of them has a key.
-/

namespace SchemaShift

open Text

namespace Registry

variable {σ : Type}

def ids (r : Registry σ) : List UInt64 :=
  r.units.map (·.id)

inductive Built : Registry σ → Prop where
  | empty : Built .empty
  | register {r t : Registry σ} {u : MigrationUnit σ} (built : Built r)
      (registered : r.register u = .ok t) : Built t

theorem perm_insertUnit (u : MigrationUnit σ) (us : List (MigrationUnit σ)) :
    (insertUnit u us).Perm (u :: us) := by
  induction us with
  | nil => exact .refl _
  | cons v us ih =>
    unfold insertUnit
    split
    · exact .refl _
    · exact (ih.cons v).trans (.swap u v us)

theorem mem_insertUnit {u v : MigrationUnit σ} {us : List (MigrationUnit σ)} :
    v ∈ insertUnit u us ↔ v = u ∨ v ∈ us :=
  (perm_insertUnit u us).mem_iff.trans List.mem_cons

theorem pairwise_insertUnit {u : MigrationUnit σ} {us : List (MigrationUnit σ)}
    (ascending : us.Pairwise fun a b => a.id < b.id) (fresh : ∀ v ∈ us, v.id ≠ u.id) :
    (insertUnit u us).Pairwise fun a b => a.id < b.id := by
  induction us with
  | nil => simp [insertUnit]
  | cons w us ih =>
    obtain ⟨above, tail⟩ := List.pairwise_cons.1 ascending
    obtain ⟨first, rest⟩ := List.forall_mem_cons.1 fresh
    unfold insertUnit
    split
    · rename_i lt
      refine List.pairwise_cons.2 ⟨fun v member => ?_, ascending⟩
      rcases List.mem_cons.1 member with rfl | later
      · exact lt
      · exact UInt64.lt_trans lt (above v later)
    · rename_i nlt
      have lt : w.id < u.id := by
        rcases UInt64.lt_or_lt_of_ne first with lt | gt
        · exact lt
        · exact absurd gt nlt
      refine List.pairwise_cons.2 ⟨fun v member => ?_, ih tail rest⟩
      rcases mem_insertUnit.1 member with rfl | later
      · exact lt
      · exact above v later

theorem get?_eq_none_iff (r : Registry σ) (id : UInt64) : r.get? id = none ↔ id ∉ r.ids := by
  simp only [get?, List.find?_eq_none, ids, List.mem_map, beq_iff_eq, not_exists, not_and]

/-- An id without room is refused before one that is taken. -/
theorem register_cases (r : Registry σ) (u : MigrationUnit σ) :
    (signedLimit ≤ u.id.toNat ∧ r.register u = .error (.idOutOfRange (natText u.id.toNat))) ∨
    (u.id.toNat < signedLimit ∧ u.id ∈ r.ids ∧ r.register u = .error (.duplicateId u.id)) ∨
    (u.id.toNat < signedLimit ∧ u.id ∉ r.ids ∧
      r.register u = .ok { units := insertUnit u r.units }) := by
  unfold register
  by_cases room : u.id.toNat < signedLimit
  · have stored : storedId u.id = .ok (Int64.ofNat u.id.toNat) := if_pos room
    rw [stored]
    cases found : r.get? u.id with
    | none =>
      exact .inr (.inr ⟨room, (get?_eq_none_iff r u.id).1 found, rfl⟩)
    | some v =>
      have held : u.id ∈ r.ids := by
        by_contra free
        rw [(get?_eq_none_iff r u.id).2 free] at found
        cases found
      exact .inr (.inl ⟨room, held, rfl⟩)
  · have refused : storedId u.id = .error (.idOutOfRange (natText u.id.toNat)) := if_neg room
    rw [refused]
    exact .inl ⟨Nat.le_of_not_lt room, rfl⟩

theorem register_ok {r t : Registry σ} {u : MigrationUnit σ} (registered : r.register u = .ok t) :
    (∃ key, storedId u.id = .ok key) ∧ r.get? u.id = none ∧ t.units = insertUnit u r.units := by
  rcases register_cases r u with ⟨-, answer⟩ | ⟨-, -, answer⟩ | ⟨room, free, answer⟩
  · rw [registered] at answer
    cases answer
  · rw [registered] at answer
    cases answer
  · rw [registered] at answer
    cases answer
    exact ⟨⟨_, if_pos room⟩, (get?_eq_none_iff r u.id).2 free, rfl⟩

theorem Built.ascending {r : Registry σ} (built : r.Built) :
    r.units.Pairwise fun a b => a.id < b.id := by
  induction built with
  | empty => exact List.Pairwise.nil
  | register _ registered ih =>
    obtain ⟨-, absent, units⟩ := register_ok registered
    rw [units]
    refine pairwise_insertUnit ih fun v member => ?_
    simpa using List.find?_eq_none.1 absent v member

theorem Built.stored {r : Registry σ} (built : r.Built) {u : MigrationUnit σ}
    (member : u ∈ r.units) : ∃ key, storedId u.id = .ok key := by
  induction built with
  | empty => cases member
  | register _ registered ih =>
    obtain ⟨stored, -, units⟩ := register_ok registered
    rw [units] at member
    rcases mem_insertUnit.1 member with rfl | old
    · exact stored
    · exact ih old

end Registry

end SchemaShift
