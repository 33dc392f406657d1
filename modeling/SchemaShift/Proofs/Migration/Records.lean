import SchemaShift.Migration.Registry
import SchemaShift.Store.Ledger

/-!
# Records of units

A server holds rows about units in the order they were written. It knows a unit by its key, and no
two units share one. Writing or erasing the rows of one unit leaves those of the others alone.
-/

namespace SchemaShift

open Text Store

theorem storedId_iff {id : UInt64} {key : Int64} :
    storedId id = .ok key ↔ id.toNat < signedLimit ∧ Int64.ofNat id.toNat = key := by
  unfold storedId
  split
  · rename_i lt
    simp [lt]
  · rename_i nlt
    simp [nlt]

theorem toInt_ofNat {n : Nat} (lt : n < signedLimit) : (Int64.ofNat n).toInt = n :=
  Int64.toInt_ofNat_of_lt lt

theorem storedId_injective {a b : UInt64} {key : Int64} (ha : storedId a = .ok key)
    (hb : storedId b = .ok key) : a = b := by
  obtain ⟨lta, rfl⟩ := storedId_iff.1 ha
  obtain ⟨ltb, same⟩ := storedId_iff.1 hb
  have ints := congrArg Int64.toInt same
  rw [toInt_ofNat lta, toInt_ofNat ltb] at ints
  exact UInt64.toNat_inj.1 (by omega)

/-- The row is a record of the unit with this key. -/
structure Store.Row.Records (r : Row) (key : Int64) (name : String) (status : Int64)
    (version : String) : Prop where
  key : r.migrateId = .int key
  name : r.name = name
  status : r.status = .int status
  version : r.version = version

structure Journal where
  /-- The rows in the order they were written. -/
  rows : List Row
  /-- For how many more rows there are numbers. -/
  room : Nat

namespace Journal

/-- The rows of a unit. A unit without a key has none. -/
def records (j : Journal) (id : UInt64) : List Row :=
  match storedId id with
  | .ok key => j.rows.filter (Ledger.isFor key)
  | .error _ => []

def recorded (j : Journal) (id : UInt64) : Bool :=
  !(j.records id).isEmpty

def count (j : Journal) (key : Int64) : Nat :=
  (j.rows.filter (Ledger.isFor key)).length

def write (j : Journal) (r : Row) : Journal :=
  { rows := j.rows ++ [r], room := j.room - 1 }

def erase (j : Journal) (key : Int64) (room : Nat) : Journal :=
  { rows := j.rows.filter fun r => !Ledger.isFor key r, room }

theorem records_bare {j : Journal} (bare : j.rows = []) (id : UInt64) : j.records id = [] := by
  unfold records
  rw [bare]
  split <;> rfl

theorem stored_of_recorded {j : Journal} {id : UInt64} (recorded : j.recorded id = true) :
    ∃ key, storedId id = .ok key := by
  cases stored : storedId id with
  | ok key => exact ⟨key, rfl⟩
  | error e => simp [Journal.recorded, records, stored] at recorded

theorem records_of_unrecorded {j : Journal} {id : UInt64} (absent : j.recorded id = false) :
    j.records id = [] := by
  simpa [recorded] using absent

section Keyed

variable {id : UInt64} {key : Int64} (stored : storedId id = .ok key)
include stored

theorem records_of_key (j : Journal) : j.records id = j.rows.filter (Ledger.isFor key) := by
  rw [records, stored]

theorem recorded_eq_count (j : Journal) : (j.count key != 0) = j.recorded id := by
  rw [recorded, records_of_key stored, count]
  cases j.rows.filter (Ledger.isFor key) <;> rfl

theorem count_of_unrecorded {j : Journal} (absent : j.recorded id = false) : j.count key = 0 := by
  rw [← recorded_eq_count stored] at absent
  simpa using absent

theorem records_write {r : Row} (mine : r.migrateId = .int key) (j : Journal) :
    (j.write r).records id = j.records id ++ [r] := by
  rw [records_of_key stored, records_of_key stored, write, List.filter_append]
  congr 1
  simp [Ledger.isFor, mine]

theorem records_erase (j : Journal) (room : Nat) : (j.erase key room).records id = [] := by
  rw [records_of_key stored, erase, List.filter_filter]
  simp

end Keyed

section Other

variable {id other : UInt64} {key : Int64} (stored : storedId id = .ok key)
  (different : other ≠ id)
include stored different

theorem key_ne {k : Int64} (held : storedId other = .ok k) : key ≠ k := by
  rintro rfl
  exact different (storedId_injective held stored)

theorem records_write_other {r : Row} (mine : r.migrateId = .int key) (j : Journal) :
    (j.write r).records other = j.records other := by
  unfold records
  split
  · rename_i k held
    have ne := key_ne stored different held
    rw [write, List.filter_append, List.append_right_eq_self]
    simp [Ledger.isFor, mine, ne]
  · rfl

theorem records_erase_other (j : Journal) (room : Nat) :
    (j.erase key room).records other = j.records other := by
  unfold records
  split
  · rename_i k held
    have ne := key_ne stored different held
    rw [erase, List.filter_filter]
    refine List.filter_congr fun r _ => ?_
    by_cases mine : r.migrateId = .int k
    · simp [Ledger.isFor, mine, Ne.symm ne]
    · simp [Ledger.isFor, mine]
  · rfl

end Other

end Journal

end SchemaShift
