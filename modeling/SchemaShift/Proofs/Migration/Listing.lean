import Mathlib.Data.List.Nodup
import SchemaShift.Migration.History
import SchemaShift.Proofs.Migration.Records

/-!
# The list of records

Rows that can be read come out of a journal in ascending order of their unit ids, each of them
once. What the journal knows of units is the map that these records describe.
-/

namespace SchemaShift

open Text Store

/-! ### Reading rows -/

/-- What a record tells about its unit. -/
structure Entry where
  name : String
  version : String
  status : Int64
deriving DecidableEq

namespace MigrationRecord

def entry (record : MigrationRecord) : Entry :=
  { name := record.name, version := record.version, status := record.status }

def read? (r : Row) : Option MigrationRecord :=
  (ofRow r).toOption

theorem read?_eq_some {r : Row} {record : MigrationRecord} :
    read? r = some record ↔ ofRow r = .ok record := by
  unfold read?
  cases ofRow r <;> simp [Except.toOption]

/-- A row can be read if and only if its numbers and its times can. -/
theorem ofRow_eq_ok {r : Row} {record : MigrationRecord} :
    ofRow r = .ok record ↔
      ∃ key status created updated, numbers r = .ok (key, status) ∧ 0 ≤ key.toInt ∧
        readTime r.createTime.asText = .ok created ∧
        readTime r.updateTime.asText = .ok updated ∧
        record = { id := r.id, migrateId := key.toInt.toNat.toUInt64, name := r.name, status,
                   version := r.version, created, updated } := by
  unfold ofRow
  cases numbers r with
  | error e => simp [bind, Except.bind]
  | ok pair =>
    obtain ⟨key, status⟩ := pair
    by_cases negative : key < 0
    · have below : ¬0 ≤ key.toInt := by
        rw [Int64.lt_iff_toInt_lt] at negative
        exact Int.not_le.2 negative
      simp [negative, below, bind, Except.bind, throw, throwThe, MonadExceptOf.throw]
    · have natural : 0 ≤ key.toInt := by
        rw [Int64.lt_iff_toInt_lt] at negative
        exact Int.not_lt.1 negative
      cases readTime r.createTime.asText with
      | error e => simp [negative, bind, Except.bind]
      | ok created =>
        cases readTime r.updateTime.asText with
        | error e => simp [negative, bind, Except.bind]
        | ok updated =>
          simp [negative, natural, bind, Except.bind, pure, Except.pure, eq_comm]

theorem mapM_readable {α β ε : Type} {f : α → Except ε β} {xs : List α}
    (each : ∀ x ∈ xs, ∃ y, f x = .ok y) :
    xs.mapM f = .ok (xs.filterMap fun x => (f x).toOption) := by
  induction xs with
  | nil => rfl
  | cons x xs ih =>
    obtain ⟨⟨y, first⟩, rest⟩ := List.forall_mem_cons.1 each
    rw [List.mapM_cons, first, ih rest, List.filterMap_cons, first]
    rfl

theorem readable_of_mapM {α β ε : Type} {f : α → Except ε β} {xs : List α} {ys : List β}
    (read : xs.mapM f = .ok ys) : ∀ x ∈ xs, ∃ y, f x = .ok y := by
  induction xs generalizing ys with
  | nil => exact fun x member => (nomatch member)
  | cons x xs ih =>
    rw [List.mapM_cons] at read
    cases first : f x with
    | error e =>
      rw [first] at read
      cases read
    | ok y =>
      cases rest : xs.mapM f with
      | error e =>
        rw [first, rest] at read
        cases read
      | ok ys => exact List.forall_mem_cons.2 ⟨⟨y, first⟩, ih rest⟩

/-- Rows that can be read one by one can be read together. -/
theorem ofRows_readable {rows : List Row}
    (readable : ∀ r ∈ rows, ∃ record, ofRow r = .ok record) :
    ofRows rows = .ok (rows.filterMap read?) := by
  have numbered : ∀ r ∈ rows, ∃ pair, numbers r = .ok pair := by
    intro r member
    obtain ⟨record, read⟩ := readable r member
    obtain ⟨key, status, -, -, found, -⟩ := ofRow_eq_ok.1 read
    exact ⟨_, found⟩
  unfold ofRows
  rw [mapM_readable numbered, mapM_readable readable]
  rfl

theorem ofRows_ok {rows : List Row} {records : List MigrationRecord}
    (read : ofRows rows = .ok records) :
    (∀ r ∈ rows, ∃ record, ofRow r = .ok record) ∧ records = rows.filterMap read? := by
  have readable : ∀ r ∈ rows, ∃ record, ofRow r = .ok record := by
    unfold ofRows at read
    cases numbered : rows.mapM numbers with
    | error e =>
      rw [numbered] at read
      cases read
    | ok pairs =>
      rw [numbered] at read
      exact readable_of_mapM read
  rw [ofRows_readable readable] at read
  exact ⟨readable, (Except.ok.inj read).symm⟩

end MigrationRecord

namespace Journal

/-- Every row is the record of a unit, and no unit has two. -/
structure Sound (j : Journal) : Prop where
  keyed : ∀ r ∈ j.rows, ∃ key, r.migrateId = .int key
  readable : ∀ r ∈ j.rows, ∃ record, MigrationRecord.ofRow r = .ok record
  distinct : (j.rows.map (·.migrateId)).Nodup

/-- What the journal knows of a unit. -/
def known? (j : Journal) (id : UInt64) : Option Entry :=
  ((j.records id).head?.bind MigrationRecord.read?).map MigrationRecord.entry

theorem keyed_record {r : Row} {record : MigrationRecord} {key : Int64}
    (keyed : r.migrateId = .int key) (read : MigrationRecord.ofRow r = .ok record) :
    storedId record.migrateId = .ok key ∧ record.migrateId.toNat = key.toInt := by
  obtain ⟨n, status, created, updated, found, natural, -, -, rfl⟩ :=
    MigrationRecord.ofRow_eq_ok.1 read
  have same : n = key := by
    unfold MigrationRecord.numbers at found
    rw [keyed] at found
    unfold Cell.asInteger? at found
    split at found
    · rename_i read status
      cases found
      exact (Option.some.inj read).symm
    · cases found
  subst same
  have below := n.toInt_lt
  have size : n.toInt.toNat < signedLimit := by
    unfold signedLimit
    omega
  have word : (n.toInt.toNat.toUInt64).toNat = n.toInt.toNat := by
    rw [Nat.toUInt64_eq, UInt64.toNat_ofNat_of_lt']
    exact Nat.lt_trans size (by decide)
  dsimp only
  rw [storedId_iff, word]
  refine ⟨⟨size, ?_⟩, Int.toNat_of_nonneg natural⟩
  rw [← Int64.toInt_inj, toInt_ofNat size]
  exact Int.toNat_of_nonneg natural

theorem mem_records {j : Journal} {id : UInt64} {r : Row} :
    r ∈ j.records id ↔ ∃ key, storedId id = .ok key ∧ r ∈ j.rows ∧ r.migrateId = .int key := by
  unfold records
  split
  · rename_i key stored
    simp [Ledger.isFor, stored]
  · rename_i e failed
    simp [failed]

theorem eq_singleton {α β : Type} {f : α → β} {xs : List α} {x : α} {c : β}
    (distinct : (xs.map f).Nodup) (same : ∀ y ∈ xs, f y = c) (member : x ∈ xs) : xs = [x] := by
  match xs with
  | [] => cases member
  | [y] => rw [List.mem_singleton.1 member]
  | y :: z :: rest =>
    have first := same y (by simp)
    have second := same z (by simp)
    simp [first, second] at distinct

namespace Sound

variable {j : Journal} (sound : j.Sound)
include sound

/-- A row that is read as the record of a unit is the only row of that unit. -/
theorem records_eq {r : Row} {record : MigrationRecord} (member : r ∈ j.rows)
    (read : MigrationRecord.read? r = some record) : j.records record.migrateId = [r] := by
  obtain ⟨key, keyed⟩ := sound.keyed r member
  obtain ⟨stored, -⟩ := keyed_record keyed (MigrationRecord.read?_eq_some.1 read)
  have mine : r ∈ j.records record.migrateId := mem_records.2 ⟨key, stored, member, keyed⟩
  have distinct : ((j.records record.migrateId).map (·.migrateId)).Nodup := by
    rw [records_of_key stored]
    exact sound.distinct.sublist (List.filter_sublist.map _)
  have same : ∀ other ∈ j.records record.migrateId, other.migrateId = .int key := by
    intro other there
    obtain ⟨k, held, -, found⟩ := mem_records.1 there
    rw [stored] at held
    cases held
    exact found
  exact eq_singleton distinct same mine

theorem known?_eq_some {id : UInt64} {e : Entry} :
    j.known? id = some e ↔
      ∃ r ∈ j.rows, ∃ record, MigrationRecord.read? r = some record ∧
        record.migrateId = id ∧ record.entry = e := by
  constructor
  · intro known
    obtain ⟨record, found, entry⟩ := Option.map_eq_some_iff.1 known
    obtain ⟨r, first, read⟩ := Option.bind_eq_some_iff.1 found
    obtain ⟨key, stored, member, keyed⟩ := mem_records.1 (List.mem_of_head? first)
    obtain ⟨own, -⟩ := keyed_record keyed (MigrationRecord.read?_eq_some.1 read)
    exact ⟨r, member, record, read, storedId_injective own stored, entry⟩
  · rintro ⟨r, member, record, read, rfl, rfl⟩
    rw [known?, sound.records_eq member read, List.head?_cons, Option.bind_some, read]
    rfl

theorem known?_isSome (id : UInt64) : (j.known? id).isSome = j.recorded id := by
  unfold known? recorded
  cases rows : j.records id with
  | nil => rfl
  | cons r rest =>
    have mine : r ∈ j.records id := by simp [rows]
    obtain ⟨-, -, member, -⟩ := mem_records.1 mine
    obtain ⟨record, read⟩ := sound.readable r member
    rw [List.head?_cons, Option.bind_some, MigrationRecord.read?_eq_some.2 read]
    rfl

/-- Sorted rows can be listed: each entry stands in the list once, and the ids ascend. -/
theorem list_records {rows : List Row} (same : rows.Perm j.rows)
    (ascending : rows.Pairwise fun a b => a.migrateId.le b.migrateId = true) :
    ∃ records, MigrationRecord.ofRows rows = .ok records ∧
      records.Pairwise (fun a b => a.migrateId < b.migrateId) ∧
      ∀ id e, (∃ record ∈ records, record.migrateId = id ∧ record.entry = e) ↔
        j.known? id = some e := by
  have distinct : (rows.map (·.migrateId)).Nodup := (same.map _).nodup_iff.2 sound.distinct
  refine ⟨rows.filterMap MigrationRecord.read?, MigrationRecord.ofRows_readable ?_, ?_, ?_⟩
  · exact fun r member => sound.readable r (same.mem_iff.1 member)
  · rw [List.pairwise_filterMap]
    refine (ascending.and (List.pairwise_map.1 distinct)).imp_of_mem ?_
    rintro a b ma mb ⟨le, ne⟩ first readFirst last readLast
    obtain ⟨m, keyedFirst⟩ := sound.keyed a (same.mem_iff.1 ma)
    obtain ⟨n, keyedLast⟩ := sound.keyed b (same.mem_iff.1 mb)
    have sizeFirst := (keyed_record keyedFirst (MigrationRecord.read?_eq_some.1 readFirst)).2
    have sizeLast := (keyed_record keyedLast (MigrationRecord.read?_eq_some.1 readLast)).2
    rw [keyedFirst, keyedLast] at le ne
    have below : m.toInt ≤ n.toInt := Int64.le_iff_toInt_le.1 (of_decide_eq_true le)
    have apart : m.toInt ≠ n.toInt := fun eq => ne (congrArg Cell.int (Int64.toInt_inj.1 eq))
    rw [UInt64.lt_iff_toNat_lt]
    omega
  · intro id e
    rw [sound.known?_eq_some]
    simp only [List.mem_filterMap, same.mem_iff]
    constructor
    · rintro ⟨record, ⟨r, member, read⟩, rfl, rfl⟩
      exact ⟨r, member, record, read, rfl, rfl⟩
    · rintro ⟨r, member, record, read, rfl, rfl⟩
      exact ⟨record, ⟨r, member, read⟩, rfl, rfl⟩

/-! ### Writing and erasing -/

section Writing

variable {id : UInt64} {key : Int64} (stored : storedId id = .ok key)
include stored

theorem known?_write {r : Row} {name version : String} {status : Int64}
    (absent : j.recorded id = false) (record : r.Records key name status version)
    (dated : ∃ created updated, MigrationRecord.readTime r.createTime.asText = .ok created ∧
      MigrationRecord.readTime r.updateTime.asText = .ok updated) :
    (j.write r).Sound ∧
      (j.write r).known? = Function.update j.known? id (some { name, version, status }) := by
  obtain ⟨mine, rfl, counted, rfl⟩ := record
  obtain ⟨created, updated, reads, again⟩ := dated
  have natural : 0 ≤ key.toInt := by
    obtain ⟨size, rfl⟩ := storedId_iff.1 stored
    rw [toInt_ofNat size]
    exact Int.natCast_nonneg _
  have numbered : MigrationRecord.numbers r = .ok (key, status) := by
    rw [MigrationRecord.numbers, mine, counted]
    rfl
  have read : MigrationRecord.ofRow r = .ok _ :=
    MigrationRecord.ofRow_eq_ok.2 ⟨key, status, created, updated, numbered, natural, reads, again,
      rfl⟩
  refine ⟨⟨?_, ?_, ?_⟩, ?_⟩
  · exact List.forall_mem_append.2 ⟨sound.keyed, List.forall_mem_singleton.2 ⟨key, mine⟩⟩
  · exact List.forall_mem_append.2 ⟨sound.readable, List.forall_mem_singleton.2 ⟨_, read⟩⟩
  · rw [write, List.map_append, List.map_singleton, List.nodup_append]
    refine ⟨sound.distinct, List.nodup_singleton _, ?_⟩
    rintro cell old fresh new rfl
    obtain ⟨other, member, rfl⟩ := List.mem_map.1 old
    have same : other.migrateId = .int key := (List.mem_singleton.1 new).trans mine
    have there : other ∈ j.records id := mem_records.2 ⟨key, stored, member, same⟩
    rw [records_of_unrecorded absent] at there
    cases there
  · funext other
    by_cases own : other = id
    · subst own
      rw [known?, records_write stored mine, records_of_unrecorded absent, List.nil_append,
        List.head?_cons, Option.bind_some, MigrationRecord.read?_eq_some.2 read,
        Function.update_self]
      rfl
    · rw [known?, records_write_other stored own mine, Function.update_of_ne own, known?]

theorem known?_erase (room : Nat) :
    (j.erase key room).Sound ∧ (j.erase key room).known? = Function.update j.known? id none := by
  have fewer : (j.erase key room).rows.Sublist j.rows := List.filter_sublist
  refine ⟨⟨?_, ?_, ?_⟩, ?_⟩
  · exact fun r member => sound.keyed r (fewer.subset member)
  · exact fun r member => sound.readable r (fewer.subset member)
  · exact sound.distinct.sublist (fewer.map _)
  · funext other
    by_cases own : other = id
    · subst own
      rw [known?, records_erase stored, Function.update_self]
      rfl
    · rw [known?, records_erase_other stored own, Function.update_of_ne own, known?]

end Writing

end Sound

end Journal

end SchemaShift
