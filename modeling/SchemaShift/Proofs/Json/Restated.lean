import Mathlib.Data.List.Forall2
import Mathlib.Data.List.Perm.Basic
import SchemaShift.Json.Basic
import SchemaShift.Proofs.Schema.NameMap
import SchemaShift.Proofs.Text.Integer

/-!
# Restated values

The members of an object have no order, and some may be left out where they say nothing. A value
is restated by putting the members of its objects into any order and leaving out some spare ones.
`RoundTrips` says that a reader takes what was written however it is restated; it is carried from
the parts of a record to the record.
-/

namespace SchemaShift.Json

/-! ### Restating -/

/-- The same members, each with a related value, but for some of those that are `spare`. -/
inductive Thinned (spare : String × Json) (R : Json → Json → Prop) : Record → Record → Prop where
  | nil : Thinned spare R [] []
  | keep {name : String} {j k : Json} {ms ks : Record} (value : R j k)
      (rest : Thinned spare R ms ks) : Thinned spare R ((name, j) :: ms) ((name, k) :: ks)
  | leaveOut {ms ks : Record} (rest : Thinned spare R ms ks) : Thinned spare R (spare :: ms) ks

/-- The second value restates the first. A member that may be left out is given by its name and
the value with which it may. -/
inductive Restated (spare : String × Json) : Json → Json → Prop where
  | same (j : Json) : Restated spare j j
  | array {js ks : List Json} (items : List.Forall₂ (Restated spare) js ks) :
      Restated spare (.array js) (.array ks)
  | object {ms ns ks : Record} (order : ms.Perm ns)
      (members : Thinned spare (Restated spare) ns ks) :
      Restated spare (.object ms) (.object ks)

section

variable {spare : String × Json} {R : Json → Json → Prop} {ms ks : Record}

theorem Thinned.refl (same : ∀ j, R j j) (ms : Record) : Thinned spare R ms ms := by
  induction ms with
  | nil => exact .nil
  | cons m ms ih => exact .keep (same m.2) ih

theorem Thinned.names (thinned : Thinned spare R ms ks) :
    (ks.map (·.1)).Sublist (ms.map (·.1)) := by
  induction thinned with
  | nil => exact .slnil
  | keep _ _ ih => exact ih.cons_cons _
  | leaveOut _ ih => exact ih.cons _

theorem Thinned.kept (thinned : Thinned spare R ms ks) {name : String} {j : Json}
    (member : (name, j) ∈ ms) (needed : (name, j) ≠ spare) : ∃ k, (name, k) ∈ ks ∧ R j k := by
  induction thinned with
  | nil => cases member
  | keep value _ ih =>
    rcases List.mem_cons.1 member with same | later
    · cases same
      exact ⟨_, List.mem_cons_self, value⟩
    · obtain ⟨k, there, related⟩ := ih later
      exact ⟨k, List.mem_cons_of_mem _ there, related⟩
  | leaveOut _ ih =>
    rcases List.mem_cons.1 member with same | later
    · exact absurd same needed
    · exact ih later

theorem Thinned.origin (thinned : Thinned spare R ms ks) {name : String} {k : Json}
    (member : (name, k) ∈ ks) : ∃ j, (name, j) ∈ ms ∧ R j k := by
  induction thinned with
  | nil => cases member
  | keep value _ ih =>
    rcases List.mem_cons.1 member with same | later
    · cases same
      exact ⟨_, List.mem_cons_self, value⟩
    · obtain ⟨j, there, related⟩ := ih later
      exact ⟨j, List.mem_cons_of_mem _ there, related⟩
  | leaveOut _ ih =>
    obtain ⟨j, there, related⟩ := ih member
    exact ⟨j, List.mem_cons_of_mem _ there, related⟩

/-- Where nothing is spare, member stands against member. -/
theorem Thinned.pairs (thinned : Thinned spare R ms ks) (needed : spare ∉ ms) :
    List.Forall₂ (fun m n => m.1 = n.1 ∧ R m.2 n.2) ms ks := by
  induction thinned with
  | nil => exact .nil
  | keep value _ ih =>
    exact .cons ⟨rfl, value⟩ (ih fun later => needed (List.mem_cons_of_mem _ later))
  | leaveOut => exact absurd List.mem_cons_self needed

end

section

variable {spare : String × Json} {k : Json}

theorem Restated.of_string {s : String} (restated : Restated spare (.string s) k) :
    k = .string s := by
  cases restated
  rfl

theorem Restated.of_array {js : List Json} (restated : Restated spare (.array js) k) :
    ∃ ks, k = .array ks ∧ List.Forall₂ (Restated spare) js ks := by
  cases restated with
  | same => exact ⟨js, rfl, List.forall₂_same.2 fun j _ => .same j⟩
  | array items => exact ⟨_, rfl, items⟩

theorem Restated.of_object {ms : Record} (restated : Restated spare (.object ms) k) :
    ∃ ns ks, k = .object ks ∧ ms.Perm ns ∧ Thinned spare (Restated spare) ns ks := by
  cases restated with
  | same => exact ⟨ms, ms, rfl, .refl _, .refl .same ms⟩
  | object order members => exact ⟨_, _, rfl, order, members⟩

/-- An object with one member that is needed keeps this shape. -/
theorem Restated.of_variant {name : String} {j : Json}
    (restated : Restated spare (.object [(name, j)]) k) (needed : name ≠ spare.1) :
    ∃ value, k = .object [(name, value)] ∧ Restated spare j value := by
  obtain ⟨ns, ks, rfl, order, members⟩ := restated.of_object
  obtain rfl := List.singleton_perm.1 order
  cases members with
  | keep value rest =>
    cases rest
    exact ⟨_, rfl, value⟩
  | leaveOut => exact absurd rfl needed

end

/-! ### Records -/

/-- The record has each of the members in a restated form, a spare one perhaps not at all. -/
structure Record.Gives (spare : String × Json) (r : Record) (ms : Record) : Prop where
  kept : ∀ name j, (name, j) ∈ ms → (name, j) ≠ spare →
    ∃ k, r.find? name = some k ∧ Restated spare j k
  restated : ∀ name j k, (name, j) ∈ ms → r.find? name = some k → Restated spare j k

theorem Record.find?_iff {r : Record} (distinct : (r.map (·.1)).Nodup) {name : String} {j : Json} :
    r.find? name = some j ↔ (name, j) ∈ r := by
  unfold Record.find?
  rw [Option.map_eq_some_iff]
  constructor
  · rintro ⟨m, found, rfl⟩
    obtain ⟨member, rfl⟩ := find?_key_some found
    exact member
  · intro member
    exact ⟨(name, j), (find?_key_iff distinct).2 ⟨member, rfl⟩, rfl⟩

theorem record?_object {ms : Record} (distinct : (ms.map (·.1)).Nodup) (names : List String)
    (needed : Nat) : record? names needed (.object ms) = some ms := by
  refine if_pos (List.all_eq_true.2 fun name _ => decide_eq_true ?_)
  rw [filter_key_eq_find? distinct]
  cases List.find? (fun m => m.1 == name) ms <;> simp

theorem Restated.record {spare : String × Json} {ms : Record} {k : Json}
    (restated : Restated spare (.object ms) k) (distinct : (ms.map (·.1)).Nodup)
    (names : List String) (needed : Nat) :
    ∃ r, record? names needed k = some r ∧ Record.Gives spare r ms := by
  obtain ⟨ns, ks, rfl, order, members⟩ := restated.of_object
  have inOrder : (ns.map (·.1)).Nodup := (order.map _).nodup_iff.1 distinct
  have names_ks : (ks.map (·.1)).Nodup := inOrder.sublist members.names
  refine ⟨ks, record?_object names_ks names needed, fun name j member needed => ?_, ?_⟩
  · obtain ⟨value, there, related⟩ := members.kept (order.mem_iff.1 member) needed
    exact ⟨value, (Record.find?_iff names_ks).2 there, related⟩
  · intro name j value member found
    obtain ⟨origin, there, related⟩ := members.origin ((Record.find?_iff names_ks).1 found)
    have same := eq_of_same_key inOrder (order.mem_iff.1 member) there rfl
    cases same
    exact related

/-! ### Reading back -/

/-- What is written is read back, however it is restated. -/
def RoundTrips (spare : String × Json) {α : Type} (write : α → Json) (read : Json → Option α) :
    Prop :=
  ∀ a k, Restated spare (write a) k → read k = some a

section

variable {spare : String × Json} {α : Type} {write : α → Json} {read : Json → Option α}

theorem roundTrips_string : RoundTrips spare .string string? := by
  intro s k restated
  obtain rfl := restated.of_string
  rfl

theorem roundTrips_bool : RoundTrips spare .bool bool? := by
  intro b k restated
  cases restated
  rfl

theorem roundTrips_int64 : RoundTrips spare ofInt64 int64? := by
  intro n k restated
  cases restated
  exact Text.asInt64?_toInt n

theorem RoundTrips.option (back : RoundTrips spare write read) (apart : read .null = none) :
    RoundTrips spare (ofOption write) (option? read) := by
  intro a k restated
  cases a with
  | none =>
    cases restated
    rfl
  | some a =>
    have taken := back a k restated
    cases k with
    | null =>
      rw [apart] at taken
      cases taken
    | _ => simp [option?, taken]

theorem RoundTrips.list (back : RoundTrips spare write read) :
    RoundTrips spare (ofList write) (list? read) := by
  intro as k restated
  obtain ⟨ks, rfl, items⟩ := restated.of_array
  clear restated
  show items? read ks = some as
  induction as generalizing ks with
  | nil =>
    cases items
    rfl
  | cons a as ih =>
    cases items with
    | cons first rest => simp [items?, back a _ first, ih _ rest]

theorem RoundTrips.members (back : RoundTrips spare write read) {as : List (String × α)}
    {ks : Record} (pairs : List.Forall₂ (fun m n => m.1 = n.1 ∧ Restated spare m.2 n.2)
      (as.map fun a => (a.1, write a.2)) ks) : members? read ks = some as := by
  induction as generalizing ks with
  | nil =>
    cases pairs
    rfl
  | cons a as ih =>
    cases pairs with
    | cons first rest =>
      obtain ⟨name, restated⟩ := first
      simp [members?, back a.2 _ restated, ih rest, ← name]

end

namespace Record.Gives

variable {spare : String × Json} {r ms : Record} {α : Type} {write : α → Json}
variable {read : Json → Option α} {name : String}

theorem field (gives : r.Gives spare ms) (back : RoundTrips spare write read) {a : α}
    (member : (name, write a) ∈ ms) (needed : name ≠ spare.1) : r.field name read = some a := by
  obtain ⟨k, found, restated⟩ :=
    gives.kept name _ member fun same => needed (congrArg Prod.fst same)
  rw [Record.field, found]
  exact back a k restated

theorem optional (gives : r.Gives spare ms) (back : RoundTrips spare write read)
    (apart : read .null = none) {a : Option α} (member : (name, ofOption write a) ∈ ms)
    (needed : name ≠ spare.1) : r.optional name read = some a := by
  obtain ⟨k, found, restated⟩ :=
    gives.kept name _ member fun same => needed (congrArg Prod.fst same)
  rw [Record.optional, found]
  exact back.option apart a k restated

/-- A member that is left out has the value that a missing one stands for. -/
theorem fieldOr (gives : r.Gives spare ms) (back : RoundTrips spare write read) {a missing : α}
    (member : (name, write a) ∈ ms) (spared : (name, write a) = spare → a = missing) :
    r.fieldOr name read missing = some a := by
  unfold Record.fieldOr
  cases found : r.find? name with
  | some k => exact back a k (gives.restated name _ k member found)
  | none =>
    by_cases left : (name, write a) = spare
    · rw [spared left]
    · obtain ⟨k, there, -⟩ := gives.kept name _ member left
      rw [found] at there
      cases there

end Record.Gives

end SchemaShift.Json
