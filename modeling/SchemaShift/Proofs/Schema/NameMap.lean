import Mathlib.Data.List.Nodup
import SchemaShift.Schema.NameMap

/-!
# Laws of name maps

A name finds exactly the value it is bound to. Erasing and inserting many values at once are
folds, and each law says what a name finds after the whole fold.
-/

namespace SchemaShift

/-! ### Lists with distinct keys -/

section Keyed

variable {α : Type} {key : α → String}

theorem find?_key_some {l : List α} {name : String} {a : α}
    (found : (l.find? fun x => key x == name) = some a) : a ∈ l ∧ key a = name :=
  ⟨List.mem_of_find?_eq_some found, by simpa using List.find?_some found⟩

theorem find?_key_none {l : List α} {name : String} :
    (l.find? fun x => key x == name) = none ↔ ∀ a ∈ l, key a ≠ name := by
  simp [List.find?_eq_none]

theorem eq_of_same_key {l : List α} (distinct : (l.map key).Nodup) {a b : α}
    (ha : a ∈ l) (hb : b ∈ l) (same : key a = key b) : a = b :=
  List.inj_on_of_nodup_map distinct ha hb same

/-- Among distinct keys the value under a key is the one that has it. -/
theorem find?_key_iff {l : List α} (distinct : (l.map key).Nodup) {name : String} {a : α} :
    (l.find? fun x => key x == name) = some a ↔ a ∈ l ∧ key a = name := by
  constructor
  · exact find?_key_some
  · rintro ⟨member, rfl⟩
    cases found : l.find? fun x => key x == key a with
    | none => exact absurd rfl (find?_key_none.1 found a member)
    | some b =>
      obtain ⟨hb, same⟩ := find?_key_some found
      rw [eq_of_same_key distinct hb member same]

/-- Among distinct keys at most one value has a given one. -/
theorem filter_key_eq_find? {l : List α} (distinct : (l.map key).Nodup) (name : String) :
    (l.filter fun x => key x == name) = (l.find? fun x => key x == name).toList := by
  have once : (l.filter fun x => key x == name).length ≤ 1 := by
    have bound := List.nodup_iff_count_le_one.1 distinct name
    rwa [List.count_eq_countP, List.countP_map, List.countP_eq_length_filter] at bound
  rw [← List.head?_filter]
  match same : l.filter fun x => key x == name with
  | [] => rfl
  | [_] => rfl
  | _ :: _ :: _ =>
    rw [same] at once
    simp at once

end Keyed

namespace NameMap

variable {α : Type}

theorem nodup_keys (m : NameMap α) : (m.entries.map (·.1)).Nodup := by
  rw [List.Nodup, List.pairwise_map]
  refine m.ascending.imp ?_
  intro a b lt same
  rw [same] at lt
  exact String.lt_irrefl _ lt

theorem find?_iff (m : NameMap α) {name : String} {a : α} :
    m.find? name = some a ↔ (name, a) ∈ m.entries := by
  unfold find?
  rw [Option.map_eq_some_iff]
  constructor
  · rintro ⟨⟨key, held⟩, found, rfl⟩
    obtain ⟨member, same⟩ := find?_key_some found
    exact same ▸ member
  · intro member
    exact ⟨(name, a), (find?_key_iff m.nodup_keys).2 ⟨member, rfl⟩, rfl⟩

theorem find?_none_iff (m : NameMap α) {name : String} :
    m.find? name = none ↔ ∀ a, (name, a) ∉ m.entries := by
  simp only [Option.eq_none_iff_forall_not_mem, Option.mem_def, find?_iff]

theorem mem_keys (m : NameMap α) {name : String} : name ∈ m.keys ↔ (m.find? name).isSome := by
  simp only [Option.isSome_iff_exists, find?_iff]
  simp [keys]

theorem mem_values (m : NameMap α) {a : α} : a ∈ m.values ↔ ∃ name, m.find? name = some a := by
  simp only [find?_iff]
  simp [values]

theorem find?_erase (m : NameMap α) (name other : String) :
    (m.erase name).find? other = if other = name then none else m.find? other := by
  split
  · rename_i same
    subst same
    rw [find?_none_iff]
    intro a member
    simp [erase] at member
  · rename_i different
    apply Option.ext
    intro a
    rw [find?_iff, find?_iff]
    simp [erase, different]

/-- Erasing names one after another leaves what is under the other names. -/
theorem find?_eraseAll {β : Type} (key : β → String) (gone : List β) (m : NameMap α)
    (name : String) :
    (gone.foldl (fun m b => m.erase (key b)) m).find? name =
      if name ∈ gone.map key then none else m.find? name := by
  induction gone generalizing m with
  | nil => simp
  | cons b gone ih =>
    rw [List.foldl_cons, ih, find?_erase]
    by_cases here : name = key b
    · simp [here]
    · simp [here]

/-- Of several values inserted under a name the last one counts. -/
theorem find?_insertAll (key : α → String) (added : List α) (m : NameMap α) (name : String) :
    (added.foldl (fun m a => m.insert (key a) a) m).find? name =
      (added.reverse.find? fun a => key a == name).or (m.find? name) := by
  induction added generalizing m with
  | nil => simp
  | cons a added ih =>
    rw [List.foldl_cons, ih, find?_insert, List.reverse_cons, List.find?_append]
    by_cases here : name = key a
    · subst here
      cases added.reverse.find? fun b => key b == key a <;> simp
    · have unlike : (key a == name) = false := by simpa using Ne.symm here
      simp [here, unlike]

/-! ### Maps from lists of bindings -/

theorem perm_insertEntry {name : String} (value : α) {entries : List (String × α)}
    (fresh : name ∉ entries.map (·.1)) :
    (insertEntry name value entries).Perm ((name, value) :: entries) := by
  induction entries with
  | nil => exact .refl _
  | cons head rest ih =>
    obtain ⟨key, held⟩ := head
    rw [List.map_cons, List.mem_cons, not_or] at fresh
    obtain ⟨unlike, later⟩ := fresh
    simp only [insertEntry, if_neg unlike]
    split
    · exact .refl _
    · exact ((ih later).cons (key, held)).trans (.swap _ _ _)

theorem perm_insertAll {entries : List (String × α)} {m : NameMap α}
    (distinct : ((entries ++ m.entries).map (·.1)).Nodup) :
    (entries.foldl (fun m e => m.insert e.1 e.2) m).entries.Perm (entries ++ m.entries) := by
  induction entries generalizing m with
  | nil => exact .refl _
  | cons e entries ih =>
    rw [List.cons_append, List.map_cons] at distinct
    have fresh := (List.nodup_cons.1 distinct).1
    rw [List.map_append, List.mem_append, not_or] at fresh
    obtain ⟨-, unbound⟩ := fresh
    have next : (m.insert e.1 e.2).entries.Perm (e :: m.entries) := perm_insertEntry e.2 unbound
    have moved : (entries ++ (m.insert e.1 e.2).entries).Perm (e :: (entries ++ m.entries)) :=
      (next.append_left entries).trans List.perm_middle
    exact (ih ((moved.map _).nodup_iff.2 distinct)).trans moved

/-- Bindings make up the same map in whatever order they are given. -/
theorem ofList_perm {m : NameMap α} {entries : List (String × α)} (same : entries.Perm m.entries) :
    ofList entries = m := by
  have distinct : ((entries ++ (empty : NameMap α).entries).map (·.1)).Nodup := by
    rw [empty, List.append_nil]
    exact (same.map _).nodup_iff.2 m.nodup_keys
  have order : (ofList entries).entries.Perm m.entries := by
    have listed := perm_insertAll distinct
    rw [empty, List.append_nil] at listed
    exact listed.trans same
  have entries_eq : (ofList entries).entries = m.entries := by
    refine order.eq_of_pairwise (fun a b _ _ below above => ?_) (ofList entries).ascending
      m.ascending
    exact absurd (String.lt_trans below above) (String.lt_irrefl _)
  obtain ⟨listed, ascending⟩ := m
  cases held : ofList entries
  rw [held] at entries_eq
  cases entries_eq
  rfl

end NameMap

end SchemaShift
