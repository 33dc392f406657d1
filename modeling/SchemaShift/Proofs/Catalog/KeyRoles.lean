import Mathlib.Data.List.Forall2
import SchemaShift.Catalog.Sqlite

/-!
# Roles of columns in keys

The indexes of a table are gone through one after another, and each of them may raise the roles of
some columns. What comes out is the highest of all roles that a column is offered, so the order of
the indexes plays no part.
-/

namespace SchemaShift

open Text

/-! ### The order of roles -/

namespace KeyRole

/-- All roles, the highest first. -/
def descending : List KeyRole :=
  [.primary, .unique, .multiple, .none]

/-- The two are the same, or the first stands behind the second among all roles. -/
def AtMost (role other : KeyRole) : Prop :=
  role = other ∨ [other, role].Sublist descending

/-- One of the roles that are offered, and none of them is above it. -/
def Highest (offered : KeyRole → Prop) (role : KeyRole) : Prop :=
  offered role ∧ ∀ other, offered other → other.AtMost role

end KeyRole

namespace Column

@[simp] theorem withKey_withKey (c : Column) (first second : KeyRole) :
    (c.withKey first).withKey second = c.withKey second :=
  rfl

@[simp] theorem key_withKey (c : Column) (role : KeyRole) : (c.withKey role).key = role :=
  rfl

@[simp] theorem name_withKey (c : Column) (role : KeyRole) : (c.withKey role).name = c.name :=
  rfl

theorem withKey_key (c : Column) : c.withKey c.key = c :=
  rfl

end Column

namespace Catalog.Sqlite

theorem atMost_iff (role other : KeyRole) : role.AtMost other ↔ rank role ≤ rank other := by
  unfold KeyRole.AtMost
  cases role <;> cases other <;> decide

theorem rank_injective {role other : KeyRole} (same : rank role = rank other) : role = other := by
  cases role <;> cases other <;> first | rfl | cases same

theorem highest_unique {offered : KeyRole → Prop} {role other : KeyRole}
    (first : KeyRole.Highest offered role) (second : KeyRole.Highest offered other) :
    role = other := by
  obtain ⟨mine, above⟩ := first
  obtain ⟨theirs, below⟩ := second
  have le := (atMost_iff role other).1 (below role mine)
  have ge := (atMost_iff other role).1 (above other theirs)
  exact rank_injective (Nat.le_antisymm le ge)

/-! ### What indexes offer -/

/-- The index offers the role to the columns of this name. -/
inductive Grants (i : Index) (name : String) : KeyRole → Prop where
  | primary (kind : i.kind = .primary) (member : name ∈ i.columns) : Grants i name .primary
  | unique (kind : i.kind = .unique) (first : i.columns.head? = some name) :
    Grants i name .unique
  | multiple (other : i.kind ≠ .primary ∧ i.kind ≠ .unique)
      (first : i.columns.head? = some name) :
    Grants i name .multiple

/-- A column keeps its role unless one of the indexes has a better one for it. -/
def Offered (indexes : List Index) (c : Column) (role : KeyRole) : Prop :=
  role = c.key ∨ ∃ i ∈ indexes, Grants i c.name role

theorem mem_take_one {names : List String} {name : String} :
    name ∈ names.take 1 ↔ names.head? = some name := by
  cases names with
  | nil => simp
  | cons first rest => simp [eq_comm]

theorem grants_iff {i : Index} {name : String} {role : KeyRole} :
    Grants i name role ↔ name ∈ concerned i ∧ role = roleOf i.kind := by
  unfold concerned
  constructor
  · intro granted
    cases granted with
    | primary kind member =>
      rw [if_pos kind, kind]
      exact ⟨member, rfl⟩
    | unique kind first =>
      rw [if_neg (by simp [kind]), kind]
      exact ⟨mem_take_one.2 first, rfl⟩
    | multiple other first =>
      obtain ⟨notPrimary, notUnique⟩ := other
      rw [if_neg notPrimary]
      refine ⟨mem_take_one.2 first, ?_⟩
      cases kind : i.kind <;> first | rfl | contradiction
  · rintro ⟨member, rfl⟩
    cases kind : i.kind with
    | primary =>
      rw [if_pos kind] at member
      exact .primary kind member
    | unique =>
      rw [if_neg (by simp [kind])] at member
      exact .unique kind (mem_take_one.1 member)
    | normal =>
      rw [if_neg (by simp [kind])] at member
      exact .multiple (by simp [kind]) (mem_take_one.1 member)
    | fulltext =>
      rw [if_neg (by simp [kind])] at member
      exact .multiple (by simp [kind]) (mem_take_one.1 member)
    | spatial =>
      rw [if_neg (by simp [kind])] at member
      exact .multiple (by simp [kind]) (mem_take_one.1 member)

/-! ### One index -/

theorem grant_eq (i : Index) (c : Column) : grant i c = c.withKey (grant i c).key := by
  unfold grant
  split <;> rfl

theorem highest_grant (i : Index) (c : Column) :
    KeyRole.Highest (Offered [i] c) (grant i c).key := by
  have offered {role : KeyRole} (h : Offered [i] c role) :
      role = c.key ∨ c.name ∈ concerned i ∧ role = roleOf i.kind := by
    rcases h with kept | ⟨j, member, granted⟩
    · exact .inl kept
    · rw [List.mem_singleton.1 member] at granted
      exact .inr (grants_iff.1 granted)
  unfold grant
  split
  · rename_i raised
    rw [Bool.and_eq_true, List.contains_iff_mem, decide_eq_true_iff] at raised
    obtain ⟨member, below⟩ := raised
    refine ⟨.inr ⟨i, List.mem_singleton_self i, grants_iff.2 ⟨member, rfl⟩⟩, ?_⟩
    intro other h
    rw [atMost_iff]
    rcases offered h with rfl | ⟨-, rfl⟩
    · exact Nat.le_of_lt below
    · exact Nat.le_refl _
  · rename_i kept
    rw [Bool.and_eq_true, List.contains_iff_mem, decide_eq_true_iff] at kept
    refine ⟨.inl rfl, ?_⟩
    intro other h
    rw [atMost_iff]
    rcases offered h with rfl | ⟨member, rfl⟩
    · exact Nat.le_refl _
    · exact Nat.not_lt.1 fun below => kept ⟨member, below⟩

/-! ### All indexes -/

/-- A column after all indexes have had their turn. -/
def grantAll (indexes : List Index) (c : Column) : Column :=
  indexes.foldl (fun c i => grant i c) c

theorem assignKeyRoles_eq_map (columns : List Column) (indexes : List Index) :
    assignKeyRoles columns indexes = columns.map (grantAll indexes) := by
  induction indexes generalizing columns with
  | nil => exact (List.map_id columns).symm
  | cons i indexes ih =>
    rw [assignKeyRoles, List.foldl_cons]
    refine (ih (columns.map (grant i))).trans ?_
    rw [List.map_map]
    rfl

theorem grantAll_eq (indexes : List Index) (c : Column) :
    grantAll indexes c = c.withKey (grantAll indexes c).key := by
  induction indexes generalizing c with
  | nil => rfl
  | cons i indexes ih =>
    have next : grantAll (i :: indexes) c = grantAll indexes (grant i c) := rfl
    rw [next, ih (grant i c), Column.key_withKey, grant_eq i c, Column.withKey_withKey]

theorem highest_grantAll (indexes : List Index) (c : Column) :
    KeyRole.Highest (Offered indexes c) (grantAll indexes c).key := by
  -- The first index may raise the role, and with that role the column comes to the others.
  induction indexes generalizing c with
  | nil =>
    refine ⟨.inl rfl, ?_⟩
    rintro other (rfl | ⟨i, member, -⟩)
    · exact .inl rfl
    · cases member
  | cons i indexes ih =>
    obtain ⟨first, above⟩ := highest_grant i c
    obtain ⟨later, top⟩ := ih (grant i c)
    have name : (grant i c).name = c.name := by rw [grant_eq, Column.name_withKey]
    have next : grantAll (i :: indexes) c = grantAll indexes (grant i c) := rfl
    rw [next]
    constructor
    · rcases later with same | ⟨j, member, granted⟩
      · rw [same]
        rcases first with kept | ⟨j, member, granted⟩
        · exact .inl kept
        · rw [List.mem_singleton] at member
          exact .inr ⟨j, by simp [member], granted⟩
      · exact .inr ⟨j, List.mem_cons_of_mem i member, name ▸ granted⟩
    · intro other offered
      have raised : other.AtMost (grant i c).key → other.AtMost
          (grantAll indexes (grant i c)).key := by
        intro below
        have reached := top _ (.inl rfl)
        rw [atMost_iff] at below reached ⊢
        exact Nat.le_trans below reached
      rcases offered with kept | ⟨j, member, granted⟩
      · exact raised (above other (.inl kept))
      · rcases List.mem_cons.1 member with rfl | member
        · exact raised (above other (.inr ⟨j, List.mem_singleton_self j, granted⟩))
        · exact top other (.inr ⟨j, member, name.symm ▸ granted⟩)

/-- Key roles are all that the indexes change in the columns. -/
theorem assignKeyRoles_eq (columns : List Column) (indexes : List Index) :
    ∃ role : Column → KeyRole,
      assignKeyRoles columns indexes = columns.map fun c => c.withKey (role c) := by
  refine ⟨fun c => (grantAll indexes c).key, ?_⟩
  rw [assignKeyRoles_eq_map]
  exact List.map_congr_left fun c _ => grantAll_eq indexes c

theorem grantAll_perm {indexes others : List Index} (order : others.Perm indexes) (c : Column) :
    grantAll others c = grantAll indexes c := by
  have same : Offered others c = Offered indexes c := by
    funext role
    simp only [Offered, order.mem_iff]
  have highest := highest_grantAll others c
  rw [same] at highest
  rw [grantAll_eq others, grantAll_eq indexes,
    highest_unique highest (highest_grantAll indexes c)]

theorem grantAll_again (indexes : List Index) (c : Column) :
    grantAll indexes (grantAll indexes c) = grantAll indexes c := by
  obtain ⟨-, top⟩ := highest_grantAll indexes c
  have name : (grantAll indexes c).name = c.name := by rw [grantAll_eq, Column.name_withKey]
  have settled : KeyRole.Highest (Offered indexes (grantAll indexes c))
      (grantAll indexes c).key := by
    refine ⟨.inl rfl, ?_⟩
    rintro other (rfl | ⟨i, member, granted⟩)
    · exact .inl rfl
    · exact top other (.inr ⟨i, member, name ▸ granted⟩)
  rw [grantAll_eq indexes (grantAll indexes c),
    highest_unique (highest_grantAll indexes (grantAll indexes c)) settled, Column.withKey_key]

/-- Every column gets the highest of the role that it had and the roles that the indexes offer it,
and is otherwise as it was. In which order the indexes come makes no difference, and neither does
it if all of them come once more. -/
theorem assignKeyRoles_highest (columns : List Column) (indexes : List Index) :
    List.Forall₂ (fun c found => found = c.withKey found.key ∧
        KeyRole.Highest (Offered indexes c) found.key)
      columns (assignKeyRoles columns indexes) ∧
    (∀ others, others.Perm indexes →
      assignKeyRoles columns others = assignKeyRoles columns indexes) ∧
    assignKeyRoles (assignKeyRoles columns indexes) indexes =
      assignKeyRoles columns indexes := by
  simp only [assignKeyRoles_eq_map]
  refine ⟨?_, ?_, ?_⟩
  · rw [List.forall₂_map_right_iff]
    exact List.forall₂_same.2 fun c _ => ⟨grantAll_eq indexes c, highest_grantAll indexes c⟩
  · intro others order
    exact List.map_congr_left fun c _ => grantAll_perm order c
  · rw [List.map_map]
    exact List.map_congr_left fun c _ => grantAll_again indexes c

end Catalog.Sqlite

end SchemaShift
