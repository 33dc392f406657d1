import SchemaShift.Proofs.Schema.IndexGroup
import SchemaShift.Proofs.Schema.NameMap

/-!
# Indexes grown row by row

An index takes the rows of its own name and refuses all others, so whatever is offered to it, its
name and its kind stay those of its first row. While the rows of a table are grouped, every index
stands under its name and is therefore offered rows that it takes. In the order of the names, the
members of all indexes are the rows, stably sorted.
-/

namespace SchemaShift

/-! ### Stable order -/

section Stable

variable {α : Type} {key : α → String}

theorem mem_of_same_runs {l m : List α}
    (runs : ∀ k, (l.filter fun a => key a == k) = m.filter fun a => key a == k) {a : α}
    (member : a ∈ l) : a ∈ m := by
  have own : a ∈ l.filter fun x => key x == key a := List.mem_filter.2 ⟨member, beq_self_eq_true _⟩
  rw [runs] at own
  exact (List.mem_filter.1 own).1

/-- The first item of a list in ascending order is below every other. -/
theorem head_least {a b : α} {l : List α} (ascending : (a :: l).Pairwise fun x y => key x ≤ key y)
    (member : b ∈ a :: l) : key a ≤ key b := by
  rcases List.mem_cons.1 member with rfl | later
  · exact String.le_refl _
  · exact List.rel_of_pairwise_cons ascending later

/-- In ascending order, a list is made up of the runs of its keys. -/
theorem eq_of_same_runs {l m : List α} (first : l.Pairwise fun a b => key a ≤ key b)
    (second : m.Pairwise fun a b => key a ≤ key b)
    (runs : ∀ k, (l.filter fun a => key a == k) = m.filter fun a => key a == k) : l = m := by
  induction l generalizing m with
  | nil =>
    refine (List.eq_nil_iff_forall_not_mem.2 fun a member => ?_).symm
    exact List.not_mem_nil (mem_of_same_runs (fun k => (runs k).symm) member)
  | cons a l ih =>
    cases m with
    | nil => exact absurd (mem_of_same_runs runs List.mem_cons_self) List.not_mem_nil
    | cons b m =>
      have level : key a = key b := by
        apply String.le_antisymm
        · exact head_least first (mem_of_same_runs (fun k => (runs k).symm) List.mem_cons_self)
        · exact head_least second (mem_of_same_runs runs List.mem_cons_self)
      have heads := runs (key a)
      simp only [List.filter_cons, beq_self_eq_true, level, if_true] at heads
      obtain ⟨rfl, -⟩ := List.cons.inj heads
      have tails : l = m := by
        refine ih first.tail second.tail fun k => ?_
        have both := runs k
        rw [List.filter_cons, List.filter_cons] at both
        split at both
        · exact (List.cons.inj both).2
        · exact both
      rw [tails]

theorem keyLe_trans (a b c : α) (ab : decide (key a ≤ key b) = true)
    (bc : decide (key b ≤ key c) = true) : decide (key a ≤ key c) = true :=
  decide_eq_true (String.le_trans (of_decide_eq_true ab) (of_decide_eq_true bc))

theorem keyLe_total (a b : α) : (decide (key a ≤ key b) || decide (key b ≤ key a)) = true := by
  simpa using String.le_total (key a) (key b)

theorem mergeSort_ascending (l : List α) :
    (l.mergeSort fun a b => key a ≤ key b).Pairwise fun a b => key a ≤ key b :=
  (List.pairwise_mergeSort keyLe_trans keyLe_total l).imp fun le => of_decide_eq_true le

/-- Sorting keeps the items of a key in their order. -/
theorem filter_mergeSort (l : List α) (k : String) :
    ((l.mergeSort fun a b => key a ≤ key b).filter fun a => key a == k) =
      l.filter fun a => key a == k := by
  have level : (l.filter fun a => key a == k).Pairwise fun a b => decide (key a ≤ key b) := by
    apply List.pairwise_of_forall_mem_list
    intro a first b second
    have one := beq_iff_eq.1 (List.mem_filter.1 first).2
    have other := beq_iff_eq.1 (List.mem_filter.1 second).2
    rw [one, other]
    exact decide_eq_true (String.le_refl k)
  have kept := (List.sublist_mergeSort keyLe_trans keyLe_total level
    List.filter_sublist).filter fun a => key a == k
  simp only [List.filter_filter, Bool.and_self] at kept
  exact (kept.eq_of_length ((List.mergeSort_perm l _).filter _).length_eq.symm).symm

end Stable

namespace Index

/-! ### Rows offered to one index -/

/-- What an index answers to rows offered one after another, and the index after all of them. -/
def pushAll (i : Index) : List IndexMember → List (Except IndexNameMismatch Unit) × Index
  | [] => ([], i)
  | row :: rest =>
    match i.push row with
    | .ok grown => ((pushAll grown rest).1.cons (.ok ()), (pushAll grown rest).2)
    | .error e => ((pushAll i rest).1.cons (.error e), (pushAll i rest).2)

def answer (i : Index) (row : IndexMember) : Except IndexNameMismatch Unit :=
  if row.indexName = i.name then .ok ()
  else .error { expected := i.name, found := row.indexName }

/-- The rows of its name stay, in their order, and of the others nothing is left. -/
theorem pushAll_eq (i : Index) (rows : List IndexMember) :
    i.pushAll rows = (rows.map i.answer,
      { i with members := i.members ++ rows.filter fun r => r.indexName == i.name }) := by
  induction rows generalizing i with
  | nil => simp [pushAll]
  | cons row rest ih =>
    by_cases own : row.indexName = i.name
    · have taken : i.push row = .ok { i with members := i.members ++ [row] } := if_pos own
      have said : i.answer row = .ok () := if_pos own
      rw [List.map_cons, said, List.filter_cons_of_pos (by simpa using own)]
      simp only [pushAll, taken, ih, List.append_assoc, List.singleton_append]
      rfl
    · have refused : i.push row = .error { expected := i.name, found := row.indexName } :=
        if_neg own
      have said : i.answer row = .error { expected := i.name, found := row.indexName } :=
        if_neg own
      rw [List.map_cons, said, List.filter_cons_of_neg (by simpa using own)]
      simp only [pushAll, refused, ih]

/-- What a first row and the rows offered after it have made of an index. -/
structure GrownFrom (i : Index) (first : IndexMember) (offered : List IndexMember) : Prop where
  name : i.name = first.indexName
  kind : i.kind = first.kind
  members : i.members = first :: offered.filter fun r => r.indexName == first.indexName
  named : ∀ m ∈ i.members, m.indexName = i.name

theorem pushAll_grownFrom (first : IndexMember) (offered : List IndexMember) :
    ((ofMember first).pushAll offered).2.GrownFrom first offered := by
  rw [pushAll_eq]
  refine ⟨rfl, rfl, rfl, ?_⟩
  intro m member
  rcases List.mem_cons.1 member with rfl | taken
  · rfl
  · exact beq_iff_eq.1 (List.mem_filter.1 taken).2

/-- An index that refuses a row goes on as if the row had not been offered. -/
theorem pushAll_refused {first row : IndexMember} {before : List IndexMember}
    {e : IndexNameMismatch} (refused : ((ofMember first).pushAll before).2.push row = .error e)
    (after : List IndexMember) :
    ((ofMember first).pushAll (before ++ row :: after)).2 =
      ((ofMember first).pushAll (before ++ after)).2 := by
  have other : row.indexName ≠ (ofMember first).name := by
    intro own
    rw [pushAll_eq, push, if_pos own] at refused
    cases refused
  rw [pushAll_eq, pushAll_eq, List.filter_append, List.filter_append,
    List.filter_cons_of_neg (by simpa using other)]

/-! ### Rows grouped under their names -/

/-- The refusals that go unnoticed while rows are added. -/
def refusals (indexes : NameMap Index) : List IndexMember → List IndexNameMismatch
  | [] => []
  | row :: rest =>
    let later := refusals (addRow indexes row) rest
    match indexes.find? row.indexName with
    | none => later
    | some i =>
      match i.push row with
      | .ok _ => later
      | .error e => e :: later

/-- What stands under the name of a row has that name, so it takes the row. -/
theorem refusals_eq_nil {indexes : NameMap Index} {rows : List IndexMember}
    (grouped : ∀ name, indexes.find? name = ofRows? (rows.filter fun r => r.indexName == name))
    (later : List IndexMember) : refusals indexes later = [] := by
  induction later generalizing indexes rows with
  | nil => rfl
  | cons row later ih =>
    have next : refusals (addRow indexes row) later = [] :=
      ih fun name => find?_addRow grouped name
    unfold refusals
    rw [next]
    cases held : indexes.find? row.indexName with
    | none => rfl
    | some i =>
      have own : i.name = row.indexName := (ofRows?_some ((grouped _).symm.trans held)).1
      have taken : i.push row = .ok { i with members := i.members ++ [row] } := if_pos own.symm
      simp only [taken]

theorem mem_keys_group (rows : List IndexMember) (name : String) :
    name ∈ (group rows).keys ↔ name ∈ rows.map (·.indexName) := by
  rw [NameMap.mem_keys, find?_group]
  cases same : rows.filter fun r => r.indexName == name with
  | nil =>
    have absent : name ∉ rows.map (·.indexName) := by simpa using same
    simp [ofRows?, absent]
  | cons first rest =>
    have member : first ∈ rows.filter fun r => r.indexName == name := by simp [same]
    obtain ⟨listed, named⟩ := List.mem_filter.1 member
    have held : name ∈ rows.map (·.indexName) :=
      List.mem_map.2 ⟨first, listed, beq_iff_eq.1 named⟩
    simp [ofRows?, held]

theorem ofRows?_members {rows : List IndexMember} {i : Index} (built : ofRows? rows = some i) :
    i.members = rows ∧ rows.head?.map (·.kind) = some i.kind := by
  cases rows with
  | nil => cases built
  | cons first rest =>
    cases built
    exact ⟨rfl, rfl⟩

/-- The members of all indexes in the order of their names. -/
def allMembers (indexes : NameMap Index) : List IndexMember :=
  indexes.values.flatMap (·.members)

theorem named_of_mem_group {rows : List IndexMember} {e : String × Index}
    (entry : e ∈ (group rows).entries) : ∀ r ∈ e.2.members, r.indexName = e.1 := by
  have built := (find?_group rows e.1).symm.trans ((NameMap.find?_iff _).2 entry)
  intro r member
  rw [(ofRows?_members built).1] at member
  exact beq_iff_eq.1 (List.mem_filter.1 member).2

theorem allMembers_eq (indexes : NameMap Index) :
    allMembers indexes = indexes.entries.flatMap fun e => e.2.members := by
  rw [allMembers, NameMap.values, List.flatMap_map]

theorem filter_allMembers (rows : List IndexMember) (name : String) :
    ((allMembers (group rows)).filter fun r => r.indexName == name) =
      rows.filter fun r => r.indexName == name := by
  have grouped := find?_group rows name
  rw [allMembers_eq, filter_flatMap_rows fun e entry => named_of_mem_group entry,
    filter_key_eq_find? (group rows).nodup_keys]
  rw [NameMap.find?] at grouped
  cases found : (group rows).entries.find? fun e => e.1 == name with
  | none =>
    rw [found] at grouped
    cases same : rows.filter fun r => r.indexName == name with
    | nil => rfl
    | cons first rest =>
      rw [same] at grouped
      cases grouped
  | some e =>
    rw [found] at grouped
    rw [Option.toList_some, List.flatMap_singleton]
    exact (ofRows?_members grouped.symm).1

theorem allMembers_ascending (rows : List IndexMember) :
    (allMembers (group rows)).Pairwise fun a b => a.indexName ≤ b.indexName := by
  rw [allMembers_eq, List.pairwise_flatMap]
  constructor
  · intro e entry
    apply List.pairwise_of_forall_mem_list
    intro a first b second
    simp only [named_of_mem_group entry a first, named_of_mem_group entry b second,
      String.le_refl]
  · refine (group rows).ascending.imp_of_mem fun {d e} here there lt a first b second => ?_
    rw [named_of_mem_group here a first, named_of_mem_group there b second]
    exact Std.le_of_lt lt

/-- The indexes that rows in any order are grouped into. -/
structure Grouped (rows : List IndexMember) (indexes : NameMap Index) : Prop where
  names : ∀ name, name ∈ indexes.keys ↔ name ∈ rows.map (·.indexName)
  name : ∀ name i, indexes.find? name = some i → i.name = name
  members : ∀ name i, indexes.find? name = some i →
    i.members = rows.filter fun r => r.indexName == name
  kind : ∀ name i, indexes.find? name = some i → i.members.head?.map (·.kind) = some i.kind
  sorted : allMembers indexes = rows.mergeSort fun a b => a.indexName ≤ b.indexName

/-- Nothing of the rows is lost in their indexes, and no row is refused on the way. An index by
itself refuses the rows of other names, and that leaves no trace. -/
theorem group_lossless (rows : List IndexMember) :
    Grouped rows (group rows) ∧ refusals .empty rows = [] ∧
      ∀ first offered, ((ofMember first).pushAll offered).1 = offered.map (ofMember first).answer ∧
        ((ofMember first).pushAll offered).2.GrownFrom first offered ∧
        ∀ before row e, ((ofMember first).pushAll before).2.push row = .error e → ∀ after,
          ((ofMember first).pushAll (before ++ row :: after)).2 =
            ((ofMember first).pushAll (before ++ after)).2 := by
  have grouped (name : String) : (NameMap.empty : NameMap Index).find? name =
      ofRows? (([] : List IndexMember).filter fun r => r.indexName == name) := rfl
  refine ⟨⟨mem_keys_group rows, ?_, ?_, ?_, ?_⟩, refusals_eq_nil grouped rows, ?_⟩
  · intro name i found
    rw [find?_group] at found
    exact (ofRows?_some found).1
  · intro name i found
    rw [find?_group] at found
    exact (ofRows?_members found).1
  · intro name i found
    rw [find?_group] at found
    obtain ⟨members, kind⟩ := ofRows?_members found
    rw [members, kind]
  · refine eq_of_same_runs (allMembers_ascending rows) (mergeSort_ascending rows) fun name => ?_
    rw [filter_allMembers, filter_mergeSort]
  · intro first offered
    refine ⟨congrArg Prod.fst (pushAll_eq _ _), pushAll_grownFrom first offered, ?_⟩
    intro before row e refused after
    exact pushAll_refused refused after

def bookRow (indexName columnName : String) (position : Int64) : IndexMember :=
  { indexName, tableName := "book", nonUnique := true, columnName, position, method := "BTREE"
    comment := "" }

/-- The rows of two indexes in turn. -/
def bookRows : List IndexMember :=
  [bookRow "by_title" "title" 1, bookRow "by_shelf" "shelf" 1, bookRow "by_title" "year" 2]

theorem book_group_lossless :
    Grouped bookRows (group bookRows) ∧ refusals .empty bookRows = [] ∧
      ((ofMember (bookRow "by_title" "title" 1)).pushAll []).2.push (bookRow "by_shelf" "shelf" 1) =
        .error { expected := "by_title", found := "by_shelf" } ∧
      ((ofMember (bookRow "by_title" "title" 1)).pushAll
          ([] ++ bookRow "by_shelf" "shelf" 1 :: [bookRow "by_title" "year" 2])).2 =
        ((ofMember (bookRow "by_title" "title" 1)).pushAll
          ([] ++ [bookRow "by_title" "year" 2])).2 := by
  have refused : ((ofMember (bookRow "by_title" "title" 1)).pushAll []).2.push
      (bookRow "by_shelf" "shelf" 1) =
        .error { expected := "by_title", found := "by_shelf" } := rfl
  obtain ⟨grouped, noted, offers⟩ := group_lossless bookRows
  exact ⟨grouped, noted, refused, (offers _ []).2.2 [] _ _ refused _⟩

end Index

end SchemaShift
