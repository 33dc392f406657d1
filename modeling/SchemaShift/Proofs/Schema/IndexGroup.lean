import Mathlib.Data.List.Induction
import SchemaShift.Schema.Table

/-!
# Rows grouped into indexes

`Index.group` goes through the rows of a table once. What it finds under a name are the rows of
that name in their order, and the first of them settles the kind of the index.
-/

namespace SchemaShift.Index

/-- The index made up of these rows, with the name and the kind that the first of them gives. -/
def ofRows? : List IndexMember → Option Index
  | [] => none
  | first :: rest => some { name := first.indexName, kind := first.kind, members := first :: rest }

theorem ofRows?_concat (rows : List IndexMember) (row : IndexMember) :
    ofRows? (rows ++ [row]) =
      some (match ofRows? rows with
        | none => .ofMember row
        | some i => { i with members := i.members ++ [row] }) := by
  cases rows <;> rfl

theorem ofRows?_some {rows : List IndexMember} {name : String} {i : Index}
    (found : ofRows? (rows.filter fun r => r.indexName == name) = some i) :
    i.name = name ∧ ∃ first ∈ rows, first.indexName = name ∧ i.kind = first.kind := by
  cases same : rows.filter fun r => r.indexName == name with
  | nil =>
    rw [same] at found
    cases found
  | cons first rest =>
    have member : first ∈ rows.filter fun r => r.indexName == name := by simp [same]
    obtain ⟨listed, named⟩ := List.mem_filter.1 member
    rw [same] at found
    cases found
    exact ⟨beq_iff_eq.1 named, first, listed, beq_iff_eq.1 named, rfl⟩

/-- A row is added to the rows of its name and to no others. -/
theorem find?_addRow {indexes : NameMap Index} {rows : List IndexMember} {row : IndexMember}
    (grouped : ∀ name, indexes.find? name = ofRows? (rows.filter fun r => r.indexName == name))
    (name : String) :
    (addRow indexes row).find? name =
      ofRows? ((rows ++ [row]).filter fun r => r.indexName == name) := by
  have own := grouped row.indexName
  have grown : (addRow indexes row).find? name = if name = row.indexName then
      ofRows? ((rows.filter fun r => r.indexName == row.indexName) ++ [row])
      else indexes.find? name := by
    rw [ofRows?_concat, addRow]
    cases found : indexes.find? row.indexName with
    | none =>
      rw [found] at own
      rw [NameMap.find?_insert, ← own]
    | some i =>
      rw [found] at own
      have accepted : i.push row = .ok { i with members := i.members ++ [row] } :=
        if_pos (ofRows?_some own.symm).1.symm
      simp only [accepted, NameMap.find?_insert, ← own]
  rw [grown, List.filter_append]
  by_cases mine : name = row.indexName
  · subst mine
    simp
  · rw [if_neg mine, grouped, List.filter_cons_of_neg (by simpa using Ne.symm mine),
      List.filter_nil, List.append_nil]

/-- Under a name stand the rows of that name in their order. -/
theorem find?_group (rows : List IndexMember) (name : String) :
    (group rows).find? name = ofRows? (rows.filter fun r => r.indexName == name) := by
  induction rows using List.reverseRecOn generalizing name with
  | nil => rfl
  | append_singleton rows row ih =>
    rw [group, List.foldl_append]
    exact find?_addRow ih name

/-- Where each item has rows of its own name, the rows of a name are those of its items. -/
theorem filter_flatMap_rows {α : Type} {key : α → String} {rows : α → List IndexMember}
    {l : List α} (own : ∀ a ∈ l, ∀ r ∈ rows a, r.indexName = key a) (name : String) :
    (l.flatMap rows).filter (fun r => r.indexName == name) =
      (l.filter fun a => key a == name).flatMap rows := by
  induction l with
  | nil => rfl
  | cons a l ih =>
    obtain ⟨first, others⟩ := List.forall_mem_cons.1 own
    rw [List.flatMap_cons, List.filter_append, ih others, List.filter_cons]
    by_cases mine : key a = name
    · have all : (rows a).filter (fun r => r.indexName == name) = rows a := by
        refine List.filter_eq_self.2 fun r member => ?_
        rw [first r member, mine, beq_self_eq_true]
      rw [all, if_pos (beq_iff_eq.2 mine), List.flatMap_cons]
    · have none : (rows a).filter (fun r => r.indexName == name) = [] := by
        refine List.filter_eq_nil_iff.2 fun r member => ?_
        rw [first r member, beq_iff_eq]
        exact mine
      rw [none, if_neg (by simpa using mine), List.nil_append]

end SchemaShift.Index
