import SchemaShift.Migration.Unit
import SchemaShift.Proofs.Ddl.Emission

/-!
# How statements begin

What a dialect emits is a comment, or it begins with one of three verbs. So the text tells a comment
from a statement to run as well as the kind does.
-/

namespace SchemaShift

open Text

theorem Text.startsWith_of_front {front phrase : String} (starts : startsWith front phrase = true)
    (rest : String) : startsWith (front ++ rest) phrase = true := by
  obtain ⟨tail, same⟩ := List.isPrefixOf_iff_prefix.1 starts
  refine List.isPrefixOf_iff_prefix.2 ⟨tail ++ rest.toList, ?_⟩
  rw [String.toList_append, ← same, List.append_assoc]

/-- The words that a statement begins with which a database is to run. -/
def verbs : List String :=
  ["ALTER ", "CREATE ", "DROP "]

/-- The text begins with one of the verbs. -/
def Orders (sql : String) : Prop :=
  ∃ verb ∈ verbs, startsWith sql verb = true

theorem orders_of_front {front : String} (rest : String) (orders : Orders front) :
    Orders (front ++ rest) := by
  obtain ⟨verb, known, starts⟩ := orders
  exact ⟨verb, known, startsWith_of_front starts rest⟩

instance (sql : String) : Decidable (Orders sql) :=
  inferInstanceAs (Decidable (∃ verb ∈ verbs, startsWith sql verb = true))

inductive Statement.Opened (s : Statement) : Prop
  | comment (comment : s.IsComment)
  | order (executable : s.isExecutable = true) (orders : Orders s.sql)

/-! ### The statements of MySQL -/

namespace MySql

theorem skipUnknown_isComment {table : String} {columns : List Column} {s : Statement}
    (skipped : skipUnknown table columns = some s) : s.IsComment := by
  obtain ⟨c, -, rfl⟩ := Option.map_eq_some_iff.1 skipped
  exact Statement.unsupported_isComment _ _

theorem opened_createTable (t : Table) : ∀ s ∈ createTable t, s.Opened := by
  unfold createTable
  split
  · rename_i skipped found
    exact List.forall_mem_singleton.2 (.comment (skipUnknown_isComment found))
  · refine List.forall_mem_singleton.2 (.order rfl ?_)
    simp only [String.append_assoc]
    exact orders_of_front _ (by decide)

theorem opened_alterTable (table : String) (changes : ChangeSet) :
    ∀ s ∈ alterTable table changes, s.Opened := by
  unfold alterTable
  split
  · rename_i skipped found
    exact List.forall_mem_singleton.2 (.comment (skipUnknown_isComment found))
  · dsimp only
    split
    · exact fun s listed => nomatch listed
    · refine List.forall_mem_singleton.2 (.order rfl ?_)
      simp only [String.append_assoc]
      exact orders_of_front _ (by decide)

theorem opened_alterSchema (name : String) (options : SchemaOptions) :
    ∀ s ∈ alterSchema name options, s.Opened := by
  refine List.forall_mem_singleton.2 (.order rfl ?_)
  simp only [String.append_assoc]
  exact orders_of_front _ (by decide)

end MySql

/-! ### The statements of SQLite -/

namespace Sqlite

theorem opened_createIndex (table : String) (i : Index) : (createIndex table i).Opened := by
  have create (unique : String) (orders : Orders ("CREATE " ++ unique)) :
      Orders (createIndexText unique table i) := by
    unfold createIndexText
    simp only [String.append_assoc]
    rw [← String.append_assoc]
    exact orders_of_front _ orders
  unfold createIndex
  cases i.kind with
  | primary => exact .comment (Statement.unsupported_isComment _ _)
  | unique => exact .order rfl (create "UNIQUE " (by decide))
  | normal => exact .order rfl (create "" (by decide))
  | fulltext => exact .comment (Statement.unsupported_isComment _ _)
  | spatial => exact .comment (Statement.unsupported_isComment _ _)

theorem opened_dropIndex (table : String) (i : Index) : (dropIndex table i).Opened := by
  unfold dropIndex
  split
  · exact .comment (Statement.unsupported_isComment _ _)
  · exact .order rfl (orders_of_front _ (by decide))

theorem opened_addColumn (table : String) (c : Column) : (addColumn table c).Opened := by
  refine .order rfl ?_
  unfold addColumn
  simp only [String.append_assoc]
  exact orders_of_front _ (by decide)

theorem opened_createTable (t : Table) : ∀ s ∈ createTable t, s.Opened := by
  unfold createTable
  refine List.forall_mem_cons.2 ⟨.order rfl ?_, ?_⟩
  · unfold createTableText
    simp only [String.append_assoc]
    exact orders_of_front _ (by decide)
  · exact List.forall_mem_map.2 fun i _ => opened_createIndex t.name i

theorem opened_alterTable (table : String) (changes : ChangeSet) :
    ∀ s ∈ alterTable table changes, s.Opened := by
  have options : ∀ s ∈ (if changes.options.isSome then [Statement.unsupported (some table)
      ("SQLite has no table options, skipped options of " ++ table)] else []), s.Opened := by
    split
    · exact List.forall_mem_singleton.2 (.comment (Statement.unsupported_isComment _ _))
    · exact fun s listed => nomatch listed
  unfold alterTable
  simp only [List.forall_mem_append, List.forall_mem_map]
  exact ⟨⟨⟨⟨fun i _ => opened_dropIndex table i, fun c _ => opened_addColumn table c⟩,
    fun _ _ => .comment (Statement.unsupported_isComment _ _)⟩,
    fun i _ => opened_createIndex table i⟩, options⟩

end Sqlite

/-! ### All statements of a dialect -/

namespace Dialect

theorem opened_emit (d : Dialect) (change : SchemaChange) : ∀ s ∈ d.emit change, s.Opened := by
  cases change with
  | alterSchema name options =>
    cases d with
    | mysql => exact MySql.opened_alterSchema name options
    | sqlite => exact List.forall_mem_singleton.2 (.comment (Statement.unsupported_isComment _ _))
  | createTable t =>
    cases d with
    | mysql => exact MySql.opened_createTable t
    | sqlite => exact Sqlite.opened_createTable t
  | dropTable t => exact List.forall_mem_singleton.2 (.order rfl (orders_of_front _ (by decide)))
  | alterTable table changes =>
    cases d with
    | mysql => exact MySql.opened_alterTable table changes
    | sqlite => exact Sqlite.opened_alterTable table changes

theorem opened_emitAll (d : Dialect) (changes : List SchemaChange) :
    ∀ s ∈ d.emitAll changes, s.Opened := by
  intro s listed
  obtain ⟨change, -, emitted⟩ := List.mem_flatMap.1 listed
  exact opened_emit d change s emitted

end Dialect

/-! ### Comments by their text -/

/-- No verb begins with a blank or a dash. -/
theorem Orders.first {sql : String} (orders : Orders sql) :
    ∃ c rest, sql.toList = c :: rest ∧ isBlank c = false ∧ c ≠ '-' := by
  obtain ⟨verb, known, starts⟩ := orders
  obtain ⟨tail, same⟩ := List.isPrefixOf_iff_prefix.1 starts
  simp only [verbs, List.mem_cons, List.not_mem_nil, or_false] at known
  rcases known with rfl | rfl | rfl
  · exact ⟨'A', _, same.symm, by decide, by decide⟩
  · exact ⟨'C', _, same.symm, by decide, by decide⟩
  · exact ⟨'D', _, same.symm, by decide, by decide⟩

theorem Orders.undashed {sql : String} (orders : Orders sql) : startsWith sql "--" = false := by
  obtain ⟨c, rest, same, -, other⟩ := orders.first
  refine Bool.eq_false_iff.2 fun starts => other ?_
  rw [startsWith, same] at starts
  exact (List.cons_prefix_cons.1 (List.isPrefixOf_iff_prefix.1 starts)).1.symm

theorem Orders.opensWithComment {sql : String} (orders : Orders sql) :
    opensWithComment sql = false := by
  obtain ⟨c, rest, same, solid, -⟩ := orders.first
  rw [SchemaShift.opensWithComment, same, stripStart_cons_of_not_blank rest solid, ← same]
  exact orders.undashed

theorem Statement.IsComment.opensWithComment {s : Statement} (comment : s.IsComment) :
    opensWithComment s.sql = true := by
  obtain ⟨-, message, text⟩ := comment
  have dashes : s.sql.toList = '-' :: '-' :: ' ' :: message.toList := by
    rw [text, String.toList_append]
    rfl
  rw [SchemaShift.opensWithComment, dashes, stripStart_cons_of_not_blank _ (by decide)]
  rfl

/-- Whether a statement is to be run can be read off its text. -/
theorem Statement.Opened.opensWithComment {s : Statement} (opened : s.Opened) :
    opensWithComment s.sql = !s.isExecutable := by
  cases opened with
  | comment comment =>
    rw [comment.opensWithComment, isExecutable, comment.1]
    rfl
  | order executable orders =>
    rw [orders.opensWithComment, executable]
    rfl

end SchemaShift
