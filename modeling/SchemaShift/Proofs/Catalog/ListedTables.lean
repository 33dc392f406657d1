import SchemaShift.Proofs.Catalog.ReservedIndexes

/-!
# Tables that are listed

The pattern that is to hide the tables of the engine has `_` in it, which stands for any character.
So it hides every table whose name begins like that of the engine, whatever comes next, and the
listing is complete exactly if there is no such table.
-/

namespace SchemaShift

open Text Store

namespace Text

/-! ### Patterns -/

theorem like_run (cs : List Char) : like ['%'] cs = true := by
  induction cs with
  | nil => rw [like, like]; rfl
  | cons c cs ih => rw [like, ih, Bool.or_true]

theorem like_someRun (cs : List Char) : like ['_', '%'] cs = !cs.isEmpty := by
  cases cs with
  | nil =>
    rw [like]
    · rfl
    · simp
  | cons c cs => rw [like, like_run]; rfl

/-- What stands for itself at the front of a pattern. -/
theorem like_word {word : List Char} (plain : ∀ p ∈ word, p ≠ '%' ∧ p ≠ '_')
    (ps cs : List Char) :
    like (word ++ ps) cs = ((word.map Char.toLower).isPrefixOf (cs.map Char.toLower) &&
      like ps (cs.drop word.length)) := by
  induction word generalizing cs with
  | nil => rfl
  | cons p word ih =>
    obtain ⟨⟨run, any⟩, others⟩ := List.forall_mem_cons.1 plain
    cases cs with
    | nil =>
      rw [List.cons_append, like]
      · rfl
      · simp [run]
    | cons c cs =>
      rw [List.cons_append, like, ih others, ← Bool.and_assoc]
      · rfl
      all_goals simp [run, any]

theorem isPrefixOf_append (front back cs : List Char) :
    (front ++ back).isPrefixOf cs =
      (front.isPrefixOf cs && back.isPrefixOf (cs.drop front.length)) := by
  induction front generalizing cs with
  | nil => rfl
  | cons c front ih =>
    cases cs with
    | nil => rfl
    | cons d cs => simp [List.isPrefixOf, ih, Bool.and_assoc]

end Text

namespace Catalog.Sqlite

/-! ### Hidden names -/

/-- The table is neither one of the engine's own nor the bookkeeping table. -/
def isUserName (name : String) : Bool :=
  !isReservedName name && name != bookkeepingName

/-- The name begins as the reserved names do, with another character in the place of their
underscore. -/
def looksReserved (name : String) : Bool :=
  "sqlite".toList.isPrefixOf (name.toList.map Char.toLower) &&
    (name.toList[6]?).any (· != '_')

theorem isReservedName_eq (name : String) : isReservedName name =
    ("sqlite".toList.isPrefixOf (name.toList.map Char.toLower) &&
      name.toList[6]? == some '_') := by
  have reserved : "sqlite_".toList = "sqlite".toList ++ ['_'] := by decide
  have length : "sqlite".toList.length = 6 := by decide
  have last : ['_'].isPrefixOf ((name.toList.map Char.toLower).drop 6) =
      (name.toList[6]? == some '_') := by
    rw [← List.map_drop, ← List.head?_drop]
    cases name.toList.drop 6 with
    | nil => rfl
    | cons c cs =>
      have same := toLower_eq_iff (c := c) (x := '_') rfl
      simp only [List.map_cons, List.isPrefixOf, Bool.and_true, List.head?_cons]
      rw [Bool.eq_iff_iff, beq_iff_eq, beq_iff_eq, Option.some.injEq, eq_comm, same]
  rw [isReservedName, reserved, isPrefixOf_append, length, last]

/-- What is hidden apart from the bookkeeping table: names with the reserved prefix, and names that
only look like that. -/
theorem isHidden_eq (name : String) : isHidden name =
    (isReservedName name || looksReserved name || name == bookkeepingName) := by
  have pattern : "sqlite_%".toList = "sqlite".toList ++ ['_', '%'] := by decide
  have plain : ∀ p ∈ "sqlite".toList, p ≠ '%' ∧ p ≠ '_' := by simp
  have lowered : "sqlite".toList.map Char.toLower = "sqlite".toList := by decide
  have length : "sqlite".toList.length = 6 := by decide
  rw [isHidden, pattern, like_word plain, like_someRun, lowered, length, isReservedName_eq,
    looksReserved, ← Bool.and_or_distrib_left, ← List.head?_drop]
  cases name.toList.drop 6 with
  | nil => rfl
  | cons c cs =>
    have either : (some c == some '_' || (some c).any (· != '_')) = true :=
      Bool.or_not_self (c == '_')
    rw [List.head?_cons, either]
    rfl

theorem isUserName_of_looksReserved {name : String} (looks : looksReserved name = true) :
    isUserName name = true := by
  have other : name ≠ bookkeepingName := by
    rintro rfl
    revert looks
    decide
  have free : isReservedName name = false := by
    rw [isReservedName_eq]
    rw [looksReserved, Bool.and_eq_true] at looks
    cases place : name.toList[6]? with
    | none => simp
    | some c =>
      have different : c ≠ '_' := by simpa [place] using looks.2
      simp [different]
  simp [isUserName, other, free]

theorem not_isHidden_eq (name : String) :
    (!isHidden name) = (isUserName name && !looksReserved name) := by
  rw [isHidden_eq, isUserName, bne]
  cases isReservedName name <;> cases looksReserved name <;> cases name == bookkeepingName <;> rfl

/-! ### The listing -/

theorem tables_ok {s : Store} {schema : String} {found : List CatalogTable}
    (listed : schemaTables s schema = .ok found) : tables s schema =
      .ok (((found.filter fun t => !isHidden t.name).mergeSort fun a b => a.name ≤ b.name).map
        table) := by
  rw [tables, listed]
  rfl

/-- A schema lists its user tables except those whose names only look reserved. So each user table
has its descriptor in the listing exactly if there are no such names. -/
theorem tables_complete_iff {s : Store} {schema : String} {found : List CatalogTable}
    (listed : schemaTables s schema = .ok found) :
    ∃ ts, Driver.sqlite.tables s schema = .ok ts ∧
      ts.Perm (((found.filter fun t => isUserName t.name).filter fun t =>
        !looksReserved t.name).map table) ∧
      (ts.Perm ((found.filter fun t => isUserName t.name).map table) ↔
        ∀ t ∈ found, looksReserved t.name = false) := by
  have shown :
      ((found.filter fun t => !isHidden t.name).mergeSort fun a b => a.name ≤ b.name).Perm
        ((found.filter fun t => isUserName t.name).filter fun t => !looksReserved t.name) := by
    refine (List.mergeSort_perm _ _).trans (.of_eq ?_)
    rw [List.filter_filter]
    exact List.filter_congr fun t _ => (not_isHidden_eq t.name).trans (Bool.and_comm _ _)
  refine ⟨_, tables_ok listed, shown.map table, ?_⟩
  constructor
  · intro complete
    -- The two lists are equally long, so nothing was taken out of the user tables.
    have all : ∀ t ∈ found.filter fun t => isUserName t.name,
        (!looksReserved t.name) = true := by
      have length := (shown.map table).length_eq.symm.trans complete.length_eq
      rw [List.length_map, List.length_map] at length
      exact List.length_filter_eq_length_iff.1 length
    intro t member
    by_contra looks
    have user := isUserName_of_looksReserved (Bool.of_not_eq_false looks)
    have plain := all t (List.mem_filter.2 ⟨member, user⟩)
    exact looks (by simpa using plain)
  · intro plain
    refine (shown.map table).trans (.of_eq (congrArg (List.map table) ?_))
    refine List.filter_eq_self.2 fun t member => ?_
    rw [plain t (List.mem_filter.1 member).1, Bool.not_false]

def namedTable (name : String) : CatalogTable :=
  { name
    definition := name ++ " (id INTEGER)"
    columns := [{ name := "id", declared := "INTEGER", notNull := false, default? := none,
                  keyOrdinal := 0, isGenerated := false }]
    indexes := [] }

def libraryStore : Store :=
  { Store.fresh "2024-01-01 00:00:00" with
    tables :=
      ["users", "sqlite", "sqlite_sequence", "100%_", "ksql_migrate_info"].map namedTable }

theorem library_complete :
    schemaTables libraryStore "main" = .ok libraryStore.tables ∧
      ∃ ts, Driver.sqlite.tables libraryStore "main" = .ok ts ∧
        ts.Perm ((["users", "sqlite", "100%_"].map namedTable).map table) := by
  have listed : schemaTables libraryStore "main" = .ok libraryStore.tables :=
    if_pos (by decide +kernel)
  have plain : ∀ t ∈ libraryStore.tables, looksReserved t.name = false := by decide +kernel
  have users : libraryStore.tables.filter (fun t => isUserName t.name) =
      ["users", "sqlite", "100%_"].map namedTable := by decide +kernel
  obtain ⟨ts, read, -, complete⟩ := tables_complete_iff listed
  exact ⟨listed, ts, read, users ▸ complete.2 plain⟩

def browserMade : Except StoreError Unit × Store :=
  (Store.fresh "2024-01-01 00:00:00").execute "CREATE TABLE sqlitebrowser (id INTEGER)"

/-- The engine takes the name for one of a user, and the listing takes it for one of the engine. -/
theorem browser_unlisted :
    browserMade.1 = .ok () ∧
      (browserMade.2.tables.map fun t => (t.name, isUserName t.name)) =
        [("sqlitebrowser", true)] ∧
      Driver.sqlite.tables browserMade.2 "main" = .ok [] :=
  ⟨by decide +kernel, by decide +kernel, by decide +kernel⟩

end Catalog.Sqlite

end SchemaShift
