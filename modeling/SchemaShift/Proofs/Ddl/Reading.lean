import Mathlib.Data.List.Basic
import SchemaShift.Proofs.Ddl.QuotedText

/-!
# What a statement does

The text of a statement for SQLite is read back into the effect that it stands for, with the
names that it quotes. Of a column definition only the name of the column is read.
-/

namespace SchemaShift

open Text

/-- What a statement does to tables, columns and indexes of the given names. -/
inductive Effect where
  | createTable (table : String)
  | dropTable (table : String)
  | addColumn (table column : String)
  | createIndex (name table : String) (columns : List String)
  | dropIndex (name : String)
deriving DecidableEq

/-! ### Reading -/

namespace Effect

/-- Passes over a phrase at the front. -/
def skip (phrase : String) (cs : List Char) : Option (List Char) :=
  cs.dropPrefix? phrase.toList

/-- Reads a name in double quotes off the front. -/
def readName (cs : List Char) : Option (String × List Char) :=
  (readQuoted '"' cs).map fun (name, cs) => (String.ofList name, cs)

/-- Reads names with commas between them, at most `n`. -/
def readNames : Nat → List Char → Option (List String × List Char)
  | 0, _ => none
  | n + 1, cs => do
    let (name, cs) ← readName cs
    match skip ", " cs with
    | none => some ([name], cs)
    | some cs =>
      let (names, cs) ← readNames n cs
      some (name :: names, cs)

/-- Reads names in parentheses. -/
def readColumns (cs : List Char) : Option (List String × List Char) := do
  let cs ← skip "(" cs
  match skip ")" cs with
  | some cs => some ([], cs)
  | none =>
    let (names, cs) ← readNames cs.length cs
    let cs ← skip ")" cs
    some (names, cs)

/-- Reads a statement that only names its object. -/
def readNaming (opening : String) (effect : String → Effect) (cs : List Char) : Option Effect := do
  let cs ← skip opening cs
  let (name, cs) ← readName cs
  if cs.isEmpty then some (effect name) else none

def readCreateTable (cs : List Char) : Option Effect := do
  let cs ← skip "CREATE TABLE " cs
  let (table, cs) ← readName cs
  let _ ← skip " (" cs
  some (.createTable table)

def readAddColumn (cs : List Char) : Option Effect := do
  let cs ← skip "ALTER TABLE " cs
  let (table, cs) ← readName cs
  let cs ← skip " ADD COLUMN " cs
  let (column, _) ← readName cs
  some (.addColumn table column)

def readCreateIndex (opening : String) (cs : List Char) : Option Effect := do
  let cs ← skip opening cs
  let (name, cs) ← readName cs
  let cs ← skip " ON " cs
  let (table, cs) ← readName cs
  let cs ← skip " " cs
  let (columns, cs) ← readColumns cs
  if cs.isEmpty then some (.createIndex name table columns) else none

end Effect

/-- The kind of a statement tells how its text is to be read. A comment is not read. -/
def Statement.effect? (s : Statement) : Option Effect :=
  let cs := s.sql.toList
  match s.kind with
  | .createTable => Effect.readCreateTable cs
  | .dropTable => Effect.readNaming "DROP TABLE " .dropTable cs
  | .alterTable => Effect.readAddColumn cs
  | .createIndex =>
    Effect.readCreateIndex "CREATE INDEX " cs <|> Effect.readCreateIndex "CREATE UNIQUE INDEX " cs
  | .dropIndex => Effect.readNaming "DROP INDEX " .dropIndex cs
  | .alterSchema => none
  | .unsupported => none

/-! ### Reading what was written -/

namespace Effect

@[simp] theorem skip_append (phrase : String) (rest : List Char) :
    skip phrase (phrase.toList ++ rest) = some rest :=
  List.dropPrefix?_eq_some_iff.2 ⟨phrase.toList, rfl, beq_self_eq_true _⟩

theorem readName_quoted (name : String) {rest : List Char} (ends : rest.head? ≠ some '"') :
    readName ((Sqlite.quoteIdentifier name).toList ++ rest) = some (name, rest) := by
  have read := (readQuoted_quote '"' name rest).2 ends
  rw [readName, Sqlite.quoteIdentifier, read]
  simp

/-- As many steps as there are names are enough. -/
theorem readNames_listed (name : String) (names : List String) (rest : List Char) {n : Nat}
    (enough : names.length < n) :
    readNames n ((join ", " ((name :: names).map Sqlite.quoteIdentifier)).toList ++ ')' :: rest) =
      some (name :: names, ')' :: rest) := by
  induction names generalizing name n with
  | nil =>
    obtain ⟨n, rfl⟩ := Nat.exists_eq_add_one.2 enough
    have last : skip ", " (')' :: rest) = none := rfl
    have read := @readName_quoted name (')' :: rest) (by simp)
    simp [readNames, join, read, last]
  | cons next names ih =>
    obtain ⟨n, rfl⟩ := Nat.exists_eq_add_one.2 (Nat.zero_lt_of_lt enough)
    have others := ih next (Nat.lt_of_succ_lt_succ enough)
    have listed : (join ", " ((name :: next :: names).map Sqlite.quoteIdentifier)).toList ++
        ')' :: rest = (Sqlite.quoteIdentifier name).toList ++ (", ".toList ++
          ((join ", " ((next :: names).map Sqlite.quoteIdentifier)).toList ++ ')' :: rest)) := by
      simp only [List.map_cons, join, String.toList_append, List.append_assoc]
    rw [listed, readNames, readName_quoted name (by simp)]
    simp only [Option.bind_eq_bind, Option.bind_some, skip_append, others]

theorem length_le_join (sep : String) {ss : List String} (filled : ∀ s ∈ ss, s ≠ "") :
    ss.length ≤ (join sep ss).toList.length := by
  induction ss with
  | nil => simp
  | cons s rest ih =>
    obtain ⟨first, others⟩ := List.forall_mem_cons.1 filled
    have some : 0 < s.toList.length := List.length_pos_iff.2 (by simpa using first)
    cases rest with
    | nil => simpa [join] using Nat.succ_le_of_lt some
    | cons t rest =>
      have more := ih others
      simp only [join, String.toList_append, List.length_append, List.length_cons] at more ⊢
      omega

theorem readColumns_columnList (columns : List String) :
    readColumns (Sqlite.columnList columns).toList = some (columns, []) := by
  cases columns with
  | nil => rfl
  | cons name names =>
    have opened : (Sqlite.columnList (name :: names)).toList = "(".toList ++
        ((join ", " ((name :: names).map Sqlite.quoteIdentifier)).toList ++ [')']) := by
      simp [Sqlite.columnList]
    obtain ⟨tail, starts⟩ : ∃ tail,
        (join ", " ((name :: names).map Sqlite.quoteIdentifier)).toList = '"' :: tail := by
      cases names <;> simp [join, Sqlite.quoteIdentifier, quote]
    have unclosed : skip ")" ((join ", " ((name :: names).map Sqlite.quoteIdentifier)).toList ++
        [')']) = none := by
      rw [starts]
      rfl
    have filled : ∀ s ∈ (name :: names).map Sqlite.quoteIdentifier, s ≠ "" := by
      simp [Sqlite.quoteIdentifier, quote]
    have enough := length_le_join ", " filled
    rw [readColumns, opened]
    simp only [Option.bind_eq_bind, Option.bind_some, skip_append, unclosed]
    rw [readNames_listed name names [] (by simp at enough ⊢; omega)]
    rfl

end Effect

namespace Sqlite

theorem effect?_unsupported (table : Option String) (message : String) :
    (Statement.unsupported table message).effect? = none :=
  rfl

theorem effect?_dropIndex (table : String) (i : Index) :
    (dropIndex table i).effect? = if i.kind ≠ .primary then some (.dropIndex i.name) else none := by
  unfold dropIndex
  by_cases primary : i.kind = .primary
  · simp [primary, effect?_unsupported]
  · have read := @Effect.readName_quoted i.name [] (by simp)
    rw [List.append_nil] at read
    rw [if_neg primary, if_pos primary]
    show Effect.readNaming "DROP INDEX " .dropIndex _ = _
    simp only [String.toList_append, Effect.readNaming, Effect.skip_append, Option.bind_eq_bind,
      Option.bind_some, read]
    rfl

theorem effect?_addColumn (table : String) (c : Column) :
    (addColumn table c).effect? = some (.addColumn table c.name) := by
  obtain ⟨rest, defined⟩ : ∃ rest, (columnDefinition c).toList =
      (quoteIdentifier c.name).toList ++ (" ".toList ++ rest) := by
    unfold columnDefinition
    simp only [String.toList_append, List.append_assoc]
    exact ⟨_, rfl⟩
  show Effect.readAddColumn _ = _
  simp only [addColumn, String.toList_append, List.append_assoc, defined, Effect.readAddColumn,
    Effect.skip_append, Option.bind_eq_bind, Option.bind_some]
  rw [Effect.readName_quoted table (by simp)]
  simp only [Effect.skip_append, Option.bind_some]
  rw [Effect.readName_quoted c.name (by simp)]
  rfl

theorem createIndexText_eq {unique opening : String}
    (joined : "CREATE " ++ unique ++ "INDEX " = opening) (table : String) (i : Index) :
    createIndexText unique table i = opening ++ (quoteIdentifier i.name ++
      (" ON " ++ quoteIdentifier table ++ " " ++ columnList i.columns)) := by
  rw [← joined]
  unfold createIndexText
  simp only [String.append_assoc]

theorem readCreateIndex_createIndexText {unique opening : String}
    (joined : "CREATE " ++ unique ++ "INDEX " = opening) (table : String) (i : Index) :
    Effect.readCreateIndex opening (createIndexText unique table i).toList =
      some (.createIndex i.name table i.columns) := by
  have text : (createIndexText unique table i).toList = opening.toList ++
      ((quoteIdentifier i.name).toList ++ (" ON ".toList ++ ((quoteIdentifier table).toList ++
        (" ".toList ++ (columnList i.columns).toList)))) := by
    simp only [createIndexText_eq joined, String.toList_append, List.append_assoc]
  rw [text, Effect.readCreateIndex]
  simp only [Effect.skip_append, Option.bind_eq_bind, Option.bind_some]
  rw [Effect.readName_quoted i.name (by simp)]
  simp only [Effect.skip_append, Option.bind_some]
  rw [Effect.readName_quoted table (by simp)]
  simp only [Effect.skip_append, Option.bind_some, Effect.readColumns_columnList]
  rfl

theorem effect?_createIndex (table : String) (i : Index) :
    (createIndex table i).effect? =
      if i.kind = .unique ∨ i.kind = .normal then some (.createIndex i.name table i.columns)
      else none := by
  unfold createIndex Statement.effect?
  cases i.kind with
  | unique =>
    have joined : "CREATE " ++ "UNIQUE " ++ "INDEX " = "CREATE UNIQUE INDEX " := rfl
    have read := readCreateIndex_createIndexText joined table i
    -- The shorter opening is tried first, and it is not there.
    have other : Effect.readCreateIndex "CREATE INDEX " (createIndexText "UNIQUE " table i).toList =
        none := by
      simp only [createIndexText, String.toList_append, List.append_assoc]
      rfl
    dsimp only
    rw [other, read]
    rfl
  | normal =>
    have joined : "CREATE " ++ "" ++ "INDEX " = "CREATE INDEX " := rfl
    have read := readCreateIndex_createIndexText joined table i
    dsimp only
    rw [read]
    rfl
  | primary => rfl
  | fulltext => rfl
  | spatial => rfl

end Sqlite

end SchemaShift
