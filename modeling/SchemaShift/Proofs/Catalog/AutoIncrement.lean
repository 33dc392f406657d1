import SchemaShift.Proofs.Catalog.TableDescriptors
import SchemaShift.Proofs.Store.Declarations

/-!
# Keys that are counted up

Introspection looks for a word in the text of a table to tell whether its key is counted up. The
word is there if the declaration of the key has it, so no such key is missed. But the word may also
be part of a name, of a literal or of a comment, and then a key is reported that is not counted up.
-/

namespace SchemaShift

open Text Store

theorem lettered_autoIncrement : Lettered "AUTOINCREMENT" :=
  ⟨by decide, List.all_eq_true.1 (by decide)⟩

/-- The word of a counted key is among what the text of the table cites. -/
theorem Store.CatalogTable.DeclaredBy.mentions {t : CatalogTable} {d : Declaration}
    {sqls : List String} (declared : t.DeclaredBy d sqls) (counts : d.definition.counts = true) :
    d.Mentions "AUTOINCREMENT" := by
  obtain ⟨ts, target, unlessThere, stated, read, named, within⟩ := declared.created
  obtain ⟨run, part, cited, told⟩ := ofTokens_cites ts _ read declared.sound
  obtain ⟨token, member, is⟩ := told counts
  have occurs := occurs_of_isWord member is
  rw [← cited, declared.cited] at occurs
  have own : d.first ∈ d.runs := List.mem_cons_self
  exact ⟨d.first, own, (declared.occurs_cite_iff lettered_autoIncrement own).1 occurs⟩

namespace Catalog.Sqlite

variable {t : CatalogTable}

/-- The column alone is the primary key. -/
def SoleKey (t : CatalogTable) (c : CatalogColumn) : Prop :=
  t.listed.filter (fun c => 0 < c.keyOrdinal) = [c]

/-- The columns that are reported to be counted up are those with this property. -/
def ReportsCounted (t : CatalogTable) (counted : CatalogColumn → Prop) : Prop :=
  List.Forall₂ (fun c d => d.name = c.name ∧ (d.autoIncrement = true ↔ counted c))
    t.listed (table t).columns

theorem SoleKey.mem {c : CatalogColumn} (sole : SoleKey t c) :
    c ∈ t.listed ∧ 0 < c.keyOrdinal := by
  have member : c ∈ t.listed.filter fun c => 0 < c.keyOrdinal := by
    rw [sole]
    exact List.mem_singleton_self c
  rwa [List.mem_filter, decide_eq_true_iff] at member

theorem soleKey_iff {c : CatalogColumn} (listed : c ∈ t.listed) :
    SoleKey t c ↔ (keyColumns t).length = 1 ∧ c.keyOrdinal ≠ 0 := by
  rw [(keyColumns_perm t).length_eq]
  constructor
  · intro sole
    obtain ⟨-, inKey⟩ := sole.mem
    rw [sole]
    exact ⟨rfl, Nat.ne_of_gt inKey⟩
  · rintro ⟨one, inKey⟩
    have member : c ∈ t.listed.filter fun c => 0 < c.keyOrdinal :=
      List.mem_filter.2 ⟨listed, decide_eq_true (Nat.pos_of_ne_zero inKey)⟩
    unfold SoleKey
    obtain ⟨other, only⟩ := List.length_eq_one_iff.1 one
    rw [only, List.mem_singleton] at member
    rw [only, member]

theorem autoIncrement_column (counting : Bool) (c : CatalogColumn) :
    (column counting c).autoIncrement = (counting && c.keyOrdinal != 0) := by
  unfold column
  dsimp only
  split
  · rename_i counted
    rw [counted]
    rfl
  · rename_i plain
    rw [Bool.eq_false_iff.2 plain]
    rfl

theorem reportsCounted_iff {counted : CatalogColumn → Prop} :
    ReportsCounted t counted ↔ ∀ c ∈ t.listed,
      (SoleKey t c ∧ Occurs "AUTOINCREMENT" t.definition.toList ↔ counted c) := by
  unfold ReportsCounted
  rw [table_columns, List.forall₂_map_right_iff, List.forall₂_same]
  refine forall₂_congr fun c listed => ?_
  have flag : (grantAll (indexes t).values (column (isCounting t) c)).autoIncrement =
      (isCounting t && c.keyOrdinal != 0) := by
    rw [grantAll_eq]
    exact autoIncrement_column (isCounting t) c
  have name : (grantAll (indexes t).values (column (isCounting t) c)).name = c.name := by
    rw [grantAll_eq]
    exact name_column (isCounting t) c
  have reported : (isCounting t && c.keyOrdinal != 0) = true ↔
      SoleKey t c ∧ Occurs "AUTOINCREMENT" t.definition.toList := by
    rw [soleKey_iff listed, ← contains_upper_iff, isCounting, Bool.and_eq_true, Bool.and_eq_true,
      beq_iff_eq, bne_iff_ne, and_right_comm]
  rw [flag, name, reported, and_iff_right rfl]

/-- In a table that statements made, a column is reported to be counted up if it is the whole key
and the word is anywhere in the text of the table. This is what the definition of the table says
unless the word is only part of something else. -/
theorem counted_iff_declared {now : String} {sqls : List String}
    (held : t ∈ ((Store.fresh now).after sqls).tables) :
    (∃ d, t.DeclaredBy d (sequenceStatement :: sqls)) ∧
    ∀ d, t.DeclaredBy d (sequenceStatement :: sqls) →
      (d.definition.counts = true → d.Mentions "AUTOINCREMENT") ∧
      ReportsCounted t (fun c => SoleKey t c ∧ d.Mentions "AUTOINCREMENT") ∧
      (ReportsCounted t (fun c => SoleKey t c ∧ d.definition.counts = true) ↔
        ((∃ c, SoleKey t c) → d.Mentions "AUTOINCREMENT" → d.definition.counts = true)) := by
  refine ⟨fresh_after_declared now sqls t held, ?_⟩
  intro d declared
  have text := declared.occurs_iff lettered_autoIncrement
  refine ⟨declared.mentions, ?_, ?_⟩
  · rw [reportsCounted_iff]
    intro c listed
    rw [text]
  · rw [reportsCounted_iff]
    constructor
    · rintro right ⟨c, sole⟩ mentions
      obtain ⟨listed, -⟩ := sole.mem
      obtain ⟨-, counts⟩ := (right c listed).1 ⟨sole, text.2 mentions⟩
      exact counts
    · intro condition c listed
      rw [text]
      constructor
      · rintro ⟨sole, mentions⟩
        exact ⟨sole, condition ⟨c, sole⟩ mentions⟩
      · rintro ⟨sole, counts⟩
        exact ⟨sole, declared.mentions counts⟩

def idColumn : CatalogColumn :=
  { name := "id", declared := "INTEGER", notNull := false, default? := none, keyOrdinal := 1,
    isGenerated := false }

def postsStatement : String :=
  "CREATE TABLE posts (id INTEGER PRIMARY KEY /* autoincrement */ AUTOINCREMENT)"

def postsTable : CatalogTable :=
  { name := "posts"
    definition := "posts (id INTEGER PRIMARY KEY /* autoincrement */ AUTOINCREMENT)"
    columns := [idColumn]
    indexes := [] }

theorem posts_counted :
    postsTable ∈ ((Store.fresh "2024-01-01 00:00:00").after [postsStatement]).tables ∧
      (∃ d : Declaration, postsTable.DeclaredBy d [sequenceStatement, postsStatement] ∧
        ReportsCounted postsTable fun c => SoleKey postsTable c ∧ d.Mentions "AUTOINCREMENT") ∧
      (table postsTable).columns.map (·.autoIncrement) = [true] := by
  have held : postsTable ∈ ((Store.fresh "2024-01-01 00:00:00").after [postsStatement]).tables := by
    decide +kernel
  obtain ⟨⟨d, declared⟩, told⟩ := counted_iff_declared held
  obtain ⟨-, reported, -⟩ := told d declared
  exact ⟨held, ⟨d, declared, reported⟩, by decide +kernel⟩

def logStatement : String :=
  "CREATE TABLE \"autoincrement_log\" (\"id\" INTEGER PRIMARY KEY)"

def logMade : Except StoreError Unit × Store :=
  (Store.fresh "2024-01-01 00:00:00").execute logStatement

def logTable : CatalogTable :=
  { name := "autoincrement_log"
    definition := "\"autoincrement_log\" (\"id\" INTEGER PRIMARY KEY)"
    columns := [idColumn]
    indexes := [] }

def logDefinition : Definition :=
  { text := "\"autoincrement_log\" (\"id\" INTEGER PRIMARY KEY)"
    clauses := [.column "id" "INTEGER", .columnKey false none false]
    options := []
    fault := none }

/-- Only the name of the table has the word, and its key is reported to be counted up. -/
theorem log_counted :
    logMade.1 = .ok () ∧ logMade.2.tables = [logTable] ∧
      (statements (trim logStatement)).map Command.ofTokens =
        [.ok (.createTable
          { schema := none
            name := { kind := .name, gap := [' '], text := "\"autoincrement_log\"".toList } }
          false logDefinition)] ∧
      logDefinition.counts = false ∧ SoleKey logTable idColumn ∧
      (table logTable).columns.map (·.autoIncrement) = [true] :=
  ⟨by decide +kernel, by decide +kernel, by decide +kernel, rfl, rfl, by decide +kernel⟩

end Catalog.Sqlite

end SchemaShift
