import SchemaShift.Output.DiffFile
import SchemaShift.Proofs.Ddl.OneLine
import SchemaShift.Proofs.Migration.Applying
import SchemaShift.Proofs.Query.Placeholders
import SchemaShift.Proofs.Text.Integer

/-!
# Diff files read back

A reader of a diff file takes it line by line and passes over blank lines and comments. As long as
nothing in it has a line break of its own, the statements that are left are the texts that are sent
when the diff is applied.
-/

namespace SchemaShift

open Text

/-! ### Lines -/

def linesOf (text : String) : List String :=
  (splitOn '\n' text.toList).map String.ofList

/-- A text of lines, each of them ended. -/
def ended : List String → String
  | [] => ""
  | line :: rest => line ++ "\n" ++ ended rest

theorem linesOf_ended {lines : List String} (short : ∀ line ∈ lines, OneLine line) :
    linesOf (ended lines) = lines ++ [""] := by
  induction lines with
  | nil => rfl
  | cons line rest ih =>
    obtain ⟨first, others⟩ := List.forall_mem_cons.1 short
    have split := splitOn_append first (ended rest).toList
    have text : (ended (line :: rest)).toList = line.toList ++ '\n' :: (ended rest).toList := by
      rw [ended, String.toList_append, String.toList_append, List.append_assoc]
      rfl
    rw [linesOf, text, split, List.map_cons, String.ofList_toList, List.cons_append]
    exact congrArg _ (ih others)

theorem ended_append (first second : List String) :
    ended (first ++ second) = ended first ++ ended second := by
  induction first with
  | nil => simp [ended]
  | cons line rest ih => rw [List.cons_append, ended, ended, ih, ← String.append_assoc]

/-! ### The lines of a diff file -/

namespace Output

def fileLine (s : Statement) : String :=
  s.sql ++ if s.isExecutable then ";" else ""

theorem statementLines_eq (statements : List Statement) :
    statementLines statements = ended (statements.map fileLine) := by
  induction statements with
  | nil => rfl
  | cons s rest ih =>
    rw [statementLines, ih, List.map_cons, ended, statementLine, inlineValues_nil, fileLine]

def DiffHeader.lines (h : DiffHeader) : List String :=
  ["-- from: " ++ h.source, "-- to: " ++ h.target, "-- version: " ++ h.version,
    "-- created: " ++ h.created.spaced, ""]

theorem DiffHeader.text_eq (h : DiffHeader) : h.text = ended h.lines := by
  refine String.toList_inj.1 ?_
  delta DiffHeader.text
  simp [DiffHeader.lines, ended]

theorem diffFile_eq (h : DiffHeader) (statements : List Statement) :
    diffFile h statements = ended (h.lines ++ statements.map fileLine) := by
  rw [diffFile, h.text_eq, statementLines_eq, ended_append]

theorem oneLine_padded (width n : Nat) : OneLine (padded width n) := by
  intro member
  have digit := isDigit_of_mem_padded member
  cases digit

theorem oneLine_spaced (t : Calendar.Civil) : OneLine t.spaced := by
  have year : OneLine (Calendar.yearText t.year) := by
    unfold Calendar.yearText
    split
    · exact oneLine_padded _ _
    · refine lacks_append.2 ⟨?_, oneLine_padded _ _⟩
      split <;> decide
  unfold Calendar.Civil.spaced
  simp +decide only [lacks_append, year, oneLine_padded, and_true]

/-- No name and no version in the header has a line break. -/
structure DiffHeader.Plain (h : DiffHeader) : Prop where
  source : OneLine h.source
  target : OneLine h.target
  version : OneLine h.version

theorem DiffHeader.Plain.lines {h : DiffHeader} (plain : h.Plain) :
    ∀ line ∈ h.lines, OneLine line := by
  have created := oneLine_spaced h.created
  simp +decide only [DiffHeader.lines, List.forall_mem_cons, lacks_append, plain.source,
    plain.target, plain.version, created, and_true]

theorem oneLine_fileLine {s : Statement} (short : OneLine s.sql) : OneLine (fileLine s) := by
  refine lacks_append.2 ⟨short, ?_⟩
  split <;> decide

/-! ### The reader -/

/-- The line is neither blank nor a comment. -/
def isKept (line : String) : Bool :=
  !allBlank line && !startsWith line "--"

def withoutSemicolon (line : String) : String :=
  if line.toList.getLast? = some ';' then String.ofList line.toList.dropLast else line

/-- The statements that a diff file tells to run. -/
def readBack (text : String) : List String :=
  ((linesOf text).filter isKept).map withoutSemicolon

theorem withoutSemicolon_append (sql : String) : withoutSemicolon (sql ++ ";") = sql := by
  have last : (sql ++ ";").toList = sql.toList ++ [';'] := String.toList_append
  rw [withoutSemicolon, last, if_pos List.getLast?_concat, List.dropLast_concat,
    String.ofList_toList]

theorem not_isKept_dashed {front : String} (dashed : startsWith front "--" = true)
    (rest : String) : ¬isKept (front ++ rest) = true := by
  rw [isKept, startsWith_of_front dashed, Bool.not_true, Bool.and_false]
  decide

theorem isKept_order {sql : String} (orders : Orders sql) : isKept sql = true := by
  obtain ⟨c, rest, same, solid, -⟩ := orders.first
  have full : allBlank sql = false := by
    rw [allBlank, same, List.all_cons, solid, Bool.false_and]
  rw [isKept, full, orders.undashed]
  rfl

theorem keptLines_eq {statements : List Statement} (opened : ∀ s ∈ statements, s.Opened) :
    ((statements.map fileLine).filter isKept).map withoutSemicolon =
      executableTexts statements := by
  induction statements with
  | nil => rfl
  | cons s rest ih =>
    obtain ⟨first, others⟩ := List.forall_mem_cons.1 opened
    rw [List.map_cons]
    cases first with
    | comment comment =>
      obtain ⟨kind, message, text⟩ := comment
      have skipped : s.isExecutable = false := by rw [Statement.isExecutable, kind]; rfl
      have dashes : fileLine s = "--" ++ (" " ++ message) := by
        rw [fileLine, skipped, text, ← String.append_assoc]
        exact String.append_empty
      have dropped := @not_isKept_dashed "--" (by decide) (" " ++ message)
      rw [dashes, List.filter_cons_of_neg dropped, executableTexts_comment skipped, ih others]
    | order executable orders =>
      have line : fileLine s = s.sql ++ ";" := by rw [fileLine, if_pos executable]
      have kept : isKept (s.sql ++ ";") = true := isKept_order (orders_of_front _ orders)
      rw [line, List.filter_cons_of_pos kept, List.map_cons, withoutSemicolon_append,
        executableTexts_order executable, ih others]

theorem DiffHeader.filter_lines (h : DiffHeader) : h.lines.filter isKept = [] := by
  simp only [List.filter_eq_nil_iff, DiffHeader.lines, List.forall_mem_cons]
  exact ⟨not_isKept_dashed (by decide) _, not_isKept_dashed (by decide) _,
    not_isKept_dashed (by decide) _, not_isKept_dashed (by decide) _, by decide, by simp⟩

section Plain

variable {h : DiffHeader} (plain : h.Plain) (d : Dialect) (changes : List SchemaChange)
  (short : ∀ s ∈ d.emitAll changes, OneLine s.sql)

include plain short

theorem linesOf_diffFile : linesOf (diffFile h (d.emitAll changes)) =
    h.lines ++ (d.emitAll changes).map fileLine ++ [""] := by
  rw [diffFile_eq, linesOf_ended]
  refine List.forall_mem_append.2 ⟨plain.lines, List.forall_mem_map.2 fun s listed => ?_⟩
  exact oneLine_fileLine (short s listed)

theorem readBack_diffFile :
    readBack (diffFile h (d.emitAll changes)) = executableTexts (d.emitAll changes) := by
  have last : [""].filter isKept = [] := by decide
  rw [readBack, linesOf_diffFile plain d changes short, List.filter_append, List.filter_append,
    h.filter_lines, last, List.nil_append, List.append_nil,
    keptLines_eq (d.opened_emitAll changes)]

/-- The file has four lines of header, a blank one and a line for each statement. What a reader is
left with are the texts that are sent when the statements are applied. -/
theorem diffFile_readBack :
    linesOf (diffFile h (d.emitAll changes)) =
        h.lines ++ (d.emitAll changes).map fileLine ++ [""] ∧
      (∀ s : Store, applyStatements s (d.emitAll changes) =
        applyWith Store.execute s (d.emitAll changes)) ∧
      ∀ {σ : Type} (engine : Engine σ) (s : σ), ∃ outcome t sent,
        applyWith engine s (d.emitAll changes) =
            (outcome.map fun _ => (readBack (diffFile h (d.emitAll changes))).length, t) ∧
          applyWith (logging engine) (s, []) (d.emitAll changes) =
            (outcome.map fun _ => (readBack (diffFile h (d.emitAll changes))).length, t, sent) ∧
          Sends engine s (readBack (diffFile h (d.emitAll changes))) outcome t sent := by
  refine ⟨linesOf_diffFile plain d changes short, fun s => rfl, ?_⟩
  intro σ engine s
  obtain ⟨outcome, t, sent, same, applied, -⟩ :=
    sameCalls engine (d.opened_emitAll changes) s
  rw [readBack_diffFile plain d changes short]
  exact ⟨outcome, t, sent, applied, same.applied, same.sends⟩

end Plain

/-- A column with a quote and a question mark in its default comes, an option goes. -/
def notesChanges : List SchemaChange :=
  let note := (Column.ofType "note?" "varchar(64)").withDefault "who's there? -- \"me\";"
  [.alterTable "notes"
    { addedColumns := [note]
      changedColumns := []
      addedIndexes := [.ofMember (.ofColumn "ix_note" "notes" "note?" 1 true)]
      deletedIndexes := []
      options := some { engine := some "", collation := none, comment := none } }]

def notesHeader : DiffHeader :=
  { source := "desk", target := "archive", version := toolVersion
    created := { year := 2024, month := 5, day := 1, hour := 10, minute := 20, second := 30 } }

def notesTexts : List String :=
  ["ALTER TABLE \"notes\" ADD COLUMN \"note?\" varchar(64) DEFAULT 'who''s there? -- \"me\";'",
    "CREATE INDEX \"ix_note\" ON \"notes\" (\"note?\")"]

theorem notes_readBack :
    let statements := Dialect.sqlite.emitAll notesChanges
    let start := Store.fresh "2024-01-01 00:00:00"
    linesOf (diffFile notesHeader statements) =
        notesHeader.lines ++ statements.map fileLine ++ [""] ∧
      readBack (diffFile notesHeader statements) = notesTexts ∧
      ∃ outcome t sent, applyStatements start statements = (outcome.map fun _ => 2, t) ∧
        applyWith (logging Store.execute) (start, []) statements =
          (outcome.map fun _ => 2, t, sent) ∧
        Sends Store.execute start notesTexts outcome t sent := by
  have plain : notesHeader.Plain := ⟨by decide, by decide, by decide⟩
  have short : ∀ s ∈ Dialect.sqlite.emitAll notesChanges, OneLine s.sql := by decide +kernel
  have texts : executableTexts (Dialect.sqlite.emitAll notesChanges) = notesTexts := by
    decide +kernel
  have read := (readBack_diffFile plain .sqlite notesChanges short).trans texts
  obtain ⟨lines, applied, sends⟩ := diffFile_readBack plain .sqlite notesChanges short
  obtain ⟨outcome, t, sent, ran, noted, same⟩ :=
    sends Store.execute (Store.fresh "2024-01-01 00:00:00")
  rw [read] at ran noted same
  exact ⟨lines, read, outcome, t, sent, (applied _).trans ran, noted, same⟩

end Output

end SchemaShift
