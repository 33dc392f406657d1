import SchemaShift.Output.UnitSource
import SchemaShift.Proofs.Ddl.Reading
import SchemaShift.Proofs.Output.DiffFile
import SchemaShift.Proofs.Output.SourceLiteral
import SchemaShift.Proofs.Output.UnitName

/-!
# Source of units read back

A reader of generated source takes it line by line, passes over comments, and decodes the literals
of the calls that build the unit. As long as the name, the version and the comments of a template
have no line breaks, these calls say what the template says, whatever its statements are.
-/

namespace SchemaShift.Output

open Text

/-! ### The reader -/

/-- A call that builds a unit, with the values of its literals. -/
inductive SourceCall where
  | new (id : UInt64) (name version : String)
  | up (sql : String)
  | down (sql : String)
deriving DecidableEq

namespace SourceCall

def readNumber (cs : List Char) : Option (UInt64 × List Char) :=
  (uint64? (cs.takeWhile Char.isDigit)).map fun n => (n, cs.dropWhile Char.isDigit)

def readNew (cs : List Char) : Option SourceCall := do
  let cs ← Effect.skip "SqlMigration::new(" cs
  let (id, cs) ← readNumber cs
  let cs ← Effect.skip ", " cs
  let (name, cs) ← readLiteral cs
  let cs ← Effect.skip ", " cs
  let (version, cs) ← readLiteral cs
  if cs = [')'] then some (.new id name version) else none

def readText (opening : String) (call : String → SourceCall) (cs : List Char) :
    Option SourceCall := do
  let cs ← Effect.skip opening cs
  let (sql, cs) ← readLiteral cs
  if cs = [')'] then some (call sql) else none

/-- The call on a line. Blanks in front do not count, and a comment holds no call. -/
def ofLine? (line : String) : Option SourceCall :=
  let cs := stripStart line.toList
  if ['/', '/'].isPrefixOf cs then none
  else readNew cs <|> readText ".up(" .up cs <|> readText ".down(" .down cs

def upText? : SourceCall → Option String
  | .up sql => some sql
  | _ => none

def downText? : SourceCall → Option String
  | .down sql => some sql
  | _ => none

end SourceCall

def callsIn (source : String) : List SourceCall :=
  (linesOf source).filterMap SourceCall.ofLine?

/-- What the source of a unit says about it. -/
structure SourceUnit where
  id : UInt64
  name : String
  version : String
  up : List String
  down : List String
deriving DecidableEq

/-- The first call makes the unit, and the others give it its texts. -/
def SourceUnit.read? (source : String) : Option SourceUnit :=
  match callsIn source with
  | .new id name version :: calls =>
    some { id, name, version
           up := calls.filterMap SourceCall.upText?
           down := calls.filterMap SourceCall.downText? }
  | _ => none

/-! ### The lines of the source -/

namespace UnitTemplate

/-- The name, the version and the statements that become comments have no line breaks. -/
structure Plain (t : UnitTemplate) : Prop where
  name : OneLine t.name
  version : OneLine t.version
  comments : ∀ s ∈ t.up ++ t.down, s.isExecutable = false → OneLine s.sql

def newText (t : UnitTemplate) : String :=
  "        SqlMigration::new(" ++ natText t.id.toNat ++ ", " ++ sourceLiteral t.name ++ ", " ++
    sourceLiteral t.version ++ ")"

def callText (method : String) (s : Statement) : String :=
  if s.isExecutable then "            ." ++ method ++ "(" ++ sourceLiteral s.sql ++ ")"
  else "            // " ++ s.sql

def openingLines (t : UnitTemplate) : List String :=
  ["//! Migration " ++ natText t.id.toNat ++ ": " ++ t.name ++ " (" ++ t.version ++ ").",
    "",
    "use ksql_migrate::prelude::*;",
    "",
    "/// Builds migration " ++ natText t.id.toNat ++ " (" ++ t.name ++ ").",
    "#[must_use]",
    "pub fn " ++ t.functionName ++ "() -> Box<dyn MigrationUnit> \x7b",
    "    Box::new("]

def lines (t : UnitTemplate) : List String :=
  t.openingLines ++ t.newText :: (t.up.map (callText "up") ++
    t.down.map (callText "down") ++ ["    )", "\x7d"])

theorem callLines_eq (method : String) (statements : List Statement) :
    callLines method statements = ended (statements.map (callText method)) := by
  induction statements with
  | nil => rfl
  | cons s rest ih =>
    rw [callLines, ih, List.map_cons, ended, callLine, callText]
    split
    · simp only [String.append_assoc]
      rfl
    · simp only [String.append_assoc]

set_option maxRecDepth 2048 in
theorem source_eq (t : UnitTemplate) : t.source = ended t.lines := by
  have written : ended t.lines = ended t.openingLines ++ (t.newText ++ "\n" ++
      (callLines "up" t.up ++ callLines "down" t.down ++ ended ["    )", "\x7d"])) := by
    rw [lines, ended_append, ended, ended_append, ended_append, callLines_eq, callLines_eq]
  refine Eq.trans ?_ written.symm
  unfold source openingLines newText
  -- The terms go first, so that only the fixed texts are taken apart.
  generalize natText t.id.toNat = id, sourceLiteral t.name = name,
    sourceLiteral t.version = version, t.functionName = function,
    callLines "up" t.up = up, callLines "down" t.down = down
  refine String.toList_inj.1 ?_
  simp [ended]

end UnitTemplate

/-! ### Reading a line -/

namespace SourceCall

theorem readNumber_natText (n : UInt64) (tail : List Char) :
    readNumber ((natText n.toNat).toList ++ (", ".toList ++ tail)) =
      some (n, ", ".toList ++ tail) := by
  have digits : ∀ c ∈ (natText n.toNat).toList, c.isDigit = true :=
    fun _ member => isDigit_of_mem_natText member
  have comma : ", ".toList ++ tail = ',' :: ' ' :: tail := rfl
  rw [readNumber, List.takeWhile_append_of_pos digits, List.dropWhile_append_of_pos digits, comma,
    List.takeWhile_cons_of_neg (by decide), List.dropWhile_cons_of_neg (by decide),
    List.append_nil, uint64?_natText, Option.map_some]

theorem readNew_written (id : UInt64) (name version : String) :
    readNew ("SqlMigration::new(".toList ++ ((natText id.toNat).toList ++ (", ".toList ++
      ((sourceLiteral name).toList ++ (", ".toList ++ ((sourceLiteral version).toList ++
        ")".toList)))))) = some (.new id name version) := by
  simp only [readNew, Effect.skip_append, readNumber_natText, readLiteral_sourceLiteral,
    Option.bind_eq_bind, Option.bind_some]
  rfl

theorem readText_written (opening : String) (call : String → SourceCall) (sql : String) :
    readText opening call (opening.toList ++ ((sourceLiteral sql).toList ++ ")".toList)) =
      some (call sql) := by
  simp only [readText, Effect.skip_append, readLiteral_sourceLiteral, Option.bind_eq_bind,
    Option.bind_some]
  rfl

theorem stripStart_front {front : String} {c : Char} {word : List Char}
    (bare : stripStart front.toList = c :: word) (rest : String) :
    stripStart (front ++ rest).toList = c :: (word ++ rest.toList) := by
  rw [← List.cons_append, ← bare, stripStart, String.toList_append, List.dropWhile_append,
    if_neg]
  · rfl
  · rw [← stripStart, bare]
    exact Bool.false_ne_true

theorem ofLine?_comment {front : String} (word : List Char)
    (comment : stripStart front.toList = '/' :: '/' :: word) (rest : String) :
    ofLine? (front ++ rest) = none := by
  rw [ofLine?, stripStart_front comment rest]
  rfl

theorem ofLine?_code {front : String} (word : String)
    (bare : stripStart front.toList = word.toList)
    (code : word.toList.head?.any (· != '/') = true) (rest : String) :
    ofLine? (front ++ rest) = (readNew (word.toList ++ rest.toList) <|>
      readText ".up(" .up (word.toList ++ rest.toList) <|>
      readText ".down(" .down (word.toList ++ rest.toList)) := by
  cases cs : word.toList with
  | nil =>
    rw [cs] at code
    cases code
  | cons c cs' =>
    rw [cs, List.head?_cons, Option.any_some, bne_iff_ne] at code
    have other : ('/' == c) = false := beq_false_of_ne code.symm
    rw [ofLine?, stripStart_front (bare.trans cs) rest, if_neg]
    · rfl
    · rw [List.isPrefixOf, other]
      exact Bool.false_ne_true

theorem ofLine?_function (rest : String) : ofLine? ("pub fn " ++ rest) = none := by
  rw [ofLine?_code "pub fn " (by decide) (by decide) rest]
  rfl

end SourceCall

open SourceCall

namespace UnitTemplate

variable (t : UnitTemplate)

theorem ofLine?_newText : ofLine? t.newText = some (.new t.id t.name t.version) := by
  have written := readNew_written t.id t.name t.version
  unfold newText
  generalize natText t.id.toNat = id, sourceLiteral t.name = name,
    sourceLiteral t.version = version at *
  simp only [String.append_assoc]
  rw [ofLine?_code "SqlMigration::new(" (by decide) (by decide)]
  -- The first of the three readers takes the line, so the others are not asked.
  simp only [String.toList_append, written]
  rfl

theorem ofLine?_up (sql : String) :
    ofLine? ("            ." ++ "up" ++ "(" ++ sourceLiteral sql ++ ")") = some (.up sql) := by
  have front : "            ." ++ "up" ++ "(" = "            .up(" := by decide
  have written := readText_written ".up(" .up sql
  generalize sourceLiteral sql = literal at *
  rw [front, String.append_assoc, ofLine?_code ".up(" (by decide) (by decide),
    String.toList_append, written]
  rfl

theorem ofLine?_down (sql : String) :
    ofLine? ("            ." ++ "down" ++ "(" ++ sourceLiteral sql ++ ")") = some (.down sql) := by
  have front : "            ." ++ "down" ++ "(" = "            .down(" := by decide
  have written := readText_written ".down(" .down sql
  generalize sourceLiteral sql = literal at *
  rw [front, String.append_assoc, ofLine?_code ".down(" (by decide) (by decide),
    String.toList_append, written]
  rfl

/-- The lines of an action give its executable texts, each in its call. -/
theorem filterMap_callText {method : String} {call : String → SourceCall}
    (reads : ∀ sql, ofLine? ("            ." ++ method ++ "(" ++ sourceLiteral sql ++ ")") =
      some (call sql)) (statements : List Statement) :
    (statements.map (callText method)).filterMap ofLine? =
      (executableTexts statements).map call := by
  induction statements with
  | nil => rfl
  | cons s rest ih =>
    rw [List.map_cons]
    cases executable : s.isExecutable with
    | false =>
      have comment : ofLine? (callText method s) = none := by
        rw [callText, executable]
        exact ofLine?_comment [' '] (by decide) s.sql
      rw [List.filterMap_cons_none comment, ih, executableTexts_comment executable]
    | true =>
      have line : ofLine? (callText method s) = some (call s.sql) := by
        rw [callText, if_pos executable, reads]
      rw [List.filterMap_cons_some line, ih, executableTexts_order executable, List.map_cons]

theorem filterMap_openingLines : t.openingLines.filterMap ofLine? = [] := by
  have summary (rest : String) : ofLine? ("//! Migration " ++ rest) = none :=
    ofLine?_comment "! Migration ".toList (by decide) rest
  have doc (rest : String) : ofLine? ("/// Builds migration " ++ rest) = none :=
    ofLine?_comment "/ Builds migration ".toList (by decide) rest
  have function := ofLine?_function
  unfold openingLines
  generalize natText t.id.toNat = id, t.functionName = name
  simp only [String.append_assoc, List.filterMap_cons, summary, doc, function]
  decide

/-! ### The whole source -/

theorem oneLine_natText (n : Nat) : OneLine (natText n) := by
  intro member
  have digit := isDigit_of_mem_natText member
  cases digit

theorem oneLine_functionName : OneLine t.functionName := by
  intro member
  have plain := t.chars_functionName _ member
  cases plain

theorem oneLine_newText : OneLine t.newText := by
  have id := oneLine_natText t.id.toNat
  have name := oneLine_sourceLiteral t.name
  have version := oneLine_sourceLiteral t.version
  unfold newText
  generalize natText t.id.toNat = idText, sourceLiteral t.name = nameText,
    sourceLiteral t.version = versionText at *
  simp +decide only [lacks_append, id, name, version, and_true]

theorem oneLine_callText {method : String} (short : OneLine method) {s : Statement}
    (comment : s.isExecutable = false → OneLine s.sql) : OneLine (callText method s) := by
  have literal := oneLine_sourceLiteral s.sql
  rw [callText]
  split
  · generalize sourceLiteral s.sql = text at *
    simp +decide only [lacks_append, short, literal, and_true]
  · rename_i unsupported
    exact lacks_append.2 ⟨by decide, comment (Bool.eq_false_iff.2 unsupported)⟩

variable {t}

theorem Plain.openingLines (plain : t.Plain) : ∀ line ∈ t.openingLines, OneLine line := by
  simp +decide only [UnitTemplate.openingLines, List.forall_mem_cons, lacks_append,
    oneLine_natText, oneLine_functionName, plain.name, plain.version, and_true]

theorem Plain.lines (plain : t.Plain) : ∀ line ∈ t.lines, OneLine line := by
  have up : ∀ s ∈ t.up, OneLine (callText "up" s) := fun s listed =>
    oneLine_callText (by decide) (plain.comments s (List.mem_append_left _ listed))
  have down : ∀ s ∈ t.down, OneLine (callText "down" s) := fun s listed =>
    oneLine_callText (by decide) (plain.comments s (List.mem_append_right _ listed))
  have closing : ∀ line ∈ ["    )", "\x7d"], OneLine line := by decide
  rw [UnitTemplate.lines, List.forall_mem_append, List.forall_mem_cons, List.forall_mem_append,
    List.forall_mem_append, List.forall_mem_map, List.forall_mem_map]
  exact ⟨plain.openingLines, t.oneLine_newText, ⟨up, down⟩, closing⟩

theorem linesOf_source (plain : t.Plain) : linesOf t.source = t.lines ++ [""] := by
  rw [source_eq, linesOf_ended plain.lines]

theorem callsIn_source (plain : t.Plain) : callsIn t.source =
    .new t.id t.name t.version ::
      ((executableTexts t.up).map .up ++ (executableTexts t.down).map .down) := by
  have closing : ["    )", "\x7d"].filterMap ofLine? = [] := by decide
  have last : [""].filterMap ofLine? = [] := by decide
  rw [callsIn, linesOf_source plain, lines, List.filterMap_append, List.filterMap_append,
    filterMap_openingLines, List.nil_append, List.filterMap_cons_some t.ofLine?_newText,
    List.filterMap_append, List.filterMap_append, filterMap_callText ofLine?_up,
    filterMap_callText ofLine?_down, closing, last, List.append_nil, List.append_nil]

/-- The calls in the source of a unit say what its template says: they make the unit under its id,
name and version and give it the texts of its executable statements, the way up first. -/
theorem source_readBack (plain : t.Plain) :
    callsIn t.source = .new t.id t.name t.version ::
        ((executableTexts t.up).map .up ++ (executableTexts t.down).map .down) ∧
      SourceUnit.read? t.source = some
        { id := t.id, name := t.name, version := t.version
          up := executableTexts t.up, down := executableTexts t.down } := by
  have calls := callsIn_source plain
  have ups (texts : List String) : (texts.map SourceCall.up).filterMap upText? = texts := by
    rw [List.filterMap_map]
    exact List.filterMap_some
  have downs (texts : List String) : (texts.map SourceCall.down).filterMap downText? = texts := by
    rw [List.filterMap_map]
    exact List.filterMap_some
  have noDowns (texts : List String) : (texts.map SourceCall.up).filterMap downText? = [] := by
    rw [List.filterMap_map]
    exact List.filterMap_none texts
  have noUps (texts : List String) : (texts.map SourceCall.down).filterMap upText? = [] := by
    rw [List.filterMap_map]
    exact List.filterMap_none texts
  refine ⟨calls, ?_⟩
  rw [SourceUnit.read?, calls]
  simp only [List.filterMap_append, ups, downs, noUps, noDowns, List.append_nil, List.nil_append]

end UnitTemplate

/-- Quotes, backslashes, line breaks and a character that does not show stand in its texts, and
one of its statements is a comment. -/
def deskTemplate : UnitTemplate :=
  { id := 20240501102030
    name := "who's \"there\"?"
    version := "1.0\\beta"
    up := [
      { kind := .createTable, table := some "desk",
        sql := "CREATE TABLE \"desk\" (\n\t\"id\" bigint\r\n) -- \u200b\x00" },
      .unsupported (some "desk") "SQLite cannot modify column \"id\""]
    down := [
      { kind := .dropTable, table := some "desk", sql := "// .up(\"\\n\")\nDROP TABLE \"desk\"" }] }

def deskUnit : SourceUnit :=
  { id := 20240501102030
    name := "who's \"there\"?"
    version := "1.0\\beta"
    up := ["CREATE TABLE \"desk\" (\n\t\"id\" bigint\r\n) -- \u200b\x00"]
    down := ["// .up(\"\\n\")\nDROP TABLE \"desk\""] }

theorem desk_readBack :
    deskTemplate.Plain ∧
      callsIn deskTemplate.source =
        .new deskUnit.id deskUnit.name deskUnit.version ::
          (deskUnit.up.map .up ++ deskUnit.down.map .down) ∧
      SourceUnit.read? deskTemplate.source = some deskUnit := by
  have plain : deskTemplate.Plain := ⟨by decide, by decide, by decide⟩
  exact ⟨plain, UnitTemplate.source_readBack plain⟩

end SchemaShift.Output
