import SchemaShift.Proofs.Store.Citation
import SchemaShift.Proofs.Store.Seams

/-!
# Where tables come from

What a store keeps as the text of a table is cited from statements that ran: from the one that
created the table, and from those that added columns to it. So a word is in the text exactly if it
is in one of the tokens that are cited or in a gap between two of them.
-/

namespace SchemaShift

open Text

namespace Store

open Token

/-! ### Names of drafts -/

namespace Draft

variable {d : Draft}

theorem addKey_name (d : Draft) (isPrimary : Bool) (members : List Member)
    (onConflict : Option Conflict) :
    Ensures (d.addKey isPrimary members onConflict) fun e => e.name = d.name := by
  unfold addKey
  split
  · exact ensures_error
  · exact ensures_bind fun _ => ensures_bind fun _ => ensures_ok rfl

theorem markKey_name (d : Draft) (name : String) :
    Ensures (d.markKey name) fun e => e.name = d.name := by
  unfold markKey
  split
  · exact ensures_ok rfl
  · exact .either ensures_error (ensures_ok rfl)

theorem addPrimaryKey_name (d : Draft) (members : List Member) (descending : Bool)
    (onConflict : Option Conflict) (counting : Bool) :
    Ensures (d.addPrimaryKey members descending onConflict counting) fun e => e.name = d.name := by
  have finished (row : Option String) (columns : List DraftColumn) :
      Ensures (do
        let d ← columns.foldlM (fun d c => d.markKey c.name) { d with hasKey := true }
        if row.isSome then return { d with rowNumber? := row, counting }
        else d.addKey true members onConflict) fun e => e.name = d.name := by
    have marked : Ensures
        (columns.foldlM (fun d c => d.markKey c.name) { d with hasKey := true })
        fun e => e.name = d.name :=
      .foldlM rfl fun e same c _ f marks => (markKey_name e c.name f marks).trans same
    refine marked.bind fun e same => .either (ensures_ok same) fun f adds => ?_
    exact (addKey_name e true members onConflict f adds).trans same
  unfold addPrimaryKey
  refine .either ensures_error (.either ?_ (.either ensures_error (finished _ _)))
  split
  · exact ensures_error
  · exact finished _ _

theorem add_name (d : Draft) (c : Clause) : Ensures (d.add c) fun e => e.name = d.name := by
  cases c with
  | column name type => exact .either ensures_error (ensures_ok rfl)
  | default text value => exact .either ensures_error (.either ensures_error (ensures_ok rfl))
  | notNull => exact ensures_ok rfl
  | collation name => exact .either ensures_error (ensures_ok rfl)
  | generated e kind => exact .either ensures_error (.either ensures_error (ensures_ok rfl))
  | columnKey descending onConflict counting => exact addPrimaryKey_name d _ _ _ _
  | columnUnique onConflict => exact addKey_name d false [d.lastMember] onConflict
  | reference table count => exact .either (ensures_ok rfl) ensures_error
  | key listed onConflict counting => exact addPrimaryKey_name d _ _ _ _
  | unique listed onConflict => exact addKey_name d _ _ _
  | foreignKey columns count =>
    refine .either ensures_error ?_
    split
    · exact ensures_error
    · exact ensures_ok rfl
  | check e => exact ensures_ok rfl
  | idle => exact ensures_ok rfl

theorem addAll_name (d : Draft) (clauses : List Clause) :
    Ensures (d.addAll clauses) fun e => e.name = d.name :=
  .foldlM rfl fun e same c _ f adds => (add_name e c f adds).trans same

theorem addOptions_name (d : Draft) (options : List TableOption) :
    Ensures (d.addOptions options) fun e => e.name = d.name := by
  refine .foldlM rfl fun e same option _ => ?_
  cases option with
  | strict =>
    unfold addOption
    dsimp only
    split
    · exact ensures_error
    · exact ensures_ok same
  | withoutRowNumbers => exact .either ensures_error (.either ensures_error (ensures_ok same))

end Draft

/-! ### Declarations -/

/-- What is written about a table: its definition, the tokens that the text of the definition
cites, and the tokens of each column that was added later. -/
structure Declaration where
  definition : Definition
  first : List Token
  added : List (List Token)

namespace Declaration

/-- The runs of tokens that the text of the table cites. -/
def runs (d : Declaration) : List (List Token) :=
  d.first :: d.added

/-- The word stands in a cited token or in a gap, in any letter case. -/
def Mentions (d : Declaration) (word : String) : Prop :=
  ∃ run ∈ d.runs, ∃ piece ∈ (pieces run).tail, Occurs word piece

end Declaration

/-- The statement is one of those in the texts. -/
def Stated (sqls : List String) (ts : List Token) : Prop :=
  ∃ sql ∈ sqls, ts ∈ statements (trim sql)

/-- A statement of the texts created the table with this definition, and the other runs stand in
statements of the texts too. -/
structure CatalogTable.DeclaredBy (t : CatalogTable) (d : Declaration) (sqls : List String) :
    Prop where
  created : ∃ ts target unlessThere, Stated sqls ts ∧
    Command.ofTokens ts = .ok (.createTable target unlessThere d.definition) ∧
    target.text = t.name ∧ d.first <:+: ts
  sound : d.definition.fault = none
  cited : d.definition.text = cite d.first
  extended : ∀ run ∈ d.added, ∃ ts, Stated sqls ts ∧ run <:+: ts
  text : t.definition = join ", " (d.runs.map cite)

namespace CatalogTable.DeclaredBy

variable {t : CatalogTable} {d : Declaration} {sqls : List String} {word : String}

/-- The cited runs stand in statements, where no word goes on from one piece to the next. -/
theorem occurs_cite_iff (declared : t.DeclaredBy d sqls) (lettered : Lettered word)
    {run : List Token} (member : run ∈ d.runs) :
    Occurs word (cite run).toList ↔ ∃ piece ∈ (pieces run).tail, Occurs word piece := by
  have stands : ∃ ts, Stated sqls ts ∧ run <:+: ts := by
    rcases List.mem_cons.1 member with rfl | later
    · obtain ⟨ts, _, _, stated, _, _, within⟩ := declared.created
      exact ⟨ts, stated, within⟩
    · exact declared.extended run later
  obtain ⟨ts, ⟨sql, _, statement⟩, within⟩ := stands
  rw [toList_cite]
  exact lettered.occurs_flatten_iff (seamed_of_statement statement within).tail

/-- Nothing is in the text of a table but what is in the pieces that it is made of. -/
theorem occurs_iff (declared : t.DeclaredBy d sqls) (lettered : Lettered word) :
    Occurs word t.definition.toList ↔ d.Mentions word := by
  have parts : Occurs word t.definition.toList ↔ ∃ s ∈ d.runs.map cite, Occurs word s.toList := by
    rw [declared.text]
    have plain : ", ".toList.any Char.isAlpha = false := by decide
    exact lettered.occurs_join_iff (by decide)
      (fun c member => Bool.eq_false_iff.2 (List.any_eq_false.1 plain c member)) _ _
  rw [parts, Declaration.Mentions]
  constructor
  · rintro ⟨_, member, occurs⟩
    obtain ⟨run, cited, rfl⟩ := List.mem_map.1 member
    exact ⟨run, cited, (declared.occurs_cite_iff lettered cited).1 occurs⟩
  · rintro ⟨run, cited, mentioned⟩
    refine ⟨cite run, List.mem_map_of_mem cited, ?_⟩
    exact (declared.occurs_cite_iff lettered cited).2 mentioned

/-- The indexes of a table are no part of its text. -/
theorem of_text {u : CatalogTable} (declared : t.DeclaredBy d sqls) (name : u.name = t.name)
    (definition : u.definition = t.definition) : u.DeclaredBy d sqls where
  created := name ▸ declared.created
  sound := declared.sound
  cited := declared.cited
  extended := declared.extended
  text := definition.trans declared.text

theorem extend {u : CatalogTable} (declared : t.DeclaredBy d sqls) {ts run : List Token}
    (stated : Stated sqls ts) (within : run <:+: ts) (name : u.name = t.name)
    (definition : u.definition = t.definition ++ ", " ++ cite run) :
    u.DeclaredBy { d with added := d.added ++ [run] } sqls where
  created := name ▸ declared.created
  sound := declared.sound
  cited := declared.cited
  extended := by
    intro other member
    rcases List.mem_append.1 member with before | last
    · exact declared.extended other before
    · rw [List.mem_singleton.1 last]
      exact ⟨ts, stated, within⟩
  text := by
    have longer := join_concat ", " (cite d.first) (cite run) (d.added.map cite)
    rw [definition, declared.text, Declaration.runs, Declaration.runs, List.map_cons,
      List.map_cons, List.map_append, List.map_singleton, longer]

end CatalogTable.DeclaredBy

theorem exists_declaredBy {sqls : List String} {ts : List Token} (stated : Stated sqls ts)
    {target : Target} {unlessThere : Bool} {definition : Definition}
    (read : Command.ofTokens ts = .ok (.createTable target unlessThere definition))
    (sound : definition.fault = none) {t : CatalogTable} (named : target.text = t.name)
    (text : t.definition = definition.text) : ∃ d, t.DeclaredBy d sqls := by
  obtain ⟨run, within, cited, -⟩ := ofTokens_cites ts _ read sound
  refine ⟨{ definition, first := run, added := [] }, ?_, sound, cited, ?_, text.trans cited⟩
  · exact ⟨ts, target, unlessThere, stated, read, named, within⟩
  · intro run member
    cases member

/-! ### Running statements -/

/-- All tables are declared in the texts. -/
def AllDeclared (s : Store) (sqls : List String) : Prop :=
  ∀ t ∈ s.tables, ∃ d, t.DeclaredBy d sqls

/-- What would declare the table that counts row numbers. -/
def sequenceStatement : String :=
  "CREATE TABLE sqlite_sequence(name,seq)"

theorem sequenceTable_declared {sqls : List String} (among : sequenceStatement ∈ sqls) :
    ∃ d, sequenceTable.DeclaredBy d sqls := by
  have stated : Stated sqls (tokens sequenceStatement) :=
    ⟨sequenceStatement, among, by decide +kernel⟩
  have read : Command.ofTokens (tokens sequenceStatement) =
      .ok (.createTable
        { schema := none
          name := { kind := .word, gap := [' '], text := "sqlite_sequence".toList } }
        false
        { text := "sqlite_sequence(name,seq)"
          clauses := [.column "name" "", .idle, .column "seq" ""]
          options := []
          fault := none }) := by
    decide +kernel
  exact exists_declaredBy stated read rfl rfl rfl

variable {s : Store} {sqls : List String} {ts : List Token}

theorem AllDeclared.addTable (declared : s.AllDeclared sqls) (among : sequenceStatement ∈ sqls)
    {d : Draft} {definition : String} (new : ∃ e, (d.table definition).DeclaredBy e sqls) :
    (s.addTable d definition).AllDeclared sqls := by
  refine List.forall_mem_append.2 ⟨List.forall_mem_append.2 ⟨declared, ?_⟩, ?_⟩
  · exact List.forall_mem_singleton.2 new
  · split
    · exact List.forall_mem_singleton.2 (sequenceTable_declared among)
    · exact List.forall_mem_nil _

theorem AllDeclared.updateTable (declared : s.AllDeclared sqls) {name : String}
    {f : CatalogTable → CatalogTable}
    (keeps : ∀ t d, t.DeclaredBy d sqls → ∃ e, (f t).DeclaredBy e sqls) :
    (s.updateTable name f).AllDeclared sqls := by
  intro t listed
  obtain ⟨old, held, rfl⟩ := List.mem_map.1 listed
  obtain ⟨d, known⟩ := declared old held
  split
  · exact keeps old d known
  · exact ⟨d, known⟩

theorem createTable_declared (declared : s.AllDeclared sqls) (among : sequenceStatement ∈ sqls)
    (stated : Stated sqls ts) {target : Target} {unlessThere : Bool} {definition : Definition}
    (read : Command.ofTokens ts = .ok (.createTable target unlessThere definition)) :
    Ensures (s.createTable target unlessThere definition) (AllDeclared · sqls) := by
  unfold createTable
  refine ensures_bind fun _ => .either ensures_error (.either ?_ (.either ensures_error ?_))
  · exact .either ensures_error (ensures_bind fun _ => ensures_ok declared)
  · have sound : Ensures ((definition.fault.map Except.error).getD (.ok ()))
        fun _ : Unit => definition.fault = none := by
      cases definition.fault with
      | none => exact ensures_ok rfl
      | some e => exact ensures_error
    refine (Draft.addAll_name (.empty target.text) definition.clauses).bind fun d named => ?_
    refine sound.bind fun _ sound => ?_
    refine (Draft.addOptions_name d definition.options).bind fun e same => ?_
    refine ensures_bind fun _ => ensures_ok (declared.addTable among ?_)
    exact exists_declaredBy stated read sound (same.trans named).symm rfl

theorem dropTable_declared (declared : s.AllDeclared sqls) (target : Target) (ifThere : Bool) :
    Ensures (s.dropTable target ifThere) (AllDeclared · sqls) := by
  unfold dropTable
  split
  · exact .either (ensures_ok declared) ensures_error
  · refine .either ensures_error (ensures_ok fun t listed => ?_)
    exact declared t (List.mem_of_mem_filter listed)

theorem addColumn_declared (declared : s.AllDeclared sqls) (stated : Stated sqls ts)
    {target : Target} {definition : Definition}
    (read : Command.ofTokens ts = .ok (.addColumn target definition)) :
    Ensures (s.addColumn target definition) (AllDeclared · sqls) := by
  unfold addColumn
  split
  · exact ensures_error
  · refine .either ensures_error (ensures_bind fun _ => ensures_bind fun d => ?_)
    split
    · exact ensures_error
    · rename_i sound
      obtain ⟨run, within, text, -⟩ := ofTokens_cites ts _ read sound
      refine .either ensures_error (.either ensures_error (ensures_ok ?_))
      refine declared.updateTable fun t d known => ?_
      exact ⟨_, known.extend stated within rfl (by rw [← text])⟩

theorem createIndex_declared (declared : s.AllDeclared sqls) (unique : Bool) (target : Target)
    (unlessThere : Bool) (table : String) (members : List Member) (condition : Option Expr) :
    Ensures (s.createIndex unique target unlessThere table members condition)
      (AllDeclared · sqls) := by
  unfold createIndex
  cases members.findSome? Member.nulls with
  | some place => exact ensures_error
  | none =>
    refine ensures_bind fun _ => ?_
    cases s.declaredName? table with
    | none => exact ensures_error
    | some name =>
      refine .either ensures_error (.either ensures_error (.either ensures_error ?_))
      split
      · exact .either (ensures_ok declared) ensures_error
      · dsimp only
        split
        · exact ensures_error
        · refine ensures_bind fun named => ensures_ok ?_
          exact declared.updateTable fun t d known => ⟨d, known.of_text rfl rfl⟩

theorem dropIndex_declared (declared : s.AllDeclared sqls) (target : Target) (ifThere : Bool) :
    Ensures (s.dropIndex target ifThere) (AllDeclared · sqls) := by
  unfold dropIndex
  split
  · exact .either (ensures_ok declared) ensures_error
  · refine .either (ensures_ok fun t listed => ?_) ensures_error
    obtain ⟨old, held, rfl⟩ := List.mem_map.1 listed
    obtain ⟨d, known⟩ := declared old held
    exact ⟨d, known.of_text rfl rfl⟩

theorem run_declared (declared : s.AllDeclared sqls) (among : sequenceStatement ∈ sqls)
    (stated : Stated sqls ts) {c : Command} (read : Command.ofTokens ts = .ok c) :
    Ensures (s.run c) (AllDeclared · sqls) := by
  cases c with
  | createTable target unlessThere definition =>
    exact createTable_declared declared among stated read
  | dropTable target ifThere => exact dropTable_declared declared target ifThere
  | createIndex unique target unlessThere table members condition =>
    exact createIndex_declared declared unique target unlessThere table members condition
  | dropIndex target ifThere => exact dropIndex_declared declared target ifThere
  | addColumn target definition => exact addColumn_declared declared stated read

theorem runAll_declared (declared : s.AllDeclared sqls) (among : sequenceStatement ∈ sqls)
    {pieces : List (List Token)} (stated : ∀ ts ∈ pieces, Stated sqls ts) :
    (s.runAll pieces).2.AllDeclared sqls := by
  induction pieces generalizing s with
  | nil => exact declared
  | cons ts rest ih =>
    obtain ⟨mine, others⟩ := List.forall_mem_cons.1 stated
    rw [runAll]
    cases read : Command.ofTokens ts with
    | error e => exact declared
    | ok c =>
      dsimp only
      cases ran : s.run c with
      | error e => exact declared
      | ok next => exact ih (run_declared declared among mine read next ran) others

theorem execute_declared (declared : s.AllDeclared sqls) (among : sequenceStatement ∈ sqls)
    {sql : String} (known : sql ∈ sqls) : (s.execute sql).2.AllDeclared sqls :=
  runAll_declared declared among fun _ statement => ⟨sql, known, statement⟩

theorem after_declared (declared : s.AllDeclared sqls) (among : sequenceStatement ∈ sqls)
    {ran : List String} (known : ∀ sql ∈ ran, sql ∈ sqls) : (s.after ran).AllDeclared sqls := by
  induction ran generalizing s with
  | nil => exact declared
  | cons sql ran ih =>
    obtain ⟨mine, others⟩ := List.forall_mem_cons.1 known
    rw [after, List.foldl_cons]
    exact ih (execute_declared declared among mine) others

/-- Every table that a store comes to have is declared in the texts that ran. -/
theorem fresh_after_declared (now : String) (sqls : List String) :
    ((fresh now).after sqls).AllDeclared (sequenceStatement :: sqls) := by
  have none : (fresh now).AllDeclared (sequenceStatement :: sqls) := by
    intro t listed
    cases listed
  exact after_declared none List.mem_cons_self fun _ => List.mem_cons_of_mem _

end Store

end SchemaShift
