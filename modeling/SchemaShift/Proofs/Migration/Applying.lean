import SchemaShift.Migration.SchemaDiff
import SchemaShift.Proofs.Ddl.Openings
import SchemaShift.Proofs.Migration.Delivery

/-!
# A diff applied and a diff run as a unit

A diff is applied statement by statement, and comments are told by their kind. A migration unit runs
texts, and comments are told by how they begin. Over what a dialect emits the two make the same
calls of the engine, up to the same refusal, and it does not matter whether the unit has the
comments.
-/

namespace SchemaShift

open Text

/-! ### Statements and an engine -/

/-- The texts of the statements that are meant to be run. -/
def executableTexts (statements : List Statement) : List String :=
  (statements.filter Statement.isExecutable).map (·.sql)

theorem executableTexts_comment {s : Statement} (comment : s.isExecutable = false)
    (rest : List Statement) : executableTexts (s :: rest) = executableTexts rest := by
  rw [executableTexts, List.filter_cons_of_neg (by simp [comment])]
  rfl

theorem executableTexts_order {s : Statement} (executable : s.isExecutable = true)
    (rest : List Statement) : executableTexts (s :: rest) = s.sql :: executableTexts rest := by
  rw [executableTexts, List.filter_cons_of_pos executable]
  rfl

section Engine

variable {σ : Type} (engine : Engine σ)

/-- How a run over `texts` ends: all of them are sent, or the last one sent is refused. -/
inductive Sends (s : σ) (texts : List String) : Except MigrationError Unit → σ → List String → Prop
  | all {t : σ} (ran : sendAll engine texts s = (.ok (), t)) : Sends s texts (.ok ()) t texts
  | refused {before after : List String} {sql : String} {m t : σ} {e : Store.StoreError}
      (split : texts = before ++ sql :: after) (ran : sendAll engine before s = (.ok (), m))
      (stop : engine m sql = (.error e, t)) :
      Sends s texts (.error (.database (.refused e))) t (before ++ [sql])

end Engine

/-! ### One step -/

section Engine

variable {σ : Type} {engine : Engine σ} {s t : σ}

theorem sendAll_comment {sql : String} (comment : opensWithComment sql = true)
    (rest : List String) : sendAll engine (sql :: rest) s = sendAll engine rest s := by
  rw [sendAll, sendSql_comment engine comment]

theorem sendAll_refused {sql : String} (text : opensWithComment sql = false)
    {e : Store.StoreError} (stop : engine s sql = (.error e, t)) (rest : List String) :
    sendAll engine (sql :: rest) s = (.error (.database (.refused e)), t) := by
  rw [sendAll, sendSql, text, stop]
  rfl

theorem sendAll_accepted {sql : String} (text : opensWithComment sql = false)
    (accepted : engine s sql = (.ok (), t)) (rest : List String) :
    sendAll engine (sql :: rest) s = sendAll engine rest t := by
  rw [sendAll, sendSql, text, accepted]
  rfl

/-! ### Whole runs -/

/-- Comments among the texts make no difference. -/
theorem sendAll_filter (texts : List String) (s : σ) :
    sendAll engine texts s = sendAll engine (texts.filter fun sql => !opensWithComment sql) s := by
  induction texts generalizing s with
  | nil => rfl
  | cons sql texts ih =>
    cases comment : opensWithComment sql with
    | true =>
      rw [sendAll_comment comment, List.filter_cons_of_neg (by simp [comment])]
      exact ih s
    | false =>
      rw [List.filter_cons_of_pos (by simp [comment])]
      rcases result : engine s sql with ⟨e | u, t⟩
      · rw [sendAll_refused comment result, sendAll_refused comment result]
      · rw [sendAll_accepted comment result, sendAll_accepted comment result]
        exact ih t

/-- Applying statements is sending the texts of those to be run, and counting them. -/
theorem applyWith_eq {statements : List Statement} (opened : ∀ st ∈ statements, st.Opened) (s : σ) :
    applyWith engine s statements =
      ((sendAll engine (executableTexts statements) s).1.map fun _ =>
          (executableTexts statements).length,
        (sendAll engine (executableTexts statements) s).2) := by
  induction statements generalizing s with
  | nil => rfl
  | cons statement rest ih =>
    obtain ⟨first, others⟩ := List.forall_mem_cons.1 opened
    have told := first.opensWithComment
    cases executable : statement.isExecutable with
    | false => rw [executableTexts_comment executable, applyWith_comment executable, ih others]
    | true =>
      rw [executable] at told
      rw [executableTexts_order executable]
      rcases result : engine s statement.sql with ⟨e | u, t⟩
      · rw [applyWith_refused executable result, sendAll_refused told result]
        rfl
      · rw [applyWith_accepted executable result, sendAll_accepted told result, ih others]
        rcases sendAll engine (executableTexts rest) t with ⟨e | u, m⟩
        · rfl
        · rfl

theorem Sends.step {sql : String} {texts sent : List String} {m t : σ}
    {outcome : Except MigrationError Unit} (text : opensWithComment sql = false)
    (accepted : engine s sql = (.ok (), m)) (rest : Sends engine m texts outcome t sent) :
    Sends engine s (sql :: texts) outcome t (sql :: sent) := by
  cases rest with
  | all ran => exact .all ((sendAll_accepted text accepted texts).trans ran)
  | @refused before after last _ _ e split ran stop =>
    have longer : sql :: texts = (sql :: before) ++ last :: after := congrArg _ split
    exact .refused longer ((sendAll_accepted text accepted before).trans ran) stop

/-- An engine that takes notes runs the same, and what it has noted is what was sent. -/
theorem sends_logging (engine : Engine σ) {texts : List String}
    (plain : ∀ sql ∈ texts, opensWithComment sql = false) (s : σ) (log : List String) :
    ∃ outcome t sent, sendAll engine texts s = (outcome, t) ∧
      sendAll (logging engine) texts (s, log) = (outcome, t, log ++ sent) ∧
      Sends engine s texts outcome t sent := by
  induction texts generalizing s log with
  | nil => exact ⟨.ok (), s, [], rfl, by simp [sendAll], .all rfl⟩
  | cons sql texts ih =>
    obtain ⟨text, others⟩ := List.forall_mem_cons.1 plain
    rcases result : engine s sql with ⟨e | u, m⟩
    · have noted : logging engine (s, log) sql = (.error e, m, log ++ [sql]) := by
        rw [logging, result]
      exact ⟨_, m, [sql], sendAll_refused text result texts, sendAll_refused text noted texts,
        .refused (List.nil_append _).symm rfl result⟩
    · have noted : logging engine (s, log) sql = (.ok (), m, log ++ [sql]) := by
        rw [logging, result]
      obtain ⟨outcome, t, sent, ran, logged, sends⟩ := ih others m (log ++ [sql])
      refine ⟨outcome, t, sql :: sent, ?_, ?_, sends.step text result⟩
      · exact (sendAll_accepted text result texts).trans ran
      · rw [sendAll_accepted text noted, logged]
        simp

/-- The three ways to run statements hand the engine the same texts, `sent`, and come to the same
end: the statements are applied, all their texts are sent, or those to be run are. -/
structure SameCalls (engine : Engine σ) (s : σ) (statements : List Statement)
    (outcome : Except MigrationError Unit) (t : σ) (sent : List String) : Prop where
  applied : applyWith (logging engine) (s, []) statements =
    (outcome.map fun _ => (executableTexts statements).length, t, sent)
  whole : sendAll (logging engine) (statements.map (·.sql)) (s, []) = (outcome, t, sent)
  only : sendAll (logging engine) (executableTexts statements) (s, []) = (outcome, t, sent)
  sends : Sends engine s (executableTexts statements) outcome t sent

/-- Passing over comments by their text leaves the statements that are not comments by kind. -/
theorem filter_texts {statements : List Statement} (opened : ∀ st ∈ statements, st.Opened) :
    ((statements.map (·.sql)).filter fun sql => !opensWithComment sql) =
      executableTexts statements := by
  rw [executableTexts, List.filter_map]
  refine congrArg _ (List.filter_congr fun st listed => ?_)
  simp [(opened st listed).opensWithComment]

theorem executableTexts_plain {statements : List Statement}
    (opened : ∀ st ∈ statements, st.Opened) :
    ∀ sql ∈ executableTexts statements, opensWithComment sql = false := by
  intro sql listed
  rw [← filter_texts opened] at listed
  simpa using (List.mem_filter.1 listed).2

/-- The engine need not be one that takes notes. -/
theorem sameCalls (engine : Engine σ) {statements : List Statement}
    (opened : ∀ st ∈ statements, st.Opened) (s : σ) :
    ∃ outcome t sent, SameCalls engine s statements outcome t sent ∧
      applyWith engine s statements =
        (outcome.map fun _ => (executableTexts statements).length, t) ∧
      sendAll engine (statements.map (·.sql)) s = (outcome, t) ∧
      sendAll engine (executableTexts statements) s = (outcome, t) := by
  obtain ⟨outcome, t, sent, ran, logged, sends⟩ :=
    sends_logging engine (executableTexts_plain opened) s []
  rw [List.nil_append] at logged
  refine ⟨outcome, t, sent, { applied := ?_, whole := ?_, only := logged, sends }, ?_, ?_, ran⟩
  · rw [applyWith_eq opened, logged]
  · rw [sendAll_filter, filter_texts opened, logged]
  · rw [applyWith_eq opened, ran]
  · rw [sendAll_filter, filter_texts opened, ran]

end Engine

/-! ### Statements of a dialect -/

namespace Dialect

/-- Of two units one has all texts that the changes come to and one has only those to be run. A
store that the statements are applied to ends as with either unit, and the same calls are made, with
a store as with any other engine. -/
theorem applied_as_unit (d : Dialect) (changes : List SchemaChange) {direction : Direction}
    {up down up' down' : List String}
    (whole : directed up down direction = (d.emitAll changes).map (·.sql))
    (only : directed up' down' direction = executableTexts (d.emitAll changes))
    (id : UInt64) (name version : String) :
    (∀ s : Store, ∃ outcome t sent,
      applyStatements s (d.emitAll changes) =
          (outcome.map fun _ => (executableTexts (d.emitAll changes)).length, t) ∧
        (MigrationUnit.ofSql id name version up down).action direction s = (outcome, t) ∧
        (MigrationUnit.ofSql id name version up' down').action direction s = (outcome, t) ∧
        SameCalls Store.execute s (d.emitAll changes) outcome t sent) ∧
    ∀ {σ : Type} (engine : Engine σ) (s : σ), ∃ outcome t sent,
      SameCalls engine s (d.emitAll changes) outcome t sent := by
  have opened := d.opened_emitAll changes
  constructor
  · intro s
    obtain ⟨outcome, t, sent, same, applied, all, run⟩ := sameCalls Store.execute opened s
    refine ⟨outcome, t, sent, ?_, ?_, ?_, same⟩
    · rw [applyStatements, applied]
    · rw [ofSql_action, whole, all]
    · rw [ofSql_action, only, run]
  · intro σ engine s
    obtain ⟨outcome, t, sent, same, -⟩ := sameCalls engine opened s
    exact ⟨outcome, t, sent, same⟩

/-- After a comment a table is made, made again, which is refused, and dropped. -/
def usersTwice : List SchemaChange :=
  let users := (Table.named "users").addColumn (.ofType "id" "integer")
  [.alterSchema "main" { charset := "", collation := "" }, .createTable users, .createTable users,
    .dropTable users]

theorem users_applied_as_unit :
    let statements := sqlite.emitAll usersTwice
    let start := Store.fresh "2024-01-01 00:00:00"
    ∃ outcome t sent,
      applyStatements start statements = (outcome.map fun _ => 3, t) ∧
        (MigrationUnit.ofSql 1 "users" "0.1.0" (statements.map (·.sql)) []).action .up start =
          (outcome, t) ∧
        (MigrationUnit.ofSql 1 "users" "0.1.0" (executableTexts statements) []).action .up start =
          (outcome, t) ∧
        outcome.toOption = none ∧
        sent = ["CREATE TABLE \"users\" (\"id\" integer)",
          "CREATE TABLE \"users\" (\"id\" integer)"] ∧
        SameCalls Store.execute start statements outcome t sent := by
  have whole : directed ((sqlite.emitAll usersTwice).map (·.sql)) [] .up =
      (sqlite.emitAll usersTwice).map (·.sql) := rfl
  have only : directed (executableTexts (sqlite.emitAll usersTwice)) [] .up =
      executableTexts (sqlite.emitAll usersTwice) := rfl
  obtain ⟨outcome, t, sent, applied, all, run, same⟩ :=
    (applied_as_unit .sqlite usersTwice whole only 1 "users" "0.1.0").1
      (Store.fresh "2024-01-01 00:00:00")
  refine ⟨outcome, t, sent, applied, all, run, ?_, ?_, same⟩
  · have refused : (sendAll (logging Store.execute) (executableTexts (sqlite.emitAll usersTwice))
        (Store.fresh "2024-01-01 00:00:00", [])).1.toOption = none := by decide +kernel
    rwa [same.only] at refused
  · have noted : (sendAll (logging Store.execute) (executableTexts (sqlite.emitAll usersTwice))
        (Store.fresh "2024-01-01 00:00:00", [])).2.2 =
          ["CREATE TABLE \"users\" (\"id\" integer)",
            "CREATE TABLE \"users\" (\"id\" integer)"] := by decide +kernel
    rwa [same.only] at noted

end Dialect

end SchemaShift
