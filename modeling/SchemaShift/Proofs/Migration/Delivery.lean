import SchemaShift.Proofs.Migration.Books

/-!
# Which texts of a unit are run

An engine that notes what it is handed sees every text of a unit but those that open with a
comment. Such a text is passed over whole, with whatever follows the comment on later lines.
-/

namespace SchemaShift

open Text Store Books

/-! ### Texts and their lines -/

def isSqlLine (line : List Char) : Bool :=
  let rest := stripStart line
  !rest.isEmpty && !(['-', '-'].isPrefixOf rest)

/-- The text has a line that is neither blank nor a comment. -/
def carriesSql (sql : String) : Bool :=
  (splitOn '\n' sql.toList).any isSqlLine

def Delivered (texts sent : List String) : Prop :=
  ∀ sql ∈ texts, carriesSql sql = true → sql ∈ sent

def Uncommented (texts : List String) : Prop :=
  ∀ sql ∈ texts, carriesSql sql = true → opensWithComment sql = false

/-! ### An engine that takes notes -/

/-- The engine, with the texts that it is handed noted in their order. -/
def logging {σ : Type} (engine : Engine σ) : Engine (σ × List String) := fun s sql =>
  ((engine s.1 sql).1, (engine s.1 sql).2, s.2 ++ [sql])

section Engine

variable {σ : Type} (engine : Engine σ)

theorem sendSql_comment {sql : String} (comment : opensWithComment sql = true) (s : σ) :
    sendSql engine sql s = (.ok (), s) := by
  rw [sendSql, if_pos comment]

theorem sendSql_logging {sql : String} (text : opensWithComment sql = false) (s : σ)
    (log : List String) :
    sendSql (logging engine) sql (s, log) =
      ((sendSql engine sql s).1, (sendSql engine sql s).2, log ++ [sql]) := by
  unfold sendSql
  rw [text]
  rfl

/-- Taking notes changes nothing about a run, and a run that succeeds has handed over each text
that does not open with a comment. -/
theorem sendAll_logging (texts : List String) {s t : σ} (log : List String)
    (ran : sendAll engine texts s = (.ok (), t)) :
    sendAll (logging engine) texts (s, log) =
      (.ok (), t, log ++ texts.filter fun sql => !opensWithComment sql) := by
  induction texts generalizing s log with
  | nil =>
    cases ran
    simp [sendAll]
  | cons sql texts ih =>
    rw [sendAll] at ran ⊢
    cases comment : opensWithComment sql with
    | true =>
      rw [sendSql_comment engine comment] at ran
      rw [sendSql_comment _ comment]
      simpa [comment] using ih log ran
    | false =>
      rw [sendSql_logging engine comment]
      rcases sent : sendSql engine sql s with ⟨e | u, m⟩
      · rw [sent] at ran
        cases ran
      · rw [sent] at ran
        simpa [comment] using ih (log ++ [sql]) ran

end Engine

theorem delivered_iff (texts : List String) :
    Delivered texts (texts.filter fun sql => !opensWithComment sql) ↔ Uncommented texts := by
  refine forall₃_congr fun sql member carries => ?_
  simp [member]

/-! ### Units of SQL texts -/

def directed (up down : List String) : Direction → List String
  | .up => up
  | .down => down

theorem Store.Prepares.of_ensured {db : Database} {s t : Session}
    (ensured : History.ensure db s = (.ok (), t)) : s.store.Prepares t.store := by
  have left := (History.ensure_leaves db s).2
  rw [ensured] at left
  rcases left with same | made
  · exact same ▸ .refl s.store
  · exact made ▸ prepares_creation db.driver.dialect s.store

theorem ofSql_action (id : UInt64) (name version : String) (up down : List String)
    (d : Direction) :
    (MigrationUnit.ofSql id name version up down).action d =
      sendAll Store.execute (directed up down d) := by
  cases d <;> rfl

namespace Runner

/-- When an action of a unit succeeds, the store was handed the texts that do not open with a
comment. So nothing of its SQL is lost exactly if no text with SQL opens with a comment, and the
same goes for the action of a unit that a batch counts as applied. -/
theorem unit_delivers_iff (id : UInt64) (name version : String) (up down : List String)
    (d : Direction) :
    (∀ s t, (MigrationUnit.ofSql id name version up down).action d s = (.ok (), t) →
      ∃ sent, sendAll (logging Store.execute) (directed up down d) (s, []) = (.ok (), t, sent) ∧
        (Delivered (directed up down d) sent ↔ Uncommented (directed up down d))) ∧
    (∀ db s t, turn db d (.ofSql id name version up down) s = (.ok .applied, t) →
      ∃ before after sent, s.store.Prepares before ∧
        sendAll (logging Store.execute) (directed up down d) (before, []) =
          (.ok (), after, sent) ∧
        (Delivered (directed up down d) sent ↔ Uncommented (directed up down d))) := by
  have delivers : ∀ s t, sendAll Store.execute (directed up down d) s = (.ok (), t) →
      ∃ sent, sendAll (logging Store.execute) (directed up down d) (s, []) = (.ok (), t, sent) ∧
        (Delivered (directed up down d) sent ↔ Uncommented (directed up down d)) := by
    intro s t ran
    exact ⟨_, sendAll_logging _ _ [] ran, delivered_iff _⟩
  constructor
  · intro s t ran
    rw [ofSql_action] at ran
    exact delivers s t ran
  · intro db s t turned
    have went := turn_cases db d (.ofSql id name version up down) s
    rw [turned] at went
    generalize outcome : (Except.ok Turn.applied, t) = result at went
    cases went with
    | stopped prepared => cases outcome
    | skipped asked => cases outcome
    | failed asked ran => cases outcome
    | @applied m asked ran =>
      rw [ofSql_action] at ran
      obtain ⟨sent, logged, same⟩ := delivers m.store _ (Prod.ext ran rfl)
      exact ⟨m.store, _, sent, .of_ensured asked.ensured, logged, same⟩

theorem ran_of_toOption {ε α σ : Type} {r : Except ε α × σ} {a : α}
    (some : r.1.toOption = some a) : ∃ t, r = (.ok a, t) := by
  obtain ⟨result, t⟩ := r
  cases result with
  | error e => cases some
  | ok b =>
    cases some
    exact ⟨t, rfl⟩

def usersText : String := "CREATE TABLE users (id INTEGER PRIMARY KEY)"

def commentedText : String := "-- the users\nCREATE TABLE users (id INTEGER PRIMARY KEY)"

def usersUnit (text : String) : MigrationUnit :=
  .ofSql 1 "users" "0.1.0" [text] ["DROP TABLE users"]

def booksStart : Session :=
  .start (.withLedger { rows := [], lastId := 0 })

theorem users_delivered : ∃ before after sent,
    (turn sqliteMain .up (usersUnit usersText) booksStart).1.toOption = some .applied ∧
      sendAll (logging Store.execute) [usersText] (before, []) = (.ok (), after, sent) ∧
      Delivered [usersText] sent := by
  have applied : (turn sqliteMain .up (usersUnit usersText) booksStart).1.toOption =
      some .applied := by
    decide +kernel
  obtain ⟨t, ran⟩ := ran_of_toOption applied
  obtain ⟨before, after, sent, -, logged, same⟩ :=
    (unit_delivers_iff 1 "users" "0.1.0" [usersText] ["DROP TABLE users"] .up).2 sqliteMain
      booksStart t ran
  have texts : directed [usersText] ["DROP TABLE users"] .up = [usersText] := rfl
  rw [texts] at logged same
  have uncommented : Uncommented [usersText] := by
    intro sql member _
    rw [List.mem_singleton.1 member]
    decide +kernel
  exact ⟨before, after, sent, applied, logged, same.2 uncommented⟩

/-- A statement below a comment is lost, and its unit is recorded all the same. -/
theorem commented_text_lost :
    carriesSql commentedText = true ∧
      sendAll (logging Store.execute) [commentedText] (booksStart.store, []) =
        (.ok (), booksStart.store, []) ∧
      (turn sqliteMain .up (usersUnit commentedText) booksStart).1.toOption = some .applied ∧
      (journal (turn sqliteMain .up (usersUnit commentedText) booksStart).2.store).recorded 1 =
        true ∧
      (turn sqliteMain .up (usersUnit commentedText) booksStart).2.store.hasTable "users" =
        false := by
  have comment : opensWithComment commentedText = true := by decide +kernel
  refine ⟨by decide +kernel, ?_, by decide +kernel, by decide +kernel, by decide +kernel⟩
  rw [sendAll, sendSql_comment _ comment]
  rfl

end Runner

end SchemaShift
