import SchemaShift.Proofs.Migration.Books

/-!
# Books in order

Books that a manager made let no unit have two records, because making them is no success
otherwise. Whoever makes sure of such books, or of ones that can be made, leaves them made or
untouched, and a handle that sees them always finds or makes them.
-/

namespace SchemaShift

open Text Store Session Books Bookkeeping OrderlyBooks OrderlyBookkeeping

section Laws

variable {σ : Type} [Server σ] [OrderlyBookkeeping σ]

def OrderedBooks (s : σ) : Prop :=
  Unoccupied s ∨ MadeBooks s

theorem MadeBooks.there {s : σ} (held : MadeBooks s) : booksTable? s ≠ none := by
  obtain ⟨whole, there, -⟩ := held
  rw [there]
  exact Option.some_ne_none whole

theorem MadeBooks.own {s : σ} (held : MadeBooks s) : HasOwnBooks s := by
  obtain ⟨whole, there, is⟩ := held
  exact ⟨whole, there, own_of_whole is⟩

theorem MadeBooks.of_table {s t : σ} (held : MadeBooks s)
    (table : booksTable? t = booksTable? s) : MadeBooks t := by
  obtain ⟨whole, there, is⟩ := held
  exact ⟨whole, table.trans there, is⟩

theorem OwnBooks.ordered {s : σ} (own : OwnBooks s)
    (free : booksTable? s = none → Unoccupied s) : OrderedBooks s := by
  rcases own with ⟨absent, -⟩ | ⟨db, before, after, absent, ensured, there, same⟩
  · exact .inl (free absent)
  · rw [History.ensure_eq, if_neg (by simp [Session.start])] at ensured
    split at ensured
    · cases ensured
    · cases ensured
      exact absurd absent there
    · split at ensured
      · cases ensured
      · rename_i ran
        cases ensured
        exact .inr ((made ran).2.of_table same)

namespace History

/-- How making sure of books in order can go. -/
inductive Ensured (db : Database) (s : Session σ) :
    Except MigrationError Unit × Session σ → Prop where
  | stopped {e : MigrationError} (foreign : ¬Reaches σ db) : Ensured db s (.error e, s)
  | unmade {t : Session σ} (foreign : ¬Reaches σ db) (ready : t.ready = true)
      (store : t.store = s.store) (absent : booksTable? s.store = none) :
    Ensured db s (.ok (), t)
  | made {t : Session σ} (ready : t.ready = true) (rows : journal t.store = journal s.store)
      (clock : TellsTime s.store → TellsTime t.store) (held : MadeBooks t.store) :
    Ensured db s (.ok (), t)

theorem ensure_unoccupied (db : Database) {s : Session σ} (free : Unoccupied s.store)
    (known : Reaches σ db → s.ready = false) : Ensured db s (ensure db s) := by
  have absent := absent_of_unoccupied free
  cases ready : s.ready with
  | true =>
    rw [ensure_ready db ready]
    refine .unmade (fun reaches => ?_) ready rfl absent
    rw [known reaches] at ready
    cases ready
  | false =>
    rw [ensure_eq, if_neg (by simp [ready])]
    split
    · rename_i e failed
      refine .stopped fun reaches => ?_
      rw [unseen reaches absent] at failed
      cases failed
    · rename_i there
      refine .unmade (fun reaches => ?_) rfl rfl absent
      rw [unseen reaches absent] at there
      cases there
    · split
      · rename_i e t ran
        cases refused (.inl free) ran
        refine .stopped fun reaches => ?_
        obtain ⟨count, t, went⟩ := making_unoccupied reaches free
        cases ran.symm.trans went
      · rename_i count t ran
        have rows := (making db s.store).rows
        have clock (tells : TellsTime s.store) := making_clock tells db
        rw [ran] at rows clock
        exact .made rfl rows clock (made ran).2

theorem ensure_made (db : Database) {s : Session σ} (held : MadeBooks s.store) :
    Ensured db s (ensure db s) := by
  by_cases reaches : Reaches σ db
  · rw [ensure_seen (seeing reaches held.own)]
    exact .made rfl rfl id held
  · rw [ensure_eq]
    split
    · rename_i ready
      exact .made ready rfl id held
    · split
      · exact .stopped reaches
      · exact .made rfl rfl id held
      · split
        · rename_i e t ran
          cases refused (.inr held) ran
          exact .stopped reaches
        · rename_i count t ran
          exact absurd (made ran).1 held.there

theorem ensure_ensured (db : Database) {s : Session σ} (order : OrderedBooks s.store)
    (known : Reaches σ db → s.ready = true → MadeBooks s.store) : Ensured db s (ensure db s) := by
  rcases order with free | held
  · refine ensure_unoccupied db free fun reaches => ?_
    cases ready : s.ready with
    | false => rfl
    | true => exact absurd (absent_of_unoccupied free) (known reaches ready).there
  · exact ensure_made db held

end History

end Laws

/-! ### Where the books of a store are not in order -/

namespace History

/-- A handle that does not see the table tries to make it, and fails where the name is taken. -/
theorem ensure_blocked {db : Database} {s : Session} (unready : s.ready = false)
    (unseen : db.tableExists s.store bookkeepingName = .ok false)
    (blocked : s.store.table? bookkeepingName ≠ none ∨
      s.store.hasIndex bookkeepingName = true) : ∃ e, ensure db s = (.error e, s) := by
  have went := makeTable_creation db s.store
  rw [ensure_eq, if_neg (by simp [unready]),
    show Server.tableExists db s.store bookkeepingName = _ from unseen]
  dsimp only
  generalize makeTable db s.store = outcome at went ⊢
  cases went with
  | refused why => exact ⟨_, rfl⟩
  | unindexed absent unnamed why ledger now held => simp [absent, unnamed] at blocked
  | made absent unnamed free ledger now held => simp [absent, unnamed] at blocked

/-- Where the name of the index is taken, the table is made without it. -/
theorem ensure_unindexed {db : Database} (main : db.IsMain) {s : Session}
    (unready : s.ready = false) (absent : s.store.table? bookkeepingName = none)
    (free : s.store.hasIndex bookkeepingName = false)
    (taken : s.store.hasIndex unitIndex.name = true) : ∃ e t,
      ensure db s = (.error e, { s with store := t }) ∧ t.ledger = s.store.ledger ∧
        t.table? bookkeepingName = some (bookkeepingEntry []) := by
  have untabled := hasTable_absent absent
  have sqlite : db.driver.dialect = .sqlite := congrArg Driver.dialect main.1
  have went := makeTable_creation db s.store
  rw [ensure_eq, if_neg (by simp [unready]),
    show Server.tableExists db s.store bookkeepingName = _ from tableExists_absent main absent]
  dsimp only
  generalize makeTable db s.store = outcome at went ⊢
  cases went with
  | refused why => simp [sqlite, untabled, free] at why
  | unindexed absent unnamed why ledger now held => exact ⟨_, _, rfl, ledger, held⟩
  | made absent unnamed free ledger now held => simp [taken] at free

end History

end SchemaShift
