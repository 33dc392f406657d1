import Mathlib.Logic.Function.Basic
import SchemaShift.Proofs.Migration.Listing
import SchemaShift.Proofs.Migration.Making

/-!
# The history as a map

However many managers call a history in whatever order, their replies are those of one map from
unit ids to entries. `Book.Replies` says what the map replies to one call and what becomes of it,
`Book.AnswersAll` follows a sequence of calls.
-/

namespace SchemaShift

open Text Store Session Books Bookkeeping OrderlyBooks OrderlyBookkeeping

/-! ### The map -/

inductive HistoryCall where
  | ensure
  | has (id : UInt64)
  | insert (id : UInt64) (name version : String)
  | delete (id : UInt64)
  | list

inductive Reply where
  | done
  | told (answer : Bool)
  | listed (records : List MigrationRecord)
deriving DecidableEq

def HistoryCall.id? : HistoryCall → Option UInt64
  | .has id => some id
  | .insert id _ _ => some id
  | .delete id => some id
  | _ => none

/-- A map from unit ids to entries, and how many entries may be added before the row numbers
run out. -/
structure Book where
  entry : UInt64 → Option Entry
  left : Nat

namespace Book

inductive Replies (b : Book) : HistoryCall → Except MigrationError Reply → Book → Prop where
  | ensured : b.Replies .ensure (.ok .done) b
  | beyond {call : HistoryCall} {id : UInt64} (about : call.id? = some id)
      (above : ¬id.toNat < signedLimit) :
    b.Replies call (.error (.idOutOfRange (natText id.toNat))) b
  | told {id : UInt64} (fits : id.toNat < signedLimit) :
    b.Replies (.has id) (.ok (.told (b.entry id).isSome)) b
  | added {id : UInt64} {name version : String} (fits : id.toNat < signedLimit)
      (free : b.entry id = none) (room : b.left ≠ 0) :
    b.Replies (.insert id name version) (.ok .done)
      { entry := Function.update b.entry id (some { name, version, status := 0 })
        left := b.left - 1 }
  | taken {id : UInt64} {name version : String} (fits : id.toNat < signedLimit)
      (there : b.entry id ≠ none) (room : b.left ≠ 0) :
    b.Replies (.insert id name version) (.error (.database (.refused repeated))) b
  | full {id : UInt64} {name version : String} (fits : id.toNat < signedLimit)
      (full : b.left = 0) :
    b.Replies (.insert id name version) (.error (.database (.refused .full))) b
  | removed {id : UInt64} {left : Nat} (fits : id.toNat < signedLimit) (more : b.left ≤ left) :
    b.Replies (.delete id) (.ok (.told (b.entry id).isSome))
      { entry := Function.update b.entry id none, left }
  | listed {records : List MigrationRecord}
      (ascending : records.Pairwise fun a b => a.migrateId < b.migrateId)
      (whole : ∀ id e, (∃ record ∈ records, record.migrateId = id ∧ record.entry = e) ↔
        b.entry id = some e) :
    b.Replies .list (.ok (.listed records)) b

end Book

namespace Journal

/-- The map that a journal stands for. -/
def book (j : Journal) : Book :=
  { entry := j.known?, left := j.room }

variable {j : Journal} (sound : j.Sound) {id : UInt64} {key : Int64}
  (stored : storedId id = .ok key)
include sound stored

theorem count_eq_entry : (j.count key != 0) = (j.book.entry id).isSome := by
  rw [recorded_eq_count stored, ← sound.known?_isSome]
  rfl

theorem count_eq_zero_iff : j.count key = 0 ↔ j.book.entry id = none := by
  rw [← Option.isNone_iff_eq_none, ← Option.isSome_eq_false_iff, ← count_eq_entry sound stored]
  simp

theorem book_write {r : Row} {name version : String} {status : Int64}
    (free : j.book.entry id = none) (record : r.Records key name status version)
    (dated : ∃ created updated, MigrationRecord.readTime r.createTime.asText = .ok created ∧
      MigrationRecord.readTime r.updateTime.asText = .ok updated) :
    (j.write r).Sound ∧
      (j.write r).book =
        { entry := Function.update j.book.entry id (some { name, version, status })
          left := j.book.left - 1 } := by
  have absent : j.recorded id = false := by
    rw [← sound.known?_isSome, Option.isSome_eq_false_iff, Option.isNone_iff_eq_none]
    exact free
  obtain ⟨kept, known⟩ := sound.known?_write stored absent record dated
  refine ⟨kept, ?_⟩
  unfold book
  rw [known]
  rfl

theorem book_erase (room : Nat) :
    (j.erase key room).Sound ∧
      (j.erase key room).book =
        { entry := Function.update j.book.entry id none, left := room } := by
  obtain ⟨kept, known⟩ := sound.known?_erase stored room
  refine ⟨kept, ?_⟩
  unfold book
  rw [known]
  rfl

end Journal

/-! ### One call -/

theorem storedId_beyond {id : UInt64} (above : ¬id.toNat < signedLimit) :
    storedId id = .error (.idOutOfRange (natText id.toNat)) :=
  if_neg above

variable {σ : Type} [Server σ]

namespace HistoryCall

def perform (db : Database) : HistoryCall → ManagerM σ Reply
  | .ensure => do
    History.ensure db
    return .done
  | .has id => return .told (← History.has db id)
  | .insert id name version => do
    History.insert db id name version
    return .done
  | .delete id => return .told (← History.delete db id)
  | .list => return .listed (← History.list db)

/-- Every call begins with making sure of the table. -/
theorem perform_eq (σ : Type) [Server σ] (db : Database) (call : HistoryCall) :
    ∃ rest : Unit → ManagerM σ Reply, call.perform db = History.ensure db >>= rest := by
  cases call with
  | ensure => exact ⟨_, rfl⟩
  | has id => exact ⟨_, bind_assoc _ _ _⟩
  | insert id name version => exact ⟨_, bind_assoc _ _ _⟩
  | delete id => exact ⟨_, bind_assoc _ _ _⟩
  | list => exact ⟨_, bind_assoc _ _ _⟩

section Performing

variable {db : Database} {s t : Session σ}

theorem perform_stopped {e : MigrationError} (stopped : History.ensure db s = (.error e, t))
    (call : HistoryCall) : call.perform db s = (.error e, t) := by
  obtain ⟨rest, same⟩ := call.perform_eq σ db
  rw [same, run_bind, stopped]

theorem perform_ensured (ensured : History.ensure db s = (.ok (), t)) (ready : t.ready = true)
    (call : HistoryCall) : call.perform db s = call.perform db t := by
  obtain ⟨rest, same⟩ := call.perform_eq σ db
  rw [same, run_bind, run_bind, ensured, History.ensure_ready db ready]

section Ready

variable (ready : t.ready = true)
include ready

theorem perform_beyond {call : HistoryCall} {id : UInt64} (about : call.id? = some id)
    (above : ¬id.toNat < signedLimit) :
    call.perform db t = (.error (.idOutOfRange (natText id.toNat)), t) := by
  have ensured := History.ensure_ready db ready
  have unstored := storedId_beyond above
  cases call with
  | ensure => cases about
  | list => cases about
  | has other =>
    cases about
    simp only [perform, History.has, run_bind, ensured, run_lift, unstored]
  | insert other name version =>
    cases about
    simp only [perform, History.insert, run_bind, ensured, run_lift, unstored]
  | delete other =>
    cases about
    simp only [perform, History.delete, run_bind, ensured, run_lift, unstored]

theorem perform_ensure : HistoryCall.ensure.perform db t = (.ok .done, t) := by
  simp only [perform, run_bind, History.ensure_ready db ready, run_pure]

theorem perform_list :
    HistoryCall.list.perform db t =
      ((History.refusal (Server.listRecords t.store) >>= MigrationRecord.ofRows).map .listed,
        t) := by
  rw [perform, run_bind, History.list_ready db ready]
  cases History.refusal (Server.listRecords t.store) >>= MigrationRecord.ofRows <;> rfl

section Stored

variable {id : UInt64} {key : Int64} (stored : storedId id = .ok key)
include stored

theorem perform_has :
    (HistoryCall.has id).perform db t =
      ((History.refusal (Server.countRecords t.store key)).map fun count => .told (count != 0),
        t) := by
  rw [perform, run_bind, History.has_ready db ready stored]
  cases Server.countRecords t.store key <;> rfl

theorem perform_insert (name version : String) :
    (HistoryCall.insert id name version).perform db t =
      let outcome := Server.insertRecord t.store key name MigrationRecord.migratedStatus version
      ((History.refusal outcome.1).map fun _ => .done, { t with store := outcome.2 }) := by
  rw [perform, run_bind, History.insert_ready db ready stored]
  dsimp only
  cases (Server.insertRecord t.store key name MigrationRecord.migratedStatus version).1 <;> rfl

theorem perform_delete :
    (HistoryCall.delete id).perform db t =
      let outcome := Server.deleteRecord t.store key
      ((History.refusal outcome.1).map fun count => .told (count != 0),
        { t with store := outcome.2 }) := by
  rw [perform, run_bind, History.delete_ready db ready stored]
  dsimp only
  cases (Server.deleteRecord t.store key).1 <;> rfl

end Stored

end Ready

end Performing

end HistoryCall

/-- The manager knows the books, and they are in order. -/
structure Session.Settled [OrderlyBookkeeping σ] (s : Session σ) : Prop where
  ready : s.ready = true
  held : MadeBooks s.store
  sound : (journal s.store).Sound
  clock : TellsTime s.store

namespace HistoryCall

variable [OrderlyBookkeeping σ] {db : Database} {t : Session σ}

/-- Without the table every call but the one for it is refused. -/
theorem perform_unmade (ready : t.ready = true) (absent : booksTable? t.store = none)
    (call : HistoryCall) : call = .ensure ∨ ∃ e, call.perform db t = (.error e, t) := by
  have unanswered : booksAnswer t.store = false := by
    rw [Bool.eq_false_iff]
    exact fun answers => there_of_answers answers absent
  have keyed {id : UInt64} (about : call.id? = some id)
      (refused : ∀ key, storedId id = .ok key → ∃ e, call.perform db t = (.error e, t)) :
      ∃ e, call.perform db t = (.error e, t) := by
    by_cases fits : id.toNat < signedLimit
    · exact refused _ (if_pos fits)
    · exact ⟨.idOutOfRange _, perform_beyond ready about fits⟩
  cases call with
  | ensure => exact .inl rfl
  | list =>
    right
    rw [perform_list ready]
    cases listed : Server.listRecords t.store with
    | error e => exact ⟨_, rfl⟩
    | ok rows => exact absurd absent (listing listed).1
  | has id =>
    refine .inr (keyed rfl fun key stored => ?_)
    rw [perform_has ready stored, counting, unanswered]
    exact ⟨_, rfl⟩
  | insert id name version =>
    refine .inr (keyed rfl fun key stored => ?_)
    obtain ⟨e, refused⟩ := (untabled absent key).1 name MigrationRecord.migratedStatus version
    rw [perform_insert ready stored, refused]
    exact ⟨_, rfl⟩
  | delete id =>
    refine .inr (keyed rfl fun key stored => ?_)
    obtain ⟨e, refused⟩ := (untabled absent key).2
    rw [perform_delete ready stored, refused]
    exact ⟨_, rfl⟩

/-- The map replies to the call, and the books stay in order. -/
def Served (call : HistoryCall) (db : Database) (t : Session σ) : Prop :=
  ∃ reply u, call.perform db t = (reply, u) ∧ u.Settled ∧
    (journal t.store).book.Replies call reply (journal u.store).book

section Settled

variable (settled : t.Settled)
include settled

theorem served_unchanged {call : HistoryCall} {reply : Except MigrationError Reply}
    (same : call.perform db t = (reply, t))
    (replies : (journal t.store).book.Replies call reply (journal t.store).book) :
    call.Served db t :=
  ⟨reply, t, same, settled, replies⟩

theorem served_list : list.Served db t := by
  obtain ⟨rows, listed, ascending⟩ := listing_whole settled.held
  obtain ⟨records, read, increasing, whole⟩ :=
    settled.sound.list_records (listing listed).2 ascending
  refine served_unchanged settled ?_ (.listed increasing whole)
  rw [perform_list settled.ready, listed]
  exact congrArg (fun read => (Except.map Reply.listed read, t)) read

variable {id : UInt64} (fits : id.toNat < signedLimit)
include fits

theorem served_has : (has id).Served db t := by
  have stored : storedId id = .ok (Int64.ofNat id.toNat) := if_pos fits
  refine served_unchanged settled ?_ (.told fits)
  rw [perform_has settled.ready stored, counting, answers_of_own settled.held.own,
    ← Journal.count_eq_entry settled.sound stored]
  rfl

theorem served_insert (name version : String) : (insert id name version).Served db t := by
  have stored : storedId id = .ok (Int64.ofNat id.toNat) := if_pos fits
  have unheld := Journal.count_eq_zero_iff settled.sound stored
  have performed : (insert id name version).perform db t = _ :=
    perform_insert settled.ready stored name version
  have inserted := inserting settled.held settled.clock (Int64.ofNat id.toNat) name
    MigrationRecord.migratedStatus version
  generalize Server.insertRecord t.store (Int64.ofNat id.toNat) name
    MigrationRecord.migratedStatus version = outcome at performed inserted
  cases inserted with
  | full room => exact served_unchanged settled performed (.full fits room)
  | repeated room held =>
    exact served_unchanged settled performed (.taken fits (unheld.not.1 held) room)
  | written room absent record dated rows table clock =>
    have free := unheld.1 absent
    obtain ⟨sound, book⟩ := Journal.book_write settled.sound stored free record dated
    have replies : (journal t.store).book.Replies (.insert id name version) (.ok .done) _ :=
      .added fits free room
    rw [← rows] at sound book
    exact ⟨_, _, performed, ⟨settled.ready, settled.held.of_table table, sound, clock⟩,
      book ▸ replies⟩

theorem served_delete : (delete id).Served db t := by
  have stored : storedId id = .ok (Int64.ofNat id.toNat) := if_pos fits
  obtain ⟨counted, ⟨room, more, rows⟩, table⟩ := erasing settled.held.own (Int64.ofNat id.toNat)
  obtain ⟨sound, book⟩ := Journal.book_erase settled.sound stored room
  have clock := erasing_clock settled.clock (Int64.ofNat id.toNat)
  have performed : (delete id).perform db t = _ := perform_delete settled.ready stored
  dsimp only at performed
  rw [counted] at performed
  have replies : (journal t.store).book.Replies (.delete id)
      (.ok (.told ((journal t.store).book.entry id).isSome)) _ := .removed fits more
  rw [← Journal.count_eq_entry settled.sound stored] at replies
  rw [← rows] at sound book
  exact ⟨_, _, performed, ⟨settled.ready, settled.held.of_table table, sound, clock⟩,
    book ▸ replies⟩

omit fits in
theorem served (call : HistoryCall) : call.Served db t := by
  have keyed {id : UInt64} (about : call.id? = some id)
      (within : id.toNat < signedLimit → call.Served db t) : call.Served db t := by
    by_cases fits : id.toNat < signedLimit
    · exact within fits
    · exact served_unchanged settled (perform_beyond settled.ready about fits)
        (.beyond about fits)
  cases call with
  | ensure => exact served_unchanged settled (perform_ensure settled.ready) .ensured
  | list => exact served_list settled
  | has id => exact keyed rfl fun fits => served_has settled fits
  | insert id name version => exact keyed rfl fun fits => served_insert settled fits name version
  | delete id => exact keyed rfl fun fits => served_delete settled fits

end Settled

end HistoryCall

/-! ### Many managers -/

structure Asked where
  manager : Nat
  call : HistoryCall

/-- A database, and which of its managers know that the bookkeeping table is there. -/
structure Office (σ : Type := Store) where
  store : σ
  ready : Nat → Bool

namespace Office

section Managers

variable {σ : Type}

def start (store : σ) : Office σ :=
  { store, ready := fun _ => false }

def session (o : Office σ) (manager : Nat) : Session σ :=
  { store := o.store, ready := o.ready manager, calls := [] }

def after (o : Office σ) (manager : Nat) (s : Session σ) : Office σ :=
  { store := s.store, ready := fun other => if other = manager then s.ready else o.ready other }

end Managers

def ask (handles : Nat → Database) (o : Office σ) (a : Asked) :
    Except MigrationError Reply × Office σ :=
  let (reply, s) := a.call.perform (handles a.manager) (o.session a.manager)
  (reply, o.after a.manager s)

def askAll (handles : Nat → Database) (o : Office σ) :
    List Asked → List (Except MigrationError Reply) × Office σ
  | [] => ([], o)
  | a :: rest =>
    let (reply, next) := o.ask handles a
    let (replies, last) := next.askAll handles rest
    (reply :: replies, last)

end Office

/-- The map replies, or the handle is none of those that see the books and is refused. -/
inductive Book.Answers (Sees : Database → Prop) (handles : Nat → Database) (b : Book) (a : Asked) :
    Except MigrationError Reply → Book → Prop where
  | replied {c : Book} {reply : Except MigrationError Reply}
      (replies : b.Replies a.call reply c) :
    Answers Sees handles b a reply c
  | refused {e : MigrationError} (foreign : ¬Sees (handles a.manager)) :
    Answers Sees handles b a (.error e) b

inductive Book.AnswersAll (Sees : Database → Prop) (handles : Nat → Database) :
    Book → List Asked → List (Except MigrationError Reply) → Book → Prop where
  | none {b : Book} : AnswersAll Sees handles b [] [] b
  | next {b c d : Book} {a : Asked} {asked : List Asked} {reply : Except MigrationError Reply}
      {replies : List (Except MigrationError Reply)} (first : b.Answers Sees handles a reply c)
      (rest : AnswersAll Sees handles c asked replies d) :
    AnswersAll Sees handles b (a :: asked) (reply :: replies) d

namespace Office

variable [OrderlyBookkeeping σ]

/-- What no call takes from an office. -/
structure Steady (handles : Nat → Database) (o : Office σ) : Prop where
  order : OrderedBooks o.store
  sound : (journal o.store).Sound
  clock : TellsTime o.store
  known : ∀ manager, Reaches σ (handles manager) → o.ready manager = true → MadeBooks o.store

variable {handles : Nat → Database} {o : Office σ}

theorem Steady.unchanged (steady : o.Steady handles) {manager : Nat} {s : Session σ}
    (store : s.store = o.store)
    (known : Reaches σ (handles manager) → s.ready = true → MadeBooks o.store) :
    (o.after manager s).Steady handles := by
  obtain ⟨order, sound, clock, others⟩ := steady
  have same : (o.after manager s).store = o.store := store
  refine ⟨same ▸ order, same ▸ sound, same ▸ clock, fun other reaches ready => ?_⟩
  rw [same]
  by_cases mine : other = manager
  · subst mine
    exact known reaches (by simpa [after] using ready)
  · exact others other reaches (by simpa [after, mine] using ready)

theorem Steady.settled {s : Session σ} (settled : s.Settled) (manager : Nat) :
    (o.after manager s).Steady handles :=
  ⟨.inr settled.held, settled.sound, settled.clock, fun _ _ _ => settled.held⟩

/-- The office stays steady, and what a manager gets to know is what the map tells. -/
theorem ask_answers (steady : o.Steady handles) (a : Asked) :
    (o.ask handles a).2.Steady handles ∧
      (journal o.store).book.Answers (Reaches σ) handles a (o.ask handles a).1
        (journal (o.ask handles a).2.store).book := by
  have went := History.ensure_ensured (handles a.manager) (s := o.session a.manager) steady.order
    (steady.known a.manager)
  unfold ask
  rcases outcome : History.ensure (handles a.manager) (o.session a.manager) with ⟨result, s⟩
  rw [outcome] at went
  cases went with
  | stopped foreign =>
    rw [HistoryCall.perform_stopped outcome]
    exact ⟨steady.unchanged rfl fun reaches => absurd reaches foreign, .refused foreign⟩
  | unmade foreign ready store absent =>
    have kept : (o.after a.manager s).Steady handles :=
      steady.unchanged store fun reaches => absurd reaches foreign
    have book : (journal s.store).book = (journal o.store).book := by
      rw [store]
      rfl
    rw [HistoryCall.perform_ensured outcome ready]
    have reply : a.call = .ensure ∨ ∃ e, a.call.perform (handles a.manager) s = (.error e, s) :=
      HistoryCall.perform_unmade ready (store ▸ absent) a.call
    rcases reply with ensure | ⟨e, refused⟩
    · rw [ensure, HistoryCall.perform_ensure ready]
      refine ⟨kept, .replied ?_⟩
      rw [ensure]
      exact book ▸ .ensured
    · rw [refused]
      exact ⟨kept, book ▸ .refused foreign⟩
  | made ready rows clock held =>
    have settled : s.Settled := ⟨ready, held, rows ▸ steady.sound, clock steady.clock⟩
    obtain ⟨reply, u, performed, stays, replies⟩ : a.call.Served (handles a.manager) s :=
      HistoryCall.served settled a.call
    rw [HistoryCall.perform_ensured outcome ready, performed]
    rw [rows] at replies
    exact ⟨.settled stays a.manager, .replied replies⟩

theorem askAll_answers (steady : o.Steady handles) (asked : List Asked) :
    (journal o.store).book.AnswersAll (Reaches σ) handles asked (o.askAll handles asked).1
      (journal (o.askAll handles asked).2.store).book := by
  -- The office after the first call is steady, so the rest is asked of a steady office again.
  induction asked generalizing o with
  | nil => exact .none
  | cons a asked ih =>
    obtain ⟨after, first⟩ := ask_answers steady a
    exact .next first (ih after)

/-- Whoever calls a history in which order: all replies are those of one map from unit ids to
entries, which is at first the map of the rows that were there. -/
theorem history_is_map {start : σ} (own : OwnBooks start)
    (free : booksTable? start = none → Unoccupied start) (sound : (journal start).Sound)
    (clock : TellsTime start) (handles : Nat → Database) (asked : List Asked) :
    (journal start).book.AnswersAll (Reaches σ) handles asked
      ((Office.start start).askAll handles asked).1
      (journal ((Office.start start).askAll handles asked).2.store).book := by
  have steady : (Office.start start).Steady handles :=
    { order := own.ordered free, sound, clock, known := fun _ _ ready => (nomatch ready) }
  exact askAll_answers steady asked

def usersStart : Store :=
  .withLedger (Ledger.empty.insert 7 "users" 0 "0.1.0" "2024-01-01 00:00:00")

def usersAsked : List Asked :=
  [{ manager := 0, call := .has 7 },
   { manager := 1, call := .insert 7 "orders" "0.2.0" },
   { manager := 1, call := .insert 18446744073709551615 "far" "0.1.0" },
   { manager := 1, call := .insert 8 "orders" "0.2.0" },
   { manager := 0, call := .delete 7 },
   { manager := 1, call := .has 7 },
   { manager := 0, call := .list }]

def newYear : Calendar.Moment :=
  { date := { year := 2024, month := 1, day := 1 }, second := 0, nano := 0 }

theorem users_history_is_map :
    ((Office.start usersStart).askAll (fun _ => sqliteMain) usersAsked).1 =
        [.ok (.told true), .error (.database (.refused repeated)),
         .error (.idOutOfRange "18446744073709551615"), .ok .done, .ok (.told true),
         .ok (.told false),
         .ok (.listed [{ id := 2, migrateId := 8, name := "orders", status := 0,
                         version := "0.2.0", created := newYear, updated := newYear }])] ∧
      (journal usersStart).book.AnswersAll Database.IsMain (fun _ => sqliteMain) usersAsked
        ((Office.start usersStart).askAll (fun _ => sqliteMain) usersAsked).1
        (journal ((Office.start usersStart).askAll (fun _ => sqliteMain)
          usersAsked).2.store).book := by
  have clock : MigrationRecord.readTime "2024-01-01 00:00:00" = .ok newYear := by decide +kernel
  have bare : Ledger.empty.journal.Sound :=
    ⟨fun r member => (nomatch member), fun r member => (nomatch member), .nil⟩
  have stored : storedId 7 = .ok 7 := rfl
  obtain ⟨r, record, created, updated, rows⟩ := Ledger.journal_insert
    (show Ledger.empty.journal.room ≠ 0 by decide +kernel) 7 "users" "0.1.0"
    "2024-01-01 00:00:00" 0
  have sound : (journal usersStart).Sound := by
    show (Ledger.empty.insert 7 "users" 0 "0.1.0" "2024-01-01 00:00:00").journal.Sound
    rw [rows]
    refine (bare.known?_write stored rfl record ⟨newYear, newYear, ?_, ?_⟩).1
    · rw [created]
      exact clock
    · rw [updated]
      exact clock
  have own : OwnBooks usersStart := Store.withLedger_ownBooks _
  have there : usersStart.table? bookkeepingName ≠ none := by decide +kernel
  refine ⟨by decide +kernel, ?_⟩
  exact history_is_map own (fun absent => absurd absent there) sound ⟨newYear, clock⟩ _ _

/-- No row number is left. -/
def fullStart : Store :=
  .withLedger { rows := [], lastId := 9223372036854775807 }

/-- An index has the name of the bookkeeping table. -/
def blockedStart : Store :=
  ((Store.fresh "2024-01-01 00:00:00").execute
    "CREATE TABLE t (a); CREATE INDEX ksql_migrate_info ON t (a)").2

/-- An index has the name of the one that lets no unit have two records. -/
def takenStart : Store :=
  ((Store.fresh "2024-01-01 00:00:00").execute
    "CREATE TABLE t (a); CREATE INDEX uk_migrate_id ON t (a)").2

/-- A row has a time that is none. -/
def yesterdayStart : Store :=
  .withLedger (Ledger.empty.insert 7 "users" 0 "0.1.0" "yesterday")

def sqliteTemp : Database :=
  { driver := .sqlite, name := "temp" }

/-- Where the table has been made without its index, nothing keeps a unit from a second record. -/
theorem ask_insert_unindexed {o : Office} {id : UInt64} {key : Int64}
    (held : o.store.table? bookkeepingName = some (bookkeepingEntry []))
    (stored : storedId id = .ok key) (room : o.store.ledger.hasRoom = true)
    (name version : String) :
    let asked := o.ask (fun _ => sqliteMain) { manager := 0, call := .insert id name version }
    asked.1 = .ok .done ∧ asked.2.store =
      { o.store with ledger := o.store.ledger.insert key name 0 version o.store.now } := by
  have ensured : History.ensure sqliteMain (o.session 0) = (.ok (), _) :=
    History.ensure_seen (tableExists_entry sqliteMain_isMain held)
  have repeats : o.store.keepsUnique "migrate_id" = false := by
    rw [keepsUnique, held]
    decide +kernel
  have inserted := insertRecord_entry held key name version MigrationRecord.migratedStatus
  rw [Ledger.hasRoom_eq, bne_iff_ne] at room
  rw [if_neg room, repeats, if_neg (by simp)] at inserted
  unfold ask
  rw [HistoryCall.perform_ensured ensured rfl, HistoryCall.perform_insert rfl stored]
  change _ ∧ _
  dsimp only [session]
  rw [inserted]
  exact ⟨rfl, rfl⟩

/-- A manager fails to make the index, and then no manager misses it. -/
theorem unindexed_takes_twice {s : Store} (absent : s.table? bookkeepingName = none)
    (free : s.hasIndex bookkeepingName = false) (taken : s.hasIndex unitIndex.name = true)
    (empty : s.ledger = .empty) : ∃ e,
      ((Office.start s).askAll (fun _ => sqliteMain)
        [{ manager := 0, call := .ensure }, { manager := 0, call := .insert 1 "users" "0.1.0" },
         { manager := 0, call := .insert 1 "orders" "0.2.0" }]).1 =
        [.error e, .ok .done, .ok .done] := by
  obtain ⟨e, t, failed, rows, held⟩ := History.ensure_unindexed sqliteMain_isMain
    (s := (Office.start s).session 0) rfl absent free taken
  have bare : t.ledger = .empty := rows.trans empty
  have one : storedId 1 = .ok 1 := rfl
  let halfway := (Office.start s).after 0 { store := t, ready := false, calls := [] }
  have first : (Office.start s).ask (fun _ => sqliteMain) { manager := 0, call := .ensure } =
      (.error e, halfway) := by
    rw [ask, HistoryCall.perform_stopped failed]
    rfl
  obtain ⟨second, store⟩ := ask_insert_unindexed (o := halfway) held one
    (by rw [show halfway.store.ledger = .empty from bare]; decide +kernel) "users" "0.1.0"
  have again : (halfway.ask (fun _ => sqliteMain)
      { manager := 0, call := .insert 1 "users" "0.1.0" }).2.store.ledger.hasRoom = true := by
    rw [store, show halfway.store.ledger = .empty from bare]
    rfl
  obtain ⟨third, -⟩ := ask_insert_unindexed (by rw [store]; exact held) one again "orders" "0.2.0"
  refine ⟨e, ?_⟩
  simp only [askAll, first, second, third]

theorem blocked_refused {db : Database} {s : Store}
    (unseen : db.tableExists s bookkeepingName = .ok false)
    (blocked : s.table? bookkeepingName ≠ none ∨ s.hasIndex bookkeepingName = true)
    (call : HistoryCall) : ∃ e,
      ((Office.start s).askAll (fun _ => db) [{ manager := 0, call }]).1 = [.error e] := by
  obtain ⟨e, refused⟩ := History.ensure_blocked (s := (Office.start s).session 0) rfl unseen
    blocked
  have asked := HistoryCall.perform_stopped refused call
  refine ⟨e, ?_⟩
  simp only [askAll, ask, asked]

/-- The replies are not those of a map where no row number is left, where the name of the table
or of its index is taken, where a row has no readable time, and through a handle of the schema that
does not have the table. -/
theorem history_off_the_map :
    (∀ start ∈ [fullStart, blockedStart, takenStart, yesterdayStart, usersStart],
      OwnBooks start) ∧
      ((Office.start fullStart).askAll (fun _ => sqliteMain)
        [{ manager := 0, call := .insert 2 "orders" "0.1.0" }]).1 =
          [.error (.database (.refused .full))] ∧
      (∃ e, ((Office.start blockedStart).askAll (fun _ => sqliteMain)
        [{ manager := 0, call := .insert 2 "orders" "0.1.0" }]).1 = [.error e]) ∧
      (∃ e, ((Office.start takenStart).askAll (fun _ => sqliteMain)
        [{ manager := 0, call := .ensure }, { manager := 0, call := .insert 1 "users" "0.1.0" },
         { manager := 0, call := .insert 1 "orders" "0.2.0" }]).1 =
          [.error e, .ok .done, .ok .done]) ∧
      ((Office.start yesterdayStart).askAll (fun _ => sqliteMain)
        [{ manager := 0, call := .list }]).1 = [.error (.unreadableTime "yesterday")] ∧
      ∃ e, ((Office.start usersStart).askAll (fun _ => sqliteTemp)
        [{ manager := 0, call := .has 7 }]).1 = [.error e] := by
  have blocked : blockedStart.table? bookkeepingName = none ∧
      blockedStart.hasIndex bookkeepingName = true ∧ blockedStart.ledger = .empty := by
    decide +kernel
  have taken : takenStart.table? bookkeepingName = none ∧
      takenStart.hasIndex bookkeepingName = false ∧ takenStart.hasIndex unitIndex.name = true ∧
      takenStart.ledger = .empty := by decide +kernel
  obtain ⟨absent, free, named, empty⟩ := taken
  refine ⟨?_, by decide +kernel, ?_, ?_, by decide +kernel, ?_⟩
  · simp only [List.forall_mem_cons]
    exact ⟨Store.withLedger_ownBooks _, Store.ownBooks_of_absent blocked.1 blocked.2.2,
      Store.ownBooks_of_absent absent empty, Store.withLedger_ownBooks _,
      Store.withLedger_ownBooks _, by simp⟩
  · exact blocked_refused (tableExists_absent sqliteMain_isMain blocked.1) (.inr blocked.2.1) _
  · exact unindexed_takes_twice absent free named empty
  · have there : usersStart.table? bookkeepingName ≠ none := by decide +kernel
    have unseen : sqliteTemp.tableExists usersStart bookkeepingName = .ok false := by
      decide +kernel
    exact blocked_refused unseen (.inl there) _

end Office

end SchemaShift
