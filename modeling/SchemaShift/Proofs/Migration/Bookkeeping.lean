import SchemaShift.Migration.History
import SchemaShift.Proofs.Migration.Records

/-!
# Bookkeeping

What is known of a server that keeps books: how the few things that a manager asks of it change the
bookkeeping table and its rows. `Bookkeeping` has the laws of any table that a manager makes,
`OrderlyBookkeeping` those of one that lets no unit have two records.
-/

namespace SchemaShift

open Text Store

/-- What can be seen of the books in a state. -/
class Books (σ : Type) where
  /-- The bookkeeping table, if there is one. -/
  booksTable? : σ → Option CatalogTable
  journal : σ → Journal
  /-- A manager can make this table. -/
  IsOwn : CatalogTable → Prop

open Books

section Books

variable {σ : Type} [Books σ]

/-- The bookkeeping table is there, and a manager can make it. -/
def HasOwnBooks (s : σ) : Prop :=
  ∃ own, booksTable? s = some own ∧ IsOwn σ own

/-- The bookkeeping table of `t` is that of `s`, or it was made where there was none. Its rows are
the same. -/
structure PreparesBooks (s t : σ) : Prop where
  rows : journal t = journal s
  table : booksTable? t = booksTable? s ∨ booksTable? s = none ∧ HasOwnBooks t

/-- There is no bookkeeping table, or it is one that a manager can make. -/
def KeptBooks (s : σ) : Prop :=
  booksTable? s = none ∧ (journal s).rows = [] ∨ HasOwnBooks s

/-- What comes of writing the record of a unit that has none. -/
inductive Written (s : σ) (key : Int64) (name : String) (status : Int64) (version : String) :
    Except StoreError Unit × σ → Prop where
  | full {e : StoreError} {t : σ} (room : (journal s).room = 0) (rows : journal t = journal s)
      (table : booksTable? t = booksTable? s) : Written s key name status version (.error e, t)
  | written {r : Row} {t : σ} (room : (journal s).room ≠ 0)
      (record : r.Records key name status version) (rows : journal t = (journal s).write r)
      (table : booksTable? t = booksTable? s) : Written s key name status version (.ok (), t)

/-- What comes of erasing the rows of a unit. -/
structure Erased (s : σ) (key : Int64) (outcome : Except StoreError Nat × σ) : Prop where
  counted : outcome.1 = .ok ((journal s).count key)
  rows : ∃ room, (journal s).room ≤ room ∧ journal outcome.2 = (journal s).erase key room
  table : booksTable? outcome.2 = booksTable? s

end Books

/-- The laws of a server that keeps books. -/
class Bookkeeping (σ : Type) [Server σ] extends Books σ where
  /-- Through such a handle the bookkeeping table is seen. -/
  Reaches : Database → Prop
  /-- A question about a record gets an answer. -/
  booksAnswer : σ → Bool
  /-- How a question about a record is refused. -/
  booksRefusal : σ → StoreError
  making (db : Database) (s : σ) : PreparesBooks s (History.makeTable db s).2
  seeing {db : Database} {s : σ} (reaches : Reaches db) (own : HasOwnBooks s) :
    Server.tableExists db s bookkeepingName = .ok true
  counting (s : σ) (key : Int64) : Server.countRecords s key =
    if booksAnswer s then .ok ((journal s).count key) else .error (booksRefusal s)
  there_of_answers {s : σ} (answers : booksAnswer s = true) : booksTable? s ≠ none
  answers_of_own {s : σ} (own : HasOwnBooks s) : booksAnswer s = true
  writing {s : σ} {key : Int64} (own : HasOwnBooks s) (absent : (journal s).count key = 0)
    (name : String) (status : Int64) (version : String) :
    Written s key name status version (Server.insertRecord s key name status version)
  erasing {s : σ} (own : HasOwnBooks s) (key : Int64) : Erased s key (Server.deleteRecord s key)
  listing {s : σ} {rows : List Row} (listed : Server.listRecords s = .ok rows) :
    booksTable? s ≠ none ∧ rows.Perm (journal s).rows

/-- What can be seen of books that are to be in order, besides the books. -/
class OrderlyBooks (σ : Type) where
  /-- The table lets no unit have two records. -/
  IsWhole : CatalogTable → Prop
  /-- Nothing stands where a manager will make the table. -/
  Unoccupied : σ → Prop
  TellsTime : σ → Prop

open OrderlyBooks

section OrderlyBooks

variable {σ : Type} [Books σ] [OrderlyBooks σ]

def MadeBooks (s : σ) : Prop :=
  ∃ whole, booksTable? s = some whole ∧ IsWhole σ whole

/-- What comes of writing a record into books that are in order. -/
inductive Inserted (s : σ) (key : Int64) (name : String) (status : Int64) (version : String) :
    Except StoreError Unit × σ → Prop where
  | full (room : (journal s).room = 0) : Inserted s key name status version (.error .full, s)
  | repeated (room : (journal s).room ≠ 0) (held : (journal s).count key ≠ 0) :
    Inserted s key name status version (.error repeated, s)
  | written {r : Row} {t : σ} (room : (journal s).room ≠ 0) (absent : (journal s).count key = 0)
      (record : r.Records key name status version)
      (dated : ∃ created updated, MigrationRecord.readTime r.createTime.asText = .ok created ∧
        MigrationRecord.readTime r.updateTime.asText = .ok updated)
      (rows : journal t = (journal s).write r) (table : booksTable? t = booksTable? s)
      (clock : TellsTime t) : Inserted s key name status version (.ok (), t)

end OrderlyBooks

/-- The laws of a server that keeps books in order. -/
class OrderlyBookkeeping (σ : Type) [Server σ] extends Bookkeeping σ, OrderlyBooks σ where
  own_of_whole {whole : CatalogTable} (is : IsWhole whole) : IsOwn whole
  absent_of_unoccupied {s : σ} (free : Unoccupied s) : booksTable? s = none
  unseen {db : Database} {s : σ} (reaches : Reaches db) (absent : booksTable? s = none) :
    Server.tableExists db s bookkeepingName = .ok false
  making_unoccupied {db : Database} {s : σ} (reaches : Reaches db) (free : Unoccupied s) :
    ∃ count t, History.makeTable db s = (.ok count, t)
  made {db : Database} {s t : σ} {count : Nat} (ran : History.makeTable db s = (.ok count, t)) :
    booksTable? s = none ∧ MadeBooks t
  refused {db : Database} {s t : σ} {e : MigrationError} (ordered : Unoccupied s ∨ MadeBooks s)
    (ran : History.makeTable db s = (.error e, t)) : t = s
  inserting {s : σ} (held : MadeBooks s) (clock : TellsTime s) (key : Int64) (name : String)
    (status : Int64) (version : String) :
    Inserted s key name status version (Server.insertRecord s key name status version)
  listing_whole {s : σ} (held : MadeBooks s) : ∃ rows, Server.listRecords s = .ok rows ∧
    rows.Pairwise fun a b => a.migrateId.le b.migrateId = true
  untabled {s : σ} (absent : booksTable? s = none) (key : Int64) :
    (∀ name status version, ∃ e, Server.insertRecord s key name status version = (.error e, s)) ∧
      ∃ e, Server.deleteRecord s key = (.error e, s)
  making_clock {s : σ} (clock : TellsTime s) (db : Database) :
    TellsTime (History.makeTable db s).2
  erasing_clock {s : σ} (clock : TellsTime s) (key : Int64) :
    TellsTime (Server.deleteRecord s key).2

end SchemaShift
