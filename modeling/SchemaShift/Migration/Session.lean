import SchemaShift.Migration.Unit

/-!
# Sessions

A session is one manager at work on a database. Its operations may fail, and what they did
before stays done: `run_bind` says how a failure ends a sequence of operations.
-/

namespace SchemaShift

structure Call (σ : Type := Store) where
  direction : Direction
  id : UInt64
  /-- The state that the action started on. -/
  before : σ
  succeeded : Bool
deriving DecidableEq

structure Session (σ : Type := Store) where
  store : σ
  /-- The bookkeeping table was there when the manager last looked. -/
  ready : Bool
  /-- The actions started so far, in their order. -/
  calls : List (Call σ)
deriving DecidableEq

abbrev ManagerM (σ : Type) := ExceptT MigrationError (StateM (Session σ))

abbrev SessionM := ManagerM Store

namespace Session

variable {σ : Type}

def start (store : σ) : Session σ :=
  { store, ready := false, calls := [] }

def ask {α : Type} (question : σ → Except MigrationError α) : ManagerM σ α := fun s =>
  (question s.store, s)

def perform {α : Type} (deed : σ → Except MigrationError α × σ) : ManagerM σ α := fun s =>
  let (result, store) := deed s.store
  (result, { s with store })

/-- Ends with the failure, or goes on with the value. -/
def lift {α : Type} (result : Except MigrationError α) : ManagerM σ α := fun s => (result, s)

def attempt {α : Type} (m : ManagerM σ α) : ManagerM σ (Except MigrationError α) := fun s =>
  let (result, s) := m s
  (.ok result, s)

/-- Starts an action of a unit and notes that. Whether it fails is its result. -/
def runAction (u : MigrationUnit σ) (d : Direction) : ManagerM σ (Except MigrationError Unit) :=
  fun s =>
    let (result, store) := u.action d s.store
    let call := { direction := d, id := u.id, before := s.store, succeeded := result.isOk }
    (.ok result, { s with store, calls := s.calls ++ [call] })

theorem run_bind {α β : Type} (m : ManagerM σ α) (f : α → ManagerM σ β) (s : Session σ) :
    (m >>= f) s =
      match m s with
      | (.ok a, s) => f a s
      | (.error e, s) => (.error e, s) := by
  show (ExceptT.bind m f) s = _
  simp only [ExceptT.bind, ExceptT.mk, bind, StateT.bind]
  rcases m s with ⟨r | r, t⟩ <;> rfl

theorem run_pure {α : Type} (a : α) (s : Session σ) : (pure a : ManagerM σ α) s = (.ok a, s) :=
  rfl

theorem run_get (s : Session σ) : (get : ManagerM σ (Session σ)) s = (.ok s, s) := rfl

theorem run_ask {α : Type} (question : σ → Except MigrationError α) (s : Session σ) :
    ask question s = (question s.store, s) := rfl

theorem run_perform {α : Type} (deed : σ → Except MigrationError α × σ) (s : Session σ) :
    perform deed s = ((deed s.store).1, { s with store := (deed s.store).2 }) := rfl

theorem run_lift {α : Type} (result : Except MigrationError α) (s : Session σ) :
    lift result s = (result, s) := rfl

end Session

end SchemaShift
