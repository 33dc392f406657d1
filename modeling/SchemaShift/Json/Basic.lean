import SchemaShift.Text.Integer

/-!
# JSON values

An object keeps its members in the order they were written, repeated names included. A
value whose text follows the grammar and yet names nothing (half of a surrogate pair, a
number beyond every double) is `unreadable`: it may stand where nobody looks at it.
-/

namespace SchemaShift

inductive Json where
  | null
  | bool (b : Bool)
  /-- An integer that fits a machine word, signed or unsigned. -/
  | int (n : Int)
  /-- Any other number, by the bit pattern of the double it is read as. -/
  | float (bits : UInt64)
  | string (s : String)
  | array (items : List Json)
  | object (members : List (String × Json))
  | unreadable

namespace Json

instance : Inhabited Json := ⟨.null⟩

/-! ### Writing domain values -/

def ofInt64 (n : Int64) : Json :=
  .int n.toInt

def ofOption {α : Type} (write : α → Json) : Option α → Json
  | none => .null
  | some a => write a

def ofList {α : Type} (write : α → Json) (as : List α) : Json :=
  .array (as.map write)

/-! ### Reading domain values -/

def string? : Json → Option String
  | .string s => some s
  | _ => none

def bool? : Json → Option Bool
  | .bool b => some b
  | _ => none

def int64? : Json → Option Int64
  | .int n => Text.asInt64? n
  | _ => none

def option? {α : Type} (read : Json → Option α) : Json → Option (Option α)
  | .null => some none
  | j => (read j).map some

/-- Reads every item; one that cannot be read spoils the list. -/
def items? {α : Type} (read : Json → Option α) : List Json → Option (List α)
  | [] => some []
  | j :: js => do
    let a ← read j
    let as ← items? read js
    return a :: as

def list? {α : Type} (read : Json → Option α) : Json → Option (List α)
  | .array js => items? read js
  | _ => none

def members? {α : Type} (read : Json → Option α) :
    List (String × Json) → Option (List (String × α))
  | [] => some []
  | (name, j) :: rest => do
    let a ← read j
    let as ← members? read rest
    return (name, a) :: as

/-! ### Records -/

abbrev Record := List (String × Json)

/-- The members of a record with the fields `names`. An object may hold other members too,
but no field twice. An array holds the fields in order; only those past the first `needed`
may be missing from it. -/
def record? (names : List String) (needed : Nat) : Json → Option Record
  | .object members =>
    if names.all fun name => (members.filter fun m => m.1 == name).length ≤ 1 then some members
    else none
  | .array items =>
    if needed ≤ items.length ∧ items.length ≤ names.length then some (names.zip items) else none
  | _ => none

namespace Record

def find? (r : Record) (name : String) : Option Json :=
  (List.find? (fun m => m.1 == name) r).map (·.2)

/-- A field that has to be there. -/
def field {α : Type} (r : Record) (name : String) (read : Json → Option α) : Option α :=
  (r.find? name).bind read

/-- A field that may be missing, which counts as null. -/
def optional {α : Type} (r : Record) (name : String) (read : Json → Option α) :
    Option (Option α) :=
  option? read ((r.find? name).getD .null)

/-- A field that is `missing` when it is not there. -/
def fieldOr {α : Type} (r : Record) (name : String) (read : Json → Option α) (missing : α) :
    Option α :=
  match r.find? name with
  | none => some missing
  | some j => read j

end Record

/-! ### Variants -/

/-- A variant without a value: its name, or an object that gives the name a null. -/
def plainVariant? : Json → Option String
  | .string name => some name
  | .object [(name, .null)] => some name
  | _ => none

/-- A variant with a value: an object with that one member. -/
def variant? : Json → Option (String × Json)
  | .object [(name, j)] => some (name, j)
  | _ => none

end Json

end SchemaShift
