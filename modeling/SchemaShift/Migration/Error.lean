import SchemaShift.Connection.Error

/-!
# What goes wrong with schemas and migrations

Each error names its cause. `message` is the wording; it is missing where it would repeat a
wording of the operating system or of a library, which is not settled here.
-/

namespace SchemaShift

open Text

inductive MigrationError where
  | database (cause : DatabaseError)
  /-- A file or a directory could not be written. -/
  | file
  /-- A value could not be written as JSON or read from it. -/
  | encoding
  | connection (driver schemaName : String) (cause : DatabaseError)
  | unknownDriver (name : String)
  | duplicateId (id : UInt64)
  /-- The bookkeeping table has no room for the number `text`. -/
  | idOutOfRange (text : String)
  | unreadableTime (text : String)
  /-- A unit stopped with a message of its own. -/
  | unit (message : String)
  /-- The unit that ended a batch. -/
  | unitFailed (id : UInt64) (name : String) (cause : MigrationError)
deriving DecidableEq

namespace MigrationError

def message : MigrationError → Option String
  | .database cause => cause.text.map ("Database error: " ++ ·)
  | .file => none
  | .encoding => none
  | .connection driver schemaName cause => cause.text.map fun text =>
      "Cannot connect to " ++ driver ++ " database '" ++ schemaName ++ "': " ++ text
  | .unknownDriver name => some ("Unknown driver '" ++ name ++ "'")
  | .duplicateId id => some ("Migration " ++ natText id.toNat ++ " is already registered")
  | .idOutOfRange text =>
    some ("Migration id " ++ text ++ " is out of range for the bookkeeping table")
  | .unreadableTime text =>
    some ("Unreadable timestamp '" ++ text ++ "' in the bookkeeping table")
  | .unit message => some message
  | .unitFailed id name cause => cause.message.map fun text =>
      "Migration " ++ natText id.toNat ++ " (" ++ name ++ ") failed: " ++ text

/-- The wording of what lies behind the error, if it has a cause of its own. -/
def causeMessage : MigrationError → Option String
  | .database cause => cause.text
  | .connection _ _ cause => cause.text
  | .unitFailed _ _ cause => cause.message
  | _ => none

end MigrationError

end SchemaShift
