import SchemaShift.Text.Letters

/-!
# Functions

The functions that the engine knows, with the numbers of arguments they take.
-/

namespace SchemaShift.Store

open Text

inductive FunctionKind where
  /-- The value depends on the arguments alone. -/
  | steady
  /-- The value may change from one call to the next. -/
  | shifting
  /-- The value is that of many rows. -/
  | aggregate
  /-- The value depends on the neighbours of a row. -/
  | window
deriving DecidableEq

/-- Functions of one kind that take `least` to `most` arguments. -/
structure FunctionGroup where
  kind : FunctionKind
  least : Nat
  /-- None when there is no limit. -/
  most : Option Nat
  names : List String

def functionGroups : List FunctionGroup := [
  { kind := .steady, least := 0, most := none
    names := ["char", "date", "datetime", "format", "json_array", "json_extract", "json_insert",
      "json_object", "json_remove", "json_replace", "json_set", "jsonb_array", "jsonb_extract",
      "jsonb_insert", "jsonb_object", "jsonb_remove", "jsonb_replace", "jsonb_set", "julianday",
      "printf", "strftime", "time", "unixepoch"] },
  { kind := .steady, least := 1, most := some 1
    names := ["abs", "hex", "json", "json_error_position", "json_quote", "jsonb", "length",
      "likely", "lower", "octet_length", "quote", "sign", "soundex", "subtype", "typeof", "unicode",
      "unlikely", "upper", "zeroblob"] },
  { kind := .steady, least := 1, most := some 2
    names := ["json_array_length", "json_pretty", "json_type", "json_valid", "ltrim", "round",
      "rtrim", "trim", "unhex"] },
  { kind := .steady, least := 1, most := none, names := ["concat"] },
  { kind := .steady, least := 2, most := some 2
    names := ["->", "->>", "glob", "ifnull", "instr", "json_patch", "jsonb_patch", "likelihood",
      "nullif", "sqlite_log", "timediff"] },
  { kind := .steady, least := 2, most := some 3, names := ["like", "substr", "substring"] },
  { kind := .steady, least := 2, most := none, names := ["coalesce", "concat_ws", "max", "min"] },
  { kind := .steady, least := 3, most := some 3, names := ["iif", "replace"] },
  { kind := .shifting, least := 0, most := some 0
    names := ["changes", "current_date", "current_time", "current_timestamp", "last_insert_rowid",
      "random", "sqlite_source_id", "sqlite_version", "total_changes"] },
  { kind := .shifting, least := 1, most := some 1
    names := ["randomblob", "sqlite_compileoption_get", "sqlite_compileoption_used"] },
  { kind := .shifting, least := 1, most := some 2, names := ["load_extension"] },
  { kind := .shifting, least := 2, most := some 2, names := ["match"] },
  { kind := .aggregate, least := 0, most := some 1, names := ["count"] },
  { kind := .aggregate, least := 1, most := some 1
    names := ["avg", "json_group_array", "jsonb_group_array", "max", "min", "sum", "total"] },
  { kind := .aggregate, least := 1, most := some 2, names := ["group_concat"] },
  { kind := .aggregate, least := 2, most := some 2
    names := ["json_group_object", "jsonb_group_object", "string_agg"] },
  { kind := .window, least := 0, most := some 0
    names := ["cume_dist", "dense_rank", "percent_rank", "rank", "row_number"] },
  { kind := .window, least := 1, most := some 1, names := ["first_value", "last_value", "ntile"] },
  { kind := .window, least := 1, most := some 3, names := ["lag", "lead"] },
  { kind := .window, least := 2, most := some 2, names := ["nth_value"] }]

namespace FunctionGroup

def has (g : FunctionGroup) (name : String) : Bool :=
  g.names.any fun n => sameLetters n name

def takes (g : FunctionGroup) (count : Nat) : Bool :=
  g.least ≤ count && (g.most.map fun most => decide (count ≤ most)).getD true

end FunctionGroup

def isKnownFunction (name : String) : Bool :=
  functionGroups.any fun g => g.has name

def functionKind? (name : String) (count : Nat) : Option FunctionKind :=
  (functionGroups.find? fun g => g.has name && g.takes count).map (·.kind)

end SchemaShift.Store
