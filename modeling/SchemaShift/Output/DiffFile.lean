import SchemaShift.Calendar.Civil
import SchemaShift.Ddl.Statement
import SchemaShift.Query.Inline

/-!
# Diff files

A diff file holds a header of comments, a blank line, and one statement per line. A
semicolon ends each statement that is meant to be executed.
-/

namespace SchemaShift.Output

open Calendar

def toolVersion : String := "0.1.0"

structure DiffHeader where
  /-- The name of the database to change. -/
  source : String
  /-- The name of the reference database. -/
  target : String
  version : String
  created : Civil
deriving DecidableEq

def DiffHeader.fileName (h : DiffHeader) : String :=
  "ksql_diff_" ++ h.created.stamp ++ ".sql"

def DiffHeader.text (h : DiffHeader) : String :=
  "-- from: " ++ h.source ++ "\n-- to: " ++ h.target ++ "\n-- version: " ++ h.version ++
    "\n-- created: " ++ h.created.spaced ++ "\n\n"

/-- A statement has no placeholders to fill, so its text stands as it is. -/
def statementLine (s : Statement) : String :=
  inlineValues s.sql [] ++ (if s.isExecutable then ";" else "") ++ "\n"

def statementLines : List Statement → String
  | [] => ""
  | s :: rest => statementLine s ++ statementLines rest

def diffFile (h : DiffHeader) (statements : List Statement) : String :=
  h.text ++ statementLines statements

end SchemaShift.Output
