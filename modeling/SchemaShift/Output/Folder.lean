import SchemaShift.Output.DiffFile
import SchemaShift.Output.UnitSource
import SchemaShift.Schema.NameMap

/-!
# Folders of output files

A folder holds files by their paths, with a slash between the parts of a path. A directory
exists as soon as something lies below it; a file never serves as a directory.

A path is walked part by part, and what is missing on the way is made. A `..` therefore
needs the part before it to be a directory, although it leads out of it again.
-/

namespace SchemaShift.Output

open Text

/-- A directory, by the names that lead to it from the folder. In front of them stands one
`..` for each step that leads out of the folder, or an empty name when they start at the root
of the file system. -/
abbrev Place := List String

/-- The directory that holds this one; the root holds itself. -/
def Place.above (p : Place) : Place :=
  match p.getLast? with
  | none => [".."]
  | some part =>
    if part = ".." then p ++ [part]
    else if part = "" then p
    else p.dropLast

/-- The longest name, in bytes, that a file or a directory may have. -/
def longestName : Nat := 255

/-- The longest path, in bytes, that may lead to a file. The whole path from the root of the
file system may have 4095, of which the folder itself takes 16. -/
def longestPath : Nat := 4079

def isUsableName (name : String) : Bool :=
  name.utf8ByteSize ≤ longestName && !name.toList.contains '\x00'

structure Folder where
  files : NameMap String
deriving DecidableEq

namespace Folder

def empty : Folder := { files := .empty }

def isFile (f : Folder) (parts : List String) : Bool :=
  f.files.contains (Text.join "/" parts)

def isDirectory (f : Folder) (parts : List String) : Bool :=
  f.files.keys.any fun path => Text.startsWith path (Text.join "/" parts ++ "/")

/-- Walks from `p` along the parts of a path. `made` holds the directories made so far; with
`standing`, the last of the parts is not made. -/
def walk (f : Folder) (standing : Bool) (made : List Place) (p : Place) :
    List String → Option Place
  | [] => some p
  | part :: rest =>
    if part = "." then walk f standing made p rest
    else if part = ".." then walk f standing made p.above rest
    else
      let next := p ++ [part]
      if !isUsableName part || f.isFile next then none
      else if standing && rest.isEmpty && !f.isDirectory next && !made.contains next then none
      else walk f standing (next :: made) next rest

/-- The directory that a path leads to. A `.` at its end leads nowhere, but the directory
before it must be there already. -/
def reach (f : Folder) (path : String) : Option Place :=
  let parts := ((splitOn '/' path.toList).map String.ofList).filter fun part => !part.isEmpty
  let named := (parts.reverse.dropWhile fun part => part == ".").reverse
  let start := if Text.startsWith path "/" then [""] else []
  f.walk (named.length < parts.length) [] start named

/-- The path of a file in a directory, as it is reported. -/
def place (directory name : String) : String :=
  if directory = "" ∨ directory.toList.getLast? = some '/' then directory ++ name
  else directory ++ "/" ++ name

/-- Writes a file into a directory, which is made if need be, in place of a file of that
name. -/
def write (f : Folder) (directory name contents : String) : Option Folder :=
  match f.reach directory with
  | none => none
  | some p =>
    let target := p ++ [name]
    if !isUsableName name || f.isDirectory target then none
    else if longestPath < (place directory name).utf8ByteSize then none
    else some { files := f.files.insert (Text.join "/" target) contents }

def writeDiff (f : Folder) (directory : String) (h : DiffHeader) (statements : List Statement) :
    Option Folder :=
  f.write directory h.fileName (diffFile h statements)

def writeUnit (f : Folder) (directory : String) (t : UnitTemplate) : Option Folder :=
  f.write directory t.fileName t.source

end Folder

end SchemaShift.Output
