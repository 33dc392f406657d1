import SchemaShift.Ddl.MySql
import SchemaShift.Ddl.Sqlite

/-!
# Reading quoted texts

A reader of quoted texts takes one off the front of a statement. It gives back the text that was
quoted and stops right behind it: no text gets out of its quotes, whatever characters it is made
of, and only a further quote behind it would be taken for a part of it.
-/

namespace SchemaShift

open Text

/-- Reading undoes the quoting and leaves what follows, unless a `q` follows. -/
def ReadsBack (q : Char) (read : List Char → Option (List Char × List Char))
    (quoted : String → String) : Prop :=
  ∀ s rest, read ((quoted s).toList ++ rest) = some (s.toList, rest) ↔ rest.head? ≠ some q

/-- A reader that stands inside a quoted text has read `s` and goes on. -/
def readOn (s : List Char) (more : Option (List Char × List Char)) :
    Option (List Char × List Char) :=
  more.map fun (t, rest) => (s ++ t, rest)

theorem readOn_cons (c : Char) (s : List Char) (more : Option (List Char × List Char)) :
    readOn [c] (readOn s more) = readOn (c :: s) more := by
  cases more <;> rfl

theorem readOn_eq_some_iff (s rest : List Char) (more : Option (List Char × List Char)) :
    readOn s more = some (s, rest) ↔ more = some ([], rest) := by
  simp [readOn, Option.map_eq_some_iff, Prod.ext_iff]

/-! ### Doubled quotes -/

namespace Text

theorem readToClose_cons_of_ne {q c : Char} (different : c ≠ q) (cs : List Char) :
    readToClose q (c :: cs) = readOn [c] (readToClose q cs) := by
  cases cs with
  | nil => simp [readToClose, readOn, different]
  | cons d cs => rw [readToClose, if_neg different]; rfl

theorem readToClose_doubled (q : Char) (cs : List Char) :
    readToClose q (q :: q :: cs) = readOn [q] (readToClose q cs) := by
  rw [readToClose, if_pos rfl, if_pos rfl]
  rfl

/-- The reader goes through a text with doubled quotes and is then where that text ends. -/
theorem readToClose_double (q : Char) (s tail : List Char) :
    readToClose q (double q s ++ tail) = readOn s (readToClose q tail) := by
  induction s with
  | nil => cases tail_read : readToClose q tail <;> simp [double, readOn, tail_read]
  | cons c s ih =>
    rw [← readOn_cons, ← ih]
    by_cases same : c = q
    · subst same
      rw [double, if_pos rfl, List.cons_append, List.cons_append, readToClose_doubled]
    · rw [double, if_neg same, List.cons_append, readToClose_cons_of_ne same]

/-- The closing quote ends a text exactly if it is not doubled. -/
theorem readToClose_close_iff (q : Char) (rest : List Char) :
    readToClose q (q :: rest) = some ([], rest) ↔ rest.head? ≠ some q := by
  cases rest with
  | nil => simp [readToClose]
  | cons d rest =>
    by_cases same : d = q
    · subst same
      simp [readToClose_doubled, readOn]
    · simp [readToClose, same]

theorem readQuoted_quote (q : Char) : ReadsBack q (readQuoted q) (quote q) := by
  intro s rest
  have opened : readQuoted q ((quote q s).toList ++ rest) =
      readOn s.toList (readToClose q (q :: rest)) := by
    rw [quote, String.toList_ofList, List.cons_append, readQuoted, if_pos rfl, List.append_assoc,
      List.singleton_append, readToClose_double]
  rw [opened, readOn_eq_some_iff, readToClose_close_iff]

end Text

/-! ### Escaped characters -/

namespace MySql

/-- What a backslash and the character after it stand for. Before a wildcard the backslash
stays. -/
def unescape : Char → List Char
  | '0' => ['\x00']
  | 'b' => ['\x08']
  | 'n' => ['\n']
  | 'r' => ['\r']
  | 't' => ['\t']
  | 'Z' => ['\x1a']
  | '%' => ['\\', '%']
  | '_' => ['\\', '_']
  | c => [c]

/-- What stands before the closing quote of a string literal, and what follows it. -/
def readInside : List Char → Option (List Char × List Char)
  | [] => none
  | '\\' :: [] => none
  | '\\' :: c :: cs => readOn (unescape c) (readInside cs)
  | '\'' :: '\'' :: cs => readOn ['\''] (readInside cs)
  | '\'' :: cs => some ([], cs)
  | c :: cs => readOn [c] (readInside cs)

def readString : List Char → Option (List Char × List Char)
  | '\'' :: cs => readInside cs
  | _ => none

theorem readInside_plain {c : Char} (quote : c ≠ '\'') (backslash : c ≠ '\\')
    (cs : List Char) : readInside (c :: cs) = readOn [c] (readInside cs) := by
  simp [readInside, quote, backslash]

theorem readInside_escape (c : Char) (tail : List Char) :
    readInside (escape c ++ tail) = readOn [c] (readInside tail) := by
  unfold escape
  split
  · subst c; rfl
  split
  · subst c; rfl
  split
  · subst c; rfl
  split
  · subst c; rfl
  split
  · subst c; rfl
  · rename_i quote backslash _ _ _
    exact readInside_plain quote backslash tail

/-- The reader goes through an escaped text and is then where that text ends. -/
theorem readInside_escaped (s tail : List Char) :
    readInside (s.flatMap escape ++ tail) = readOn s (readInside tail) := by
  induction s with
  | nil => cases tail_read : readInside tail <;> simp [readOn, tail_read]
  | cons c s ih => rw [List.flatMap_cons, List.append_assoc, readInside_escape, ih, readOn_cons]

theorem readInside_close_iff (rest : List Char) :
    readInside ('\'' :: rest) = some ([], rest) ↔ rest.head? ≠ some '\'' := by
  cases rest with
  | nil => simp [readInside]
  | cons d rest =>
    by_cases same : d = '\''
    · subst same
      simp [readInside, readOn]
    · simp [readInside, same]

theorem readString_quoteString : ReadsBack '\'' readString quoteString := by
  intro s rest
  have opened : readString ((quoteString s).toList ++ rest) =
      readOn s.toList (readInside ('\'' :: rest)) := by
    rw [quoteString, String.toList_ofList, List.cons_append, readString, List.append_assoc,
      List.singleton_append, readInside_escaped]
  rw [opened, readOn_eq_some_iff, readInside_close_iff]

end MySql

/-- Identifiers and literals of both databases read back as what was quoted, and reading stops at
their closing quotes. -/
theorem quoted_readsBack :
    ReadsBack '`' (readQuoted '`') MySql.quoteIdentifier ∧
      ReadsBack '"' (readQuoted '"') Sqlite.quoteIdentifier ∧
      ReadsBack '\'' (readQuoted '\'') quoteLiteral ∧
      ReadsBack '\'' MySql.readString MySql.quoteString :=
  ⟨readQuoted_quote '`', readQuoted_quote '"', readQuoted_quote '\'',
    MySql.readString_quoteString⟩

end SchemaShift
