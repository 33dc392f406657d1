import SchemaShift.Output.SourceLiteral
import SchemaShift.Proofs.Ddl.OneLine
import SchemaShift.Proofs.Ddl.QuotedText

/-!
# Literals of generated source read back

A reader of Rust string literals takes one off the front of a line. It gives back the text that
the literal was written for and stops right behind it, whatever characters the text is made of,
and no literal breaks the line that it stands on.
-/

namespace SchemaShift.Output

open Text

/-! ### The reader -/

def hexValue? (c : Char) : Option Nat :=
  if c.isDigit then some (c.toNat - '0'.toNat)
  else if 'a' ≤ c ∧ c ≤ 'f' then some (c.toNat - 'a'.toNat + 10)
  else if 'A' ≤ c ∧ c ≤ 'F' then some (c.toNat - 'A'.toNat + 10)
  else none

def hexNumber? (digits : List Char) : Option Nat :=
  digits.foldlM (fun n c => (hexValue? c).map (16 * n + ·)) 0

/-- The character of a code point. Surrogates and numbers beyond the last code point have none. -/
def scalar? (n : Nat) : Option Char :=
  if n.isValidChar then some (Char.ofNat n) else none

/-- Reads one to six hexadecimal digits and the brace that closes them. -/
def readCodePoint (cs : List Char) : Option (Char × List Char) :=
  let digits := cs.takeWhile (· != '\x7d')
  match cs.dropWhile (· != '\x7d') with
  | [] => none
  | _ :: rest =>
    if digits.isEmpty || 6 < digits.length then none
    else ((hexNumber? digits).bind scalar?).map fun c => (c, rest)

/-- Reads what stands behind a backslash. -/
def readEscape : List Char → Option (Char × List Char)
  | '\'' :: cs => some ('\'', cs)
  | '"' :: cs => some ('"', cs)
  | '\\' :: cs => some ('\\', cs)
  | 'n' :: cs => some ('\n', cs)
  | 'r' :: cs => some ('\r', cs)
  | 't' :: cs => some ('\t', cs)
  | '0' :: cs => some ('\x00', cs)
  | 'x' :: a :: b :: cs =>
    ((hexNumber? [a, b]).filter (· < 0x80)).map fun n => (Char.ofNat n, cs)
  | 'u' :: '\x7b' :: cs => readCodePoint cs
  | _ => none

theorem readCodePoint_shorter {cs rest : List Char} {c : Char}
    (read : readCodePoint cs = some (c, rest)) : rest.length < cs.length := by
  have shorter := (List.dropWhile_suffix (l := cs) (· != '\x7d')).length_le
  unfold readCodePoint at read
  split at read
  · cases read
  · rename_i behind
    rw [behind, List.length_cons] at shorter
    dsimp only at read
    split at read
    · cases read
    · obtain ⟨d, -, same⟩ := Option.map_eq_some_iff.1 read
      cases same
      exact shorter

theorem readEscape_shorter {cs rest : List Char} {c : Char}
    (read : readEscape cs = some (c, rest)) : rest.length < cs.length := by
  unfold readEscape at read
  split at read
  case h_8 =>
    obtain ⟨d, -, same⟩ := Option.map_eq_some_iff.1 read
    cases same
    simp only [List.length_cons]
    omega
  case h_9 =>
    have shorter := readCodePoint_shorter read
    simp only [List.length_cons]
    omega
  case h_10 => cases read
  all_goals
    cases read
    simp

/-- What stands before the closing quote of a literal, and what follows it. -/
def readInside : List Char → Option (List Char × List Char)
  | [] => none
  | c :: cs =>
    if c = '"' then some ([], cs)
    else if c = '\\' then
      match read : readEscape cs with
      | none => none
      | some (d, rest) =>
        have := readEscape_shorter read
        readOn [d] (readInside rest)
    else readOn [c] (readInside cs)
termination_by cs => cs.length

/-- Takes a string literal off the front. -/
def readLiteral : List Char → Option (String × List Char)
  | '"' :: cs => (readInside cs).map fun (text, rest) => (String.ofList text, rest)
  | _ => none

/-! ### Hexadecimal digits -/

theorem hexValue?_digitChar : ∀ n < 16, hexValue? n.digitChar = some n := by
  decide

theorem hexNumber?_toDigits (n : Nat) : hexNumber? (Nat.toDigits 16 n) = some n := by
  induction n using Nat.strongRecOn with
  | ind n ih =>
    rw [Nat.toDigits_eq_if (by decide)]
    split
    · rename_i small
      simp [hexNumber?, hexValue?_digitChar n small]
    · have front := ih (n / 16) (by omega)
      have last := hexValue?_digitChar (n % 16) (by omega)
      rw [hexNumber?] at front ⊢
      rw [List.foldlM_append, front]
      simp only [List.foldlM_cons, List.foldlM_nil, last, Option.map_some, Option.bind_eq_bind,
        Option.bind_some, Nat.div_add_mod]
      rfl

theorem exists_digitChar {n : Nat} {c : Char} (member : c ∈ Nat.toDigits 16 n) :
    ∃ v < 16, v.digitChar = c := by
  induction n using Nat.strongRecOn with
  | ind n ih =>
    rw [Nat.toDigits_eq_if (by decide)] at member
    split at member
    · rename_i small
      exact ⟨n, small, (List.mem_singleton.1 member).symm⟩
    · rcases List.mem_append.1 member with front | last
      · exact ih (n / 16) (by omega) front
      · exact ⟨n % 16, by omega, (List.mem_singleton.1 last).symm⟩

theorem not_mem_toDigits {c : Char} (other : ∀ v < 16, Nat.digitChar v ≠ c) (n : Nat) :
    c ∉ Nat.toDigits 16 n := by
  intro member
  obtain ⟨v, small, same⟩ := exists_digitChar member
  exact other v small same

/-! ### Reading what was written -/

theorem readCodePoint_digits (c : Char) (tail : List Char) :
    readCodePoint (Nat.toDigits 16 c.toNat ++ '\x7d' :: tail) = some (c, tail) := by
  have brace : '\x7d' ∉ Nat.toDigits 16 c.toNat := not_mem_toDigits (by decide) c.toNat
  have digits : ∀ d ∈ Nat.toDigits 16 c.toNat, (d != '\x7d') = true := by
    intro d member
    rw [bne_iff_ne]
    rintro rfl
    exact brace member
  have some_digit : (Nat.toDigits 16 c.toNat).isEmpty = false := by
    rw [List.isEmpty_eq_false_iff]
    exact Nat.toDigits_ne_nil
  have few : (Nat.toDigits 16 c.toNat).length ≤ 6 := by
    have below : c.toNat < 0x110000 := by
      rcases c.valid with low | ⟨-, high⟩
      · exact Nat.lt_trans low (by decide)
      · exact high
    exact (Nat.length_toDigits_le_iff (by decide) (by decide)).2 (by omega)
  have scalar : scalar? c.toNat = some c := by
    have valid : c.toNat.isValidChar := c.valid
    rw [scalar?, if_pos valid, Char.ofNat_toNat]
  unfold readCodePoint
  rw [List.takeWhile_append_of_pos digits, List.dropWhile_append_of_pos digits,
    List.takeWhile_cons_of_neg (by simp), List.dropWhile_cons_of_neg (by simp), List.append_nil]
  simp [some_digit, few, hexNumber?_toDigits, scalar]

theorem readInside_quote (cs : List Char) : readInside ('"' :: cs) = some ([], cs) := by
  rw [readInside, if_pos rfl]

theorem readInside_escaped {cs rest : List Char} {c : Char}
    (read : readEscape cs = some (c, rest)) :
    readInside ('\\' :: cs) = readOn [c] (readInside rest) := by
  rw [readInside, if_neg (by decide), if_pos rfl]
  split
  · rename_i none
    rw [none] at read
    cases read
  · rename_i some
    rw [some] at read
    cases read
    rfl

theorem readInside_plain {c : Char} (quote : c ≠ '"') (backslash : c ≠ '\\') (cs : List Char) :
    readInside (c :: cs) = readOn [c] (readInside cs) := by
  rw [readInside, if_neg quote, if_neg backslash]

theorem readInside_escapeChar (c : Char) (tail : List Char) :
    readInside (escapeChar c ++ tail) = readOn [c] (readInside tail) := by
  unfold escapeChar
  split
  · subst c; exact readInside_escaped rfl
  split
  · subst c; exact readInside_escaped rfl
  split
  · subst c; exact readInside_escaped rfl
  split
  · subst c; exact readInside_escaped rfl
  split
  · subst c; exact readInside_escaped rfl
  split
  · subst c; exact readInside_escaped rfl
  split
  · have text : codePointEscape c ++ tail =
        '\\' :: 'u' :: '\x7b' :: (Nat.toDigits 16 c.toNat ++ '\x7d' :: tail) := by
      simp [codePointEscape]
    rw [text]
    exact readInside_escaped (readCodePoint_digits c tail)
  · rename_i quote backslash _ _ _ _ _
    exact readInside_plain quote backslash tail

theorem readInside_escapeChars (s tail : List Char) :
    readInside (s.flatMap escapeChar ++ tail) = readOn s (readInside tail) := by
  -- Each character is read off before the ones behind it: `readOn` puts it back in front of them.
  induction s with
  | nil => cases read : readInside tail <;> simp [readOn, read]
  | cons c s ih =>
    rw [List.flatMap_cons, List.append_assoc, readInside_escapeChar, ih, readOn_cons]

/-- A literal reads back as its text, and reading stops right behind it. -/
theorem readLiteral_sourceLiteral (s : String) (rest : List Char) :
    readLiteral ((sourceLiteral s).toList ++ rest) = some (s, rest) := by
  rw [sourceLiteral, String.toList_ofList, List.cons_append, readLiteral, List.append_assoc,
    List.singleton_append, readInside_escapeChars, readInside_quote]
  simp [readOn]

theorem newline_not_mem_escapeChar (c : Char) : '\n' ∉ escapeChar c := by
  have digits : '\n' ∉ Nat.toDigits 16 c.toNat := not_mem_toDigits (by decide) c.toNat
  unfold escapeChar
  split
  · decide
  split
  · decide
  split
  · decide
  split
  · decide
  split
  · decide
  split
  · decide
  split
  · simp [codePointEscape, digits]
  · rename_i newline _ _ _ _
    simpa [eq_comm] using newline

theorem oneLine_sourceLiteral (s : String) : OneLine (sourceLiteral s) := by
  simp [OneLine, Lacks, sourceLiteral, newline_not_mem_escapeChar]

end SchemaShift.Output
