import Mathlib.Data.List.DropRight
import SchemaShift.Proofs.Schema.Modifiers
import SchemaShift.Proofs.Text.Integer

/-!
# Declared types read back

A type may be declared in many spellings: in any letter case, with blanks around the whole, before
the parenthesis and around each argument, and with more text behind. Reading it gives the word and
the arguments of the spelling. A column keeps its type with the blanks around it cut off and without
capitals, and that form is read as the declaration was.
-/

namespace SchemaShift

namespace Text

/-! ### Letter case and blanks -/

theorem isBlank_toLower (c : Char) : isBlank c.toLower = isBlank c := by
  have letters : ∀ place : Fin 26, isBlank (Char.ofNat (65 + place)).toLower =
      isBlank (Char.ofNat (65 + place)) := by decide
  rcases toLower_cases c with ⟨kept, -⟩ | ⟨place, rfl⟩
  · rw [kept]
  · exact letters place

theorem lower_lower (s : String) : lower (lower s) = lower s := by
  refine String.toList_inj.1 ?_
  rw [toList_lower, toList_lower, List.map_map]
  exact List.map_congr_left fun c _ => toLower_toLower c

theorem strip_map_toLower (cs : List Char) :
    strip (cs.map Char.toLower) = (strip cs).map Char.toLower := by
  have same : isBlank ∘ Char.toLower = isBlank := funext isBlank_toLower
  simp only [strip, stripEnd, stripStart, List.dropWhile_map, ← List.map_reverse, same]

theorem lower_trim (s : String) : lower (trim s) = trim (lower s) := by
  refine String.toList_inj.1 ?_
  simp only [trim, lower, String.toList_ofList, strip_map_toLower]

theorem stripStart_strip (cs : List Char) : stripStart (strip cs) = strip cs := by
  refine List.dropWhile_eq_self_iff.2 fun some_left => ?_
  have front : strip cs <+: stripStart cs := List.rdropWhile_prefix isBlank (stripStart cs)
  have first := List.dropWhile_get_zero_not isBlank cs (some_left.trans_le front.length_le)
  rwa [front.getElem some_left]

theorem strip_strip (cs : List Char) : strip (strip cs) = strip cs := by
  have ends : stripEnd (strip cs) = strip cs := List.rdropWhile_idempotent isBlank (stripStart cs)
  rw [strip, stripStart_strip, ends]

theorem trim_trim (s : String) : trim (trim s) = trim s := by
  rw [trim, trim, String.toList_ofList, strip_strip]

theorem toLower_of_isDigit {c : Char} (digit : c.isDigit = true) : c.toLower = c := by
  have letters : ∀ place : Fin 26, (Char.ofNat (65 + place)).isDigit = false := by decide
  rcases toLower_cases c with ⟨kept, -⟩ | ⟨place, rfl⟩
  · exact kept
  · rw [letters place] at digit
    cases digit

theorem isBlank_of_isDigit {c : Char} (digit : c.isDigit = true) : isBlank c = false := by
  obtain ⟨low, high⟩ := Char.isDigit_iff_toNat.1 digit
  have zero : '0'.toNat = 48 := rfl
  have nine : '9'.toNat = 57 := rfl
  rw [Bool.eq_false_iff]
  intro blank
  simp only [isBlank, Bool.or_eq_true, Bool.and_eq_true, decide_eq_true_eq, beq_iff_eq] at blank
  omega

/-- Lower case brings in no character that is no letter. -/
theorem not_mem_lower {x : Char} (caseless : x.isAlpha = false) {t : String}
    (absent : x ∉ t.toList) : x ∉ (lower t).toList := by
  intro member
  rw [toList_lower] at member
  obtain ⟨c, listed, same⟩ := List.mem_map.1 member
  exact absent ((toLower_eq_iff caseless).1 same ▸ listed)

/-! ### Blanks around other characters -/

theorem stripEnd_append_cons {c : Char} (solid : isBlank c = false) (front rest : List Char) :
    stripEnd (front ++ c :: rest) = front ++ c :: stripEnd rest := by
  have kept : stripEnd (front ++ [c]) = front ++ [c] := stripEnd_concat_of_not_blank front solid
  unfold stripEnd at kept ⊢
  have backwards : (front ++ c :: rest).reverse = rest.reverse ++ (front ++ [c]).reverse := by simp
  rw [backwards, List.dropWhile_append]
  split
  · rename_i blank
    rw [kept, List.isEmpty_iff.1 blank]
    rfl
  · simp

theorem strip_surrounded {front core back : List Char} (first : front.all isBlank = true)
    (last : back.all isBlank = true) (solid : ∀ c ∈ core, isBlank c = false)
    (nonempty : core ≠ []) : strip (front ++ (core ++ back)) = core := by
  obtain ⟨c, rest, rfl⟩ := List.exists_cons_of_ne_nil nonempty
  have start : stripStart (c :: (rest ++ back)) = c :: (rest ++ back) :=
    stripStart_cons_of_not_blank _ (solid c List.mem_cons_self)
  rw [strip, stripStart_append _ _ first, List.cons_append, start, ← List.cons_append,
    stripEnd_append _ _ last]
  refine List.rdropWhile_eq_self_iff.2 fun _ => ?_
  rw [Bool.not_eq_true]
  exact solid _ (List.getLast_mem _)

theorem firstWord_append {word gap : List Char} (solid : ∀ c ∈ word, isBlank c = false)
    (nonempty : word ≠ []) (blank : gap.all isBlank = true) : firstWord (word ++ gap) = word := by
  obtain ⟨c, rest, rfl⟩ := List.exists_cons_of_ne_nil nonempty
  have start : stripStart (c :: (rest ++ gap)) = c :: (rest ++ gap) :=
    stripStart_cons_of_not_blank _ (solid c List.mem_cons_self)
  have behind : gap.takeWhile (fun c => !isBlank c) = [] := by
    cases gap with
    | nil => rfl
    | cons d gap =>
      have first : isBlank d = true := List.all_eq_true.1 blank d List.mem_cons_self
      exact List.takeWhile_cons_of_neg (by simp [first])
  rw [firstWord, List.cons_append, start, ← List.cons_append,
    List.takeWhile_append_of_pos fun d member => by simp [solid d member], behind, List.append_nil]

theorem splitOn_free {sep : Char} {piece : List Char} (free : sep ∉ piece) :
    splitOn sep piece = [piece] := by
  induction piece with
  | nil => rfl
  | cons c piece ih =>
    rw [List.mem_cons, not_or] at free
    rw [splitOn, if_neg (Ne.symm free.1), ih free.2]

end Text

open Text

namespace DeclaredType

/-! ### Parts of a declaration -/

theorem beforeLast?_append {c : Char} {rest : List Char} (free : c ∉ rest) (front : List Char) :
    beforeLast? c (front ++ c :: rest) = some front := by
  have others : ∀ d ∈ rest.reverse, (d != c) = true := by
    intro d member
    rw [bne_iff_ne]
    rintro rfl
    exact free (List.mem_reverse.1 member)
  have backwards : (front ++ c :: rest).reverse = rest.reverse ++ c :: front.reverse := by simp
  rw [beforeLast?, if_pos (by simp), backwards, List.dropWhile_append_of_pos others,
    List.dropWhile_cons_of_neg (by simp), List.drop_one, List.tail_cons, List.reverse_reverse]

theorem unopened {front : List Char} (free : '(' ∉ front) : ∀ c ∈ front, (c != '(') = true := by
  intro c member
  rw [bne_iff_ne]
  rintro rfl
  exact free member

theorem takeWhile_unopened {front : List Char} (free : '(' ∉ front) (rest : List Char) :
    (front ++ '(' :: rest).takeWhile (· != '(') = front := by
  rw [List.takeWhile_append_of_pos (unopened free), List.takeWhile_cons_of_neg (by decide),
    List.append_nil]

theorem argumentText_append {front rest : List Char} (unopened_front : '(' ∉ front)
    (unclosed_rest : ')' ∉ rest) (args : List Char) :
    argumentText (front ++ '(' :: (args ++ ')' :: rest)) = args := by
  rw [argumentText, List.dropWhile_append_of_pos (unopened unopened_front),
    List.dropWhile_cons_of_neg (by decide), List.drop_one, List.tail_cons,
    beforeLast?_append unclosed_rest]

end DeclaredType

/-! ### Spellings -/

/-- Blanks, or nothing at all. -/
structure Blanks where
  text : String
  blank : allBlank text = true

/-- An argument in decimal, with blanks around it. -/
structure SpelledArgument where
  before : Blanks
  value : Int64
  after : Blanks

def SpelledArgument.text (a : SpelledArgument) : String :=
  a.before.text ++ intText a.value.toInt ++ a.after.text

/-- A declared type: a word, arguments in parentheses, and more text. -/
structure TypeSpelling where
  before : Blanks
  word : String
  gap : Blanks
  arguments : List SpelledArgument
  suffix : String
  after : Blanks
  nonempty : word ≠ ""
  solid : ∀ c ∈ word.toList, isBlank c = false
  unopened : '(' ∉ word.toList
  unclosed : ')' ∉ suffix.toList

def TypeSpelling.text (s : TypeSpelling) : String :=
  s.before.text ++ s.word ++ s.gap.text ++ "(" ++ join "," (s.arguments.map (·.text)) ++ ")" ++
    s.suffix ++ s.after.text

theorem Blanks.toLower (b : Blanks) : b.text.toList.map Char.toLower = b.text.toList :=
  toLower_blanks (List.all_eq_true.1 b.blank)

namespace SpelledArgument

variable (a : SpelledArgument)

theorem mem_text {c : Char} (member : c ∈ a.text.toList) :
    isBlank c = true ∨ c.isDigit = true ∨ c = '-' := by
  rw [text, String.toList_append, String.toList_append] at member
  rcases List.mem_append.1 member with front | last
  · rcases List.mem_append.1 front with first | number
    · exact .inl (List.all_eq_true.1 a.before.blank c first)
    · exact .inr (mem_intText number)
  · exact .inl (List.all_eq_true.1 a.after.blank c last)

theorem comma_not_mem_text : ',' ∉ a.text.toList := by
  intro member
  rcases a.mem_text member with blank | digit | sign
  · cases blank
  · cases digit
  · cases sign

theorem toLower_text : a.text.toList.map Char.toLower = a.text.toList := by
  have each : ∀ c ∈ a.text.toList, c.toLower = id c := by
    intro c member
    rcases a.mem_text member with blank | digit | rfl
    · exact toLower_of_isBlank blank
    · exact toLower_of_isDigit digit
    · rfl
  rw [List.map_congr_left each, List.map_id]

theorem read_text : int64? (strip a.text.toList) = some a.value := by
  have solid : ∀ c ∈ (intText a.value.toInt).toList, isBlank c = false := by
    intro c member
    rcases mem_intText member with digit | rfl
    · exact isBlank_of_isDigit digit
    · rfl
  have number := strip_surrounded a.before.blank a.after.blank solid (intText_ne_nil _)
  rw [text, String.toList_append, String.toList_append, List.append_assoc, number,
    int64?_intText]

/-- The arguments with commas in between. -/
def listed (as : List SpelledArgument) : List Char :=
  (join "," (as.map (·.text))).toList

theorem listed_cons_cons (a b : SpelledArgument) (rest : List SpelledArgument) :
    listed (a :: b :: rest) = a.text.toList ++ ',' :: listed (b :: rest) := by
  simp [listed, join]

theorem read_listed : ∀ as : List SpelledArgument,
    ((splitOn ',' (listed as)).filterMap fun t => int64? (strip t)) = as.map (·.value)
  | [] => rfl
  | [a] => by
    rw [listed, List.map_singleton, join, splitOn_free a.comma_not_mem_text]
    simp only [List.filterMap_cons, List.filterMap_nil, a.read_text, List.map_singleton]
  | a :: b :: rest => by
    have later := read_listed (b :: rest)
    rw [listed_cons_cons, splitOn_append a.comma_not_mem_text]
    simp only [List.filterMap_cons, a.read_text, later, List.map_cons]

theorem toLower_listed : ∀ as : List SpelledArgument,
    (listed as).map Char.toLower = listed as
  | [] => rfl
  | [a] => a.toLower_text
  | a :: b :: rest => by
    rw [listed_cons_cons, List.map_append, List.map_cons, a.toLower_text,
      toLower_listed (b :: rest)]
    rfl

end SpelledArgument

namespace TypeSpelling

variable (s : TypeSpelling)

theorem toList_lower_text : (lower s.text).toList = s.before.text.toList ++
    ((lower s.word).toList ++ (s.gap.text.toList ++ '(' :: (SpelledArgument.listed s.arguments ++
      ')' :: ((lower s.suffix).toList ++ s.after.text.toList)))) := by
  have arguments := SpelledArgument.toLower_listed s.arguments
  rw [SpelledArgument.listed] at arguments ⊢
  rw [toList_lower, text]
  simp only [String.toList_append, List.map_append, s.before.toLower, s.gap.toLower,
    s.after.toLower, arguments, toList_lower, List.append_assoc]
  rfl

theorem solid_lower_word : ∀ c ∈ (lower s.word).toList, isBlank c = false := by
  intro c member
  rw [toList_lower] at member
  obtain ⟨d, listed, rfl⟩ := List.mem_map.1 member
  rw [isBlank_toLower]
  exact s.solid d listed

theorem lower_word_nonempty : (lower s.word).toList ≠ [] := by
  rw [toList_lower, ne_eq, List.map_eq_nil_iff]
  exact fun empty => s.nonempty (String.toList_inj.1 empty)

/-- What is left of a spelling once its letters are small and the blanks around it are gone. -/
theorem strip_lower_text : ∃ rest, ')' ∉ rest ∧ strip (lower s.text).toList =
    ((lower s.word).toList ++ s.gap.text.toList) ++ '(' ::
      (SpelledArgument.listed s.arguments ++ ')' :: rest) := by
  obtain ⟨c, word, first⟩ := List.exists_cons_of_ne_nil s.lower_word_nonempty
  have solid : isBlank c = false :=
    s.solid_lower_word c (first ▸ List.mem_cons_self)
  refine ⟨stripEnd (lower s.suffix).toList, ?_, ?_⟩
  · intro closing
    have kept : stripEnd (lower s.suffix).toList <+: (lower s.suffix).toList :=
      List.rdropWhile_prefix isBlank _
    exact not_mem_lower (by decide) s.unclosed (kept.subset closing)
  · -- The parenthesis that closes the arguments keeps the end of the blanks away from them.
    have front : ∀ inner : List Char, (lower s.word).toList ++ (s.gap.text.toList ++ '(' ::
        (SpelledArgument.listed s.arguments ++ inner)) =
        ((lower s.word).toList ++ (s.gap.text.toList ++ '(' ::
          SpelledArgument.listed s.arguments)) ++ inner := by
      intro inner
      simp
    rw [toList_lower_text, strip, stripStart_append _ _ s.before.blank, first, List.cons_append,
      stripStart_cons_of_not_blank _ solid, ← List.cons_append, ← first, front,
      stripEnd_append_cons (by decide), stripEnd_append _ _ s.after.blank, ← front,
      List.append_assoc]

theorem parse_text : DeclaredType.parse s.text =
    { base := lower s.word, args := s.arguments.map (·.value) } := by
  obtain ⟨rest, unclosed, stripped⟩ := s.strip_lower_text
  have opening : '(' ∉ (lower s.word).toList ++ s.gap.text.toList := by
    rw [List.mem_append, not_or]
    refine ⟨not_mem_lower (by decide) s.unopened, fun member => ?_⟩
    cases List.all_eq_true.1 s.gap.blank '(' member
  rw [toList_lower] at stripped
  unfold DeclaredType.parse
  rw [stripped]
  dsimp only
  rw [DeclaredType.takeWhile_unopened opening,
    firstWord_append s.solid_lower_word s.lower_word_nonempty s.gap.blank,
    DeclaredType.argumentText_append opening unclosed, SpelledArgument.read_listed,
    String.ofList_toList]

end TypeSpelling

/-! ### Columns -/

namespace DeclaredType

theorem parse_of_sameLetters {a b : String} (letters : sameLetters a b = true) :
    parse a = parse b := by
  have same := congrArg String.toList (beq_iff_eq.1 letters)
  rw [toList_lower, toList_lower] at same
  unfold parse
  rw [same]

theorem parse_lower_trim (declared : String) : parse (lower (trim declared)) = parse declared := by
  have lowered : sameLetters (lower (trim declared)) (trim declared) = true :=
    beq_iff_eq.2 (lower_lower _)
  have trimmed : strip ((trim declared).toList.map Char.toLower) =
      strip (declared.toList.map Char.toLower) := by
    rw [strip_map_toLower, strip_map_toLower, trim, String.toList_ofList, strip_strip]
  rw [parse_of_sameLetters lowered]
  unfold parse
  rw [trimmed]

end DeclaredType

namespace Column

theorem columnType_fixed (name other declared : String) :
    (ofType other (ofType name declared).columnType).columnType =
      (ofType name declared).columnType := by
  show lower (trim (lower (trim declared))) = lower (trim declared)
  rw [← lower_trim, trim_trim, lower_lower]

/-- A column made from the type that a column has kept is like one made from the declaration. -/
theorem ofType_columnType (name other declared : String) :
    ofType other (ofType name declared).columnType = ofType other declared := by
  have fixed : lower (trim (lower (trim declared))) = lower (trim declared) :=
    columnType_fixed name other declared
  show ofType other (lower (trim declared)) = ofType other declared
  unfold ofType
  rw [fixed]

end Column

/-- Every spelling of a type, in any letter case, is read as the word and the arguments it spells,
and so is what a column keeps of it. What a column keeps of any declaration stays as it is, with
all that is worked out from it, when a column is declared by it again. -/
theorem TypeSpelling.parse_spelled (s : TypeSpelling) {declared : String}
    (letters : sameLetters declared s.text = true) :
    DeclaredType.parse declared = { base := lower s.word, args := s.arguments.map (·.value) } ∧
    (∀ name, (Column.ofType name declared).dataType = lower s.word ∧
      DeclaredType.parse (Column.ofType name declared).columnType =
        { base := lower s.word, args := s.arguments.map (·.value) }) ∧
    ∀ name other plain : String,
      let c := Column.ofType name plain
      let again := Column.ofType other c.columnType
      again.columnType = c.columnType ∧ again.dataType = c.dataType ∧
        again.charLength = c.charLength ∧ again.numericPrecision = c.numericPrecision ∧
        again.numericScale = c.numericScale ∧ again.datetimePrecision = c.datetimePrecision := by
  have read := (DeclaredType.parse_of_sameLetters letters).trans s.parse_text
  refine ⟨read, fun name => ?_, fun name other plain => ?_⟩
  · have kept : DeclaredType.parse (Column.ofType name declared).columnType =
        { base := lower s.word, args := s.arguments.map (·.value) } :=
      (DeclaredType.parse_lower_trim declared).trans read
    exact ⟨congrArg DeclaredType.base kept, kept⟩
  · dsimp only
    rw [Column.ofType_columnType]
    exact ⟨rfl, rfl, rfl, rfl, rfl, rfl⟩

/-- A decimal with blanks of several kinds, the least argument there is, and a loose parenthesis
behind. -/
def priceSpelling : TypeSpelling where
  before := ⟨" ", by decide⟩
  word := "decimal"
  gap := ⟨"\u3000", by decide⟩
  arguments := [⟨⟨"", by decide⟩, 10, ⟨" ", by decide⟩⟩,
    ⟨⟨"\t", by decide⟩, -9223372036854775808, ⟨"", by decide⟩⟩]
  suffix := " unsigned ("
  after := ⟨"\n", by decide⟩
  nonempty := by decide
  solid := by
    have letters : "decimal".toList.all (fun c => !isBlank c) = true := by decide
    simpa only [List.all_eq_true, Bool.not_eq_true'] using letters
  unopened := by decide
  unclosed := by decide

theorem price_parse_spelled :
    let declared := " DECIMAL\u3000(10 ,\t-9223372036854775808) Unsigned (\n"
    let read : DeclaredType := { base := "decimal", args := [10, -9223372036854775808] }
    sameLetters declared priceSpelling.text = true ∧ DeclaredType.parse declared = read ∧
      (∀ name, (Column.ofType name declared).dataType = "decimal" ∧
        DeclaredType.parse (Column.ofType name declared).columnType = read) ∧
      (Column.ofType "cost" (Column.ofType "price" declared).columnType).columnType =
        (Column.ofType "price" declared).columnType := by
  intro declared read
  have letters : sameLetters declared priceSpelling.text = true := by decide
  have word : lower priceSpelling.word = "decimal" := by decide
  obtain ⟨parsed, kept, fixed⟩ := priceSpelling.parse_spelled letters
  rw [word] at parsed kept
  exact ⟨letters, parsed, kept, (fixed "price" "cost" declared).1⟩

end SchemaShift
