import Mathlib.Data.List.Induction
import SchemaShift.Query.Inline

/-!
# Placeholders outside quotes

Values are written into a text in one pass, which keeps the quote that is open and the values that
are left. `Outside` says without a pass where a text is outside quotes, and `placeholders` lists the
question marks there. Piece by piece, these take the values, first to first, and every other
character stays.
-/

namespace SchemaShift

/-! ### Places outside quotes -/

/-- Nothing is open before the character at a place: at the start, behind a character outside quotes
that opens none, and behind a quoted region. A region goes from the character that opens it to the
next one that is the same; without one there is no way out. -/
inductive Outside (cs : List Char) : Nat → Prop
  | start : Outside cs 0
  | plain {p : Nat} {c : Char} (before : Outside cs p) (here : cs[p]? = some c)
    (opensNone : opensQuote c = false) : Outside cs (p + 1)
  | region {p r : Nat} {q : Char} (before : Outside cs p) (opening : cs[p]? = some q)
    (opens : opensQuote q = true) (later : p < r) (closing : cs[r]? = some q)
    (next : ∀ k, p < k → k < r → cs[k]? ≠ some q) : Outside cs (r + 1)

def IsPlaceholder (cs : List Char) (p : Nat) : Prop :=
  cs[p]? = some '?' ∧ Outside cs p

/-! ### The open quote -/

def quoteStep (inside : Option Char) (c : Char) : Option Char :=
  match inside with
  | some q => if c = q then none else some q
  | none => if opensQuote c then some c else none

theorem quoteStep_eq_none_iff {inside : Option Char} {c : Char} :
    quoteStep inside c = none ↔ inside = none ∧ opensQuote c = false ∨ inside = some c := by
  cases inside with
  | none => simp [quoteStep]
  | some q => simp [quoteStep, @eq_comm _ q c]

theorem quoteStep_eq_some_iff {inside : Option Char} {c q : Char} :
    quoteStep inside c = some q ↔
      inside = none ∧ opensQuote q = true ∧ c = q ∨ inside = some q ∧ c ≠ q := by
  cases inside with
  | none =>
    simp only [quoteStep, Option.ite_none_right_eq_some, Option.some.injEq, true_and, reduceCtorEq,
      false_and, or_false]
    exact ⟨fun ⟨opens, same⟩ => ⟨same ▸ opens, same⟩, fun ⟨opens, same⟩ => ⟨same ▸ opens, same⟩⟩
  | some r =>
    simp only [quoteStep, Option.ite_none_left_eq_some, Option.some.injEq, reduceCtorEq, false_and,
      false_or]
    exact ⟨fun ⟨other, same⟩ => ⟨same, same ▸ other⟩, fun ⟨same, other⟩ => ⟨same ▸ other, same⟩⟩

/-- The quote that is open behind a text, where `inside` is open before it. -/
def quoteAfter (inside : Option Char) (cs : List Char) : Option Char :=
  cs.foldl quoteStep inside

theorem quoteAfter_append (inside : Option Char) (xs ys : List Char) :
    quoteAfter inside (xs ++ ys) = quoteAfter (quoteAfter inside xs) ys :=
  List.foldl_append

theorem quoteAfter_concat (inside : Option Char) (cs : List Char) (c : Char) :
    quoteAfter inside (cs ++ [c]) = quoteStep (quoteAfter inside cs) c :=
  quoteAfter_append inside cs [c]

/-- The quote that is open before the character at a place. -/
def quoteAt (cs : List Char) (p : Nat) : Option Char :=
  quoteAfter none (cs.take p)

theorem quoteAt_succ {cs : List Char} {p : Nat} {c : Char} (here : cs[p]? = some c) :
    quoteAt cs (p + 1) = quoteStep (quoteAt cs p) c := by
  rw [quoteAt, List.take_add_one, here, Option.toList_some, quoteAfter_concat, quoteAt]

/-- A region is open from its first character to the next one that is the same. -/
theorem quoteAt_region {cs : List Char} {p r : Nat} {q : Char} (outside : quoteAt cs p = none)
    (opening : cs[p]? = some q) (opens : opensQuote q = true)
    (next : ∀ k, p < k → k < r → cs[k]? ≠ some q) {k : Nat} (later : p < k) (short : k ≤ r)
    (inText : k ≤ cs.length) : quoteAt cs k = some q := by
  induction later with
  | refl =>
    rw [quoteAt_succ opening]
    exact quoteStep_eq_some_iff.2 (.inl ⟨outside, opens, rfl⟩)
  | @step k after ih =>
    have here : cs[k]? = some cs[k] := List.getElem?_eq_getElem inText
    have other : cs[k] ≠ q := fun same => next k after short (same ▸ here)
    rw [quoteAt_succ here]
    exact quoteStep_eq_some_iff.2
      (.inr ⟨ih (Nat.le_of_lt short) (Nat.le_of_lt inText), other⟩)

/-- An open quote was opened by a character outside quotes and did not occur since. -/
theorem exists_opening {cs : List Char} {p : Nat} {q : Char} (inText : p ≤ cs.length)
    (inside : quoteAt cs p = some q) :
    ∃ i < p, quoteAt cs i = none ∧ cs[i]? = some q ∧ opensQuote q = true ∧
      ∀ k, i < k → k < p → cs[k]? ≠ some q := by
  induction p with
  | zero => cases inside
  | succ p ih =>
    have here : cs[p]? = some cs[p] := List.getElem?_eq_getElem inText
    rw [quoteAt_succ here] at inside
    rcases quoteStep_eq_some_iff.1 inside with ⟨outside, opens, same⟩ | ⟨before, other⟩
    · exact ⟨p, Nat.lt_succ_self p, outside, same ▸ here, opens, fun k after short => by omega⟩
    · obtain ⟨i, earlier, outside, opening, opens, next⟩ := ih (Nat.le_of_lt inText) before
      refine ⟨i, Nat.lt_succ_of_lt earlier, outside, opening, opens, fun k after short => ?_⟩
      rcases Nat.lt_succ_iff_lt_or_eq.1 short with inner | rfl
      · exact next k after inner
      · rw [here, ne_eq, Option.some.injEq]
        exact other

theorem Outside.quoteAt {cs : List Char} {p : Nat} (outside : Outside cs p) :
    p ≤ cs.length ∧ quoteAt cs p = none := by
  induction outside with
  | start => exact ⟨Nat.zero_le _, rfl⟩
  | plain _ here opensNone ih =>
    obtain ⟨inText, -⟩ := List.getElem?_eq_some_iff.1 here
    rw [quoteAt_succ here]
    exact ⟨inText, quoteStep_eq_none_iff.2 (.inl ⟨ih.2, opensNone⟩)⟩
  | region _ opening opens later closing next ih =>
    obtain ⟨inText, -⟩ := List.getElem?_eq_some_iff.1 closing
    have inside := quoteAt_region ih.2 opening opens next later (Nat.le_refl _)
      (Nat.le_of_lt inText)
    rw [quoteAt_succ closing]
    exact ⟨inText, quoteStep_eq_none_iff.2 (.inr inside)⟩

theorem outside_of_quoteAt {cs : List Char} {p : Nat} (inText : p ≤ cs.length)
    (outside : quoteAt cs p = none) : Outside cs p := by
  -- The character before the place opens nothing, or it closes a region. Then the place where the
  -- region begins is outside quotes too.
  induction p using Nat.strongRecOn with
  | ind p ih =>
    cases p with
    | zero => exact .start
    | succ p =>
      have here : cs[p]? = some cs[p] := List.getElem?_eq_getElem inText
      rw [quoteAt_succ here] at outside
      rcases quoteStep_eq_none_iff.1 outside with ⟨before, opensNone⟩ | inside
      · exact .plain (ih p (Nat.lt_succ_self p) (Nat.le_of_lt inText) before) here opensNone
      · obtain ⟨i, earlier, free, opening, opens, next⟩ :=
          exists_opening (Nat.le_of_lt inText) inside
        have begun := ih i (Nat.lt_succ_of_lt earlier) (by omega) free
        exact .region begun opening opens earlier here next

theorem outside_iff {cs : List Char} {p : Nat} :
    Outside cs p ↔ p ≤ cs.length ∧ quoteAt cs p = none :=
  ⟨Outside.quoteAt, fun ⟨inText, outside⟩ => outside_of_quoteAt inText outside⟩

/-! ### The placeholders of a text -/

def isSlot (inside : Option Char) (c : Char) : Bool :=
  inside.isNone && c == '?'

theorem isSlot_iff {inside : Option Char} {c : Char} :
    isSlot inside c = true ↔ inside = none ∧ c = '?' := by
  simp [isSlot]

theorem isPlaceholder_iff {cs : List Char} {p : Nat} :
    IsPlaceholder cs p ↔ ∃ c, cs[p]? = some c ∧ isSlot (quoteAt cs p) c = true := by
  constructor
  · rintro ⟨here, outside⟩
    exact ⟨'?', here, isSlot_iff.2 ⟨(outside_iff.1 outside).2, rfl⟩⟩
  · rintro ⟨c, here, slot⟩
    obtain ⟨outside, rfl⟩ := isSlot_iff.1 slot
    obtain ⟨inText, -⟩ := List.getElem?_eq_some_iff.1 here
    exact ⟨here, outside_iff.2 ⟨Nat.le_of_lt inText, outside⟩⟩

instance (cs : List Char) (p : Nat) : Decidable (IsPlaceholder cs p) :=
  decidable_of_iff (cs[p]? = some '?' ∧ p ≤ cs.length ∧ quoteAt cs p = none)
    (and_congr_right fun _ => outside_iff.symm)

/-- The places of the placeholders, in their order. -/
def placeholders (cs : List Char) : List Nat :=
  (List.range cs.length).filter fun p => IsPlaceholder cs p

theorem lt_of_mem_placeholders {cs : List Char} {p : Nat} (member : p ∈ placeholders cs) :
    p < cs.length :=
  List.mem_range.1 (List.mem_filter.1 member).1

theorem placeholders_concat (cs : List Char) (c : Char) :
    placeholders (cs ++ [c]) =
      placeholders cs ++ if isSlot (quoteAfter none cs) c then [cs.length] else [] := by
  have earlier : ∀ p ∈ List.range cs.length,
      decide (IsPlaceholder (cs ++ [c]) p) = decide (IsPlaceholder cs p) := by
    intro p member
    have inText := List.mem_range.1 member
    rw [decide_eq_decide, isPlaceholder_iff, isPlaceholder_iff, quoteAt, quoteAt,
      List.getElem?_append_left inText, List.take_append_of_le_length (Nat.le_of_lt inText)]
  have last : decide (IsPlaceholder (cs ++ [c]) cs.length) = isSlot (quoteAfter none cs) c := by
    rw [Bool.eq_iff_iff, decide_eq_true_eq, isPlaceholder_iff, quoteAt,
      List.getElem?_concat_length, List.take_left]
    simp
  rw [placeholders, List.length_append, List.length_singleton, List.range_succ,
    List.filter_append, List.filter_congr earlier, ← placeholders, List.filter_cons,
    List.filter_nil, last]

/-- A text that ends outside quotes only moves the placeholders of the text behind it. -/
theorem placeholders_append {xs : List Char} (closed : quoteAfter none xs = none)
    (ys : List Char) :
    placeholders (xs ++ ys) = placeholders xs ++ (placeholders ys).map (xs.length + ·) := by
  induction ys using List.reverseRecOn with
  | nil => simp [placeholders]
  | append_singleton ys c ih =>
    rw [← List.append_assoc, placeholders_concat, ih, placeholders_concat, quoteAfter_append,
      closed, List.map_append, List.append_assoc, List.length_append]
    split <;> rfl

/-! ### One character -/

/-- What stands in the result for a character. -/
def piece (inside : Option Char) (values : List Value) (c : Char) : List Char :=
  if isSlot inside c then (values.head?.map fun v => v.inline.toList).getD [c] else [c]

theorem piece_of_value {inside : Option Char} {values : List Value} {c : Char} {v : Value}
    (slot : isSlot inside c = true) (first : values.head? = some v) :
    piece inside values c = v.inline.toList := by
  rw [piece, if_pos slot, first, Option.map_some, Option.getD_some]

theorem piece_of_plain {inside : Option Char} {c : Char} (plain : isSlot inside c = false)
    (values : List Value) : piece inside values c = [c] :=
  if_neg (Bool.not_eq_true _ ▸ plain)

theorem piece_nil (inside : Option Char) (c : Char) : piece inside [] c = [c] :=
  ite_id [c]

/-- The values that are left behind a character. -/
def valuesLeft (inside : Option Char) (values : List Value) (c : Char) : List Value :=
  if isSlot inside c then values.drop 1 else values

theorem valuesLeft_of_plain {inside : Option Char} {c : Char} (plain : isSlot inside c = false)
    (values : List Value) : valuesLeft inside values c = values :=
  if_neg (Bool.not_eq_true _ ▸ plain)

theorem inlineFrom_cons (inside : Option Char) (values : List Value) (c : Char)
    (cs : List Char) :
    inlineFrom inside values (c :: cs) = piece inside values c ++
      inlineFrom (quoteStep inside c) (valuesLeft inside values c) cs := by
  cases inside with
  | some q => rfl
  | none =>
    simp only [inlineFrom]
    by_cases opens : opensQuote c = true
    · have other : c ≠ '?' := by
        rintro rfl
        cases opens
      simp [opens, piece, valuesLeft, isSlot, other, quoteStep]
    · by_cases question : c = '?'
      · subst question
        cases values with
        | nil => simp [opens, piece, valuesLeft, isSlot, quoteStep]
        | cons v rest => simp [opens, piece, valuesLeft, isSlot, quoteStep]
      · simp [opens, piece, valuesLeft, isSlot, question, quoteStep]

/-! ### A whole text -/

def valuesAfter (inside : Option Char) (values : List Value) : List Char → List Value
  | [] => values
  | c :: cs => valuesAfter (quoteStep inside c) (valuesLeft inside values c) cs

theorem inlineFrom_append (inside : Option Char) (values : List Value) (xs ys : List Char) :
    inlineFrom inside values (xs ++ ys) = inlineFrom inside values xs ++
      inlineFrom (quoteAfter inside xs) (valuesAfter inside values xs) ys := by
  induction xs generalizing inside values with
  | nil => rfl
  | cons c xs ih =>
    rw [List.cons_append, inlineFrom_cons, inlineFrom_cons, ih, List.append_assoc]
    rfl

theorem valuesAfter_append (inside : Option Char) (values : List Value) (xs ys : List Char) :
    valuesAfter inside values (xs ++ ys) =
      valuesAfter (quoteAfter inside xs) (valuesAfter inside values xs) ys := by
  induction xs generalizing inside values with
  | nil => rfl
  | cons c xs ih =>
    rw [List.cons_append, valuesAfter, ih]
    rfl

/-- Each placeholder takes one value. -/
theorem valuesAfter_eq_drop (values : List Value) (cs : List Char) :
    valuesAfter none values cs = values.drop (placeholders cs).length := by
  induction cs using List.reverseRecOn with
  | nil => rfl
  | append_singleton cs c ih =>
    rw [valuesAfter_append, ih, placeholders_concat, valuesAfter, valuesAfter, valuesLeft]
    split
    · rw [List.drop_drop, List.length_append, List.length_singleton]
    · rw [List.append_nil]

theorem inlineFrom_concat (values : List Value) (cs : List Char) (c : Char) :
    inlineFrom none values (cs ++ [c]) = inlineFrom none values cs ++
      piece (quoteAfter none cs) (values.drop (placeholders cs).length) c := by
  rw [inlineFrom_append, valuesAfter_eq_drop, inlineFrom_cons, inlineFrom, List.append_nil]

/-- A text in pieces, one for each of its characters: the placeholders that get a value are
replaced by it, first to first, and all other characters are left. -/
structure Filled (cs : List Char) (values : List Value) (pieces : List (List Char)) : Prop where
  length : pieces.length = cs.length
  filled : ∀ (k p : Nat) (v : Value), (placeholders cs)[k]? = some p → values[k]? = some v →
    pieces[p]? = some v.inline.toList
  kept : ∀ (p : Nat) (c : Char), cs[p]? = some c → p ∉ (placeholders cs).take values.length →
    pieces[p]? = some [c]

theorem filled_concat {cs : List Char} {values : List Value} {pieces : List (List Char)}
    (before : Filled cs values pieces) (c : Char) :
    Filled (cs ++ [c]) values
      (pieces ++ [piece (quoteAfter none cs) (values.drop (placeholders cs).length) c]) where
  length := by simp [before.length]
  filled k p v place given := by
    rw [placeholders_concat] at place
    rcases Nat.lt_or_ge k (placeholders cs).length with early | late
    · rw [List.getElem?_append_left early] at place
      have inText := lt_of_mem_placeholders (List.mem_of_getElem? place)
      rw [List.getElem?_append_left (before.length ▸ inText)]
      exact before.filled k p v place given
    · rw [List.getElem?_append_right late] at place
      split at place
      · rename_i slot
        rw [List.getElem?_singleton, Option.ite_none_right_eq_some] at place
        obtain ⟨next, ⟨⟩⟩ := place
        have same : (placeholders cs).length = k := by omega
        rw [← before.length, List.getElem?_concat_length, same,
          piece_of_value slot (List.head?_drop.trans given)]
      · cases place
  kept p d here unfilled := by
    rw [placeholders_concat, List.take_append, List.mem_append, not_or] at unfilled
    rcases Nat.lt_or_ge p cs.length with inText | late
    · rw [List.getElem?_append_left inText] at here
      rw [List.getElem?_append_left (before.length ▸ inText)]
      exact before.kept p d here unfilled.1
    · rw [List.getElem?_append_right late, List.getElem?_singleton,
        Option.ite_none_right_eq_some] at here
      obtain ⟨last, ⟨⟩⟩ := here
      have same : p = cs.length := by omega
      rw [same, ← before.length, List.getElem?_concat_length]
      cases slot : isSlot (quoteAfter none cs) c with
      | false => rw [piece_of_plain slot]
      | true =>
        have used : values.length ≤ (placeholders cs).length := by
          rw [← Nat.not_lt]
          intro left
          have whole : [cs.length].take (values.length - (placeholders cs).length) = [cs.length] :=
            List.take_of_length_le (Nat.sub_pos_of_lt left)
          rw [if_pos slot, whole, same] at unfilled
          exact unfilled.2 List.mem_cons_self
        rw [List.drop_of_length_le used, piece_nil]

theorem inlineFrom_filled (values : List Value) (cs : List Char) :
    ∃ pieces, Filled cs values pieces ∧ inlineFrom none values cs = pieces.flatten := by
  induction cs using List.reverseRecOn with
  | nil => exact ⟨[], ⟨rfl, by simp [placeholders], by simp⟩, rfl⟩
  | append_singleton cs c ih =>
    obtain ⟨pieces, filled, result⟩ := ih
    refine ⟨_, filled_concat filled c, ?_⟩
    rw [inlineFrom_concat, result, List.flatten_append, List.flatten_singleton]

/-- Without values nothing is filled in, whatever is quoted and whatever stands open. -/
theorem inlineFrom_nil (inside : Option Char) (cs : List Char) : inlineFrom inside [] cs = cs := by
  induction cs generalizing inside with
  | nil => rfl
  | cons c cs ih =>
    have left : valuesLeft inside [] c = [] := ite_id []
    rw [inlineFrom_cons, piece_nil, left, ih, List.singleton_append]

theorem inlineValues_nil (sql : String) : inlineValues sql [] = sql := by
  rw [inlineValues, inlineFrom_nil, String.ofList_toList]

/-- The values take the places of the question marks outside quotes, first to first, until there are
no more of the ones or the others. All else stays in its place. -/
theorem inlineValues_fills (sql : String) (values : List Value) :
    (∃ pieces, Filled sql.toList values pieces ∧
        (inlineValues sql values).toList = pieces.flatten) ∧
      inlineValues sql [] = sql := by
  obtain ⟨pieces, filled, result⟩ := inlineFrom_filled values sql.toList
  refine ⟨⟨pieces, filled, ?_⟩, inlineValues_nil sql⟩
  rw [inlineValues, String.toList_ofList, result]

-- Question marks in a literal and behind a quote that stays open do not count.
example : placeholders "a = '?' AND b = ? OR `c?".toList = [16] := by decide

end SchemaShift
