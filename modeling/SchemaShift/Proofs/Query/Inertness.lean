import SchemaShift.Proofs.Query.Placeholders

/-!
# Values that do not disturb a text

A value stands in a text as a literal or a number. Read once more, it shows no placeholder and
leaves no quote open. So values can be written into a text in several rounds: a later round finds
the placeholders that the rounds before it left, and no others.
-/

namespace SchemaShift

open Text

/-! ### Texts without placeholders -/

/-- Read from outside quotes, the text has no placeholder, and `after` is open behind it. -/
structure Quiet (after : Option Char) (cs : List Char) : Prop where
  state : quoteAfter none cs = after
  free : placeholders cs = []

/-- Read from outside quotes, the text leaves all as it was. -/
abbrev Inert (cs : List Char) : Prop :=
  Quiet none cs

theorem Quiet.nil : Inert [] :=
  ⟨rfl, rfl⟩

theorem Quiet.concat {after : Option Char} {cs : List Char} (quiet : Quiet after cs) {c : Char}
    (plain : isSlot after c = false) : Quiet (quoteStep after c) (cs ++ [c]) where
  state := by rw [quoteAfter_concat, quiet.state]
  free := by rw [placeholders_concat, quiet.state, quiet.free, plain]; rfl

theorem inlineFrom_of_free {cs : List Char} (free : placeholders cs = []) (values : List Value) :
    inlineFrom none values cs = cs := by
  induction cs using List.reverseRecOn with
  | nil => rfl
  | append_singleton cs c ih =>
    rw [placeholders_concat, List.append_eq_nil_iff] at free
    have plain : isSlot (quoteAfter none cs) c = false := by
      rw [Bool.eq_false_iff]
      intro slot
      rw [if_pos slot] at free
      cases free.2
    rw [inlineFrom_concat, ih free.1, piece_of_plain plain]

theorem valuesAfter_of_free {cs : List Char} (free : placeholders cs = []) (values : List Value) :
    valuesAfter none values cs = values := by
  rw [valuesAfter_eq_drop, free, List.length_nil, List.drop_zero]

/-- The character neither opens a quote nor is a placeholder anywhere. -/
def isPlain (c : Char) : Bool :=
  !opensQuote c && c != '?'

theorem isPlain_iff {c : Char} : isPlain c = true ↔ opensQuote c = false ∧ c ≠ '?' := by
  simp [isPlain]

theorem inert_of_plain {cs : List Char} (plain : cs.all isPlain = true) : Inert cs := by
  induction cs using List.reverseRecOn with
  | nil => exact .nil
  | append_singleton cs c ih =>
    rw [List.all_append, Bool.and_eq_true, List.all_cons, List.all_nil, Bool.and_true] at plain
    obtain ⟨opensNone, other⟩ := isPlain_iff.1 plain.2
    have step : quoteStep none c = none := if_neg (Bool.not_eq_true _ ▸ opensNone)
    have quiet := (ih plain.1).concat (c := c) (by simp [isSlot, other])
    rwa [step] at quiet

/-! ### Literals and numbers -/

theorem Text.double_append (q : Char) (xs ys : List Char) :
    double q (xs ++ ys) = double q xs ++ double q ys := by
  induction xs with
  | nil => rfl
  | cons c xs ih =>
    rw [List.cons_append, double, double, ih]
    split <;> rfl

/-- Within a literal, a doubled quote closes it and opens it again. -/
theorem quiet_double {q : Char} (opens : opensQuote q = true) (cs : List Char) :
    Quiet (some q) (q :: double q cs) := by
  have opened : quoteStep none q = some q := if_pos opens
  have closed : quoteStep (some q) q = none := if_pos rfl
  have other : isSlot none q = false := by
    rw [Bool.eq_false_iff, ne_eq, isSlot_iff]
    rintro ⟨-, rfl⟩
    cases opens
  -- What is open is known behind a text, so the text grows at its end.
  induction cs using List.reverseRecOn with
  | nil => exact opened ▸ Quiet.nil.concat other
  | append_singleton cs c ih =>
    rw [double_append, ← List.cons_append]
    by_cases same : c = q
    · have outside := ih.concat (c := q) rfl
      rw [closed] at outside
      have reopened := outside.concat other
      rw [opened, List.append_assoc] at reopened
      rw [double, if_pos same, double]
      exact reopened
    · have inside := ih.concat (c := c) rfl
      rw [quoteStep, if_neg same] at inside
      rw [double, if_neg same, double]
      exact inside

theorem inert_quoteLiteral (s : String) : Inert (quoteLiteral s).toList := by
  have closed := (quiet_double (q := '\'') rfl s.toList).concat (c := '\'') rfl
  rw [quoteStep, if_pos rfl, List.cons_append] at closed
  rw [quoteLiteral, quote, String.toList_ofList]
  exact closed

theorem isPlain_of_isDigit {c : Char} (digit : c.isDigit = true) : isPlain c = true := by
  rw [isPlain_iff]
  constructor
  · rw [Bool.eq_false_iff]
    intro opens
    simp only [opensQuote, Bool.or_eq_true, beq_iff_eq] at opens
    rcases opens with (rfl | rfl) | rfl <;> cases digit
  · rintro rfl
    cases digit

theorem plain_toDigits (n : Nat) : (Nat.toDigits 10 n).all isPlain = true :=
  List.all_eq_true.2 fun _ member =>
    isPlain_of_isDigit (Nat.isDigit_of_mem_toDigits (by decide) (by decide) member)

theorem plain_intText (n : Int) : (intText n).toList.all isPlain = true := by
  have digits : (natText n.natAbs).toList.all isPlain = true := by
    rw [natText, String.toList_ofList]
    exact plain_toDigits n.natAbs
  unfold intText
  split
  · rw [String.toList_append, List.all_append, digits]
    rfl
  · exact digits

theorem Decimal.plain_withoutExponent (d : Nat) (k : Int) :
    (withoutExponent d k).toList.all isPlain = true := by
  have zeros (n : Nat) : (List.replicate n '0').all isPlain = true := by
    refine List.all_eq_true.2 fun c member => ?_
    rw [List.eq_of_mem_replicate member]
    rfl
  have digits (n : Nat) : ∀ c ∈ List.replicate n '0' ++ Nat.toDigits 10 d, isPlain c = true := by
    rw [← List.all_eq_true, List.all_append, zeros, plain_toDigits]
    rfl
  unfold withoutExponent
  dsimp only
  split
  · rw [String.toList_ofList, List.all_append, plain_toDigits, zeros]
    rfl
  · rw [String.toList_ofList, List.all_append, List.all_cons,
      List.all_eq_true.2 fun c member => digits _ c (List.mem_of_mem_take member),
      List.all_eq_true.2 fun c member => digits _ c (List.mem_of_mem_drop member)]
    rfl

theorem Decimal.plain_positional (bits : UInt64) :
    (positional bits).toList.all isPlain = true := by
  unfold positional
  cases Double.ofBits bits with
  | nan => exact (by decide : "NaN".toList.all isPlain = true)
  | infinite negative => cases negative <;> decide
  | finite negative mantissa exponent =>
    have magnitude : (if mantissa = 0 then "0" else
        withoutExponent (shortest mantissa exponent).1 (shortest mantissa exponent).2).toList.all
          isPlain = true := by
      split
      · decide
      · exact plain_withoutExponent _ _
    dsimp only
    split
    · rw [String.toList_append, List.all_append, magnitude]
      rfl
    · exact magnitude

/-- No value counts in a text, whatever quotes and question marks it is made of. -/
theorem Value.inline_inert (v : Value) : Inert v.inline.toList := by
  cases v with
  | null => exact inert_of_plain (by decide)
  | bool b => cases b <;> exact inert_of_plain (by decide)
  | int n => exact inert_of_plain (plain_intText n.toInt)
  | float bits => exact inert_of_plain (Decimal.plain_positional bits)
  | text s => exact inert_quoteLiteral s

/-! ### Rounds -/

theorem quoteAfter_piece (inside : Option Char) (values : List Value) (c : Char) :
    quoteAfter inside (piece inside values c) = quoteStep inside c := by
  unfold piece
  split
  · rename_i slot
    obtain ⟨rfl, rfl⟩ := isSlot_iff.1 slot
    cases values with
    | nil => rfl
    | cons v rest => exact v.inline_inert.state
  · rfl

/-- Values do not change what is open behind a text. -/
theorem quoteAfter_inlineFrom (inside : Option Char) (values : List Value) (cs : List Char) :
    quoteAfter inside (inlineFrom inside values cs) = quoteAfter inside cs := by
  induction cs generalizing inside values with
  | nil => rfl
  | cons c cs ih =>
    rw [inlineFrom_cons, quoteAfter_append, quoteAfter_piece, ih]
    rfl

/-- A second round passes over the values of the first one and goes on where that ran out of
them. -/
theorem inlineFrom_inlineFrom (inside : Option Char) (first second : List Value)
    (cs : List Char) :
    inlineFrom inside second (inlineFrom inside first cs) =
      inlineFrom inside (first ++ second) cs := by
  induction cs generalizing inside first with
  | nil => rfl
  | cons c cs ih =>
    cases first with
    | nil => rw [inlineFrom_nil, List.nil_append]
    | cons v rest =>
      rw [inlineFrom_cons inside (v :: rest), List.cons_append,
        inlineFrom_cons inside (v :: (rest ++ second))]
      cases slot : isSlot inside c with
      | false =>
        rw [piece_of_plain slot, piece_of_plain slot, valuesLeft_of_plain slot,
          valuesLeft_of_plain slot, List.singleton_append, inlineFrom_cons, piece_of_plain slot,
          valuesLeft_of_plain slot, ih]
        rfl
      | true =>
        obtain ⟨rfl, rfl⟩ := isSlot_iff.1 slot
        rw [piece_of_value slot rfl, piece_of_value slot rfl, inlineFrom_append,
          inlineFrom_of_free v.inline_inert.free, valuesAfter_of_free v.inline_inert.free,
          v.inline_inert.state]
        exact congrArg _ (ih none rest)

/-- The placeholders that get no value are all that is left, moved by what comes in before them. -/
theorem placeholders_inlineFrom (values : List Value) (cs : List Char) :
    placeholders (inlineFrom none values cs) =
      ((placeholders cs).drop values.length).map fun p =>
        (inlineFrom none values (cs.take p)).length := by
  induction cs using List.reverseRecOn with
  | nil => simp [inlineFrom, placeholders]
  | append_singleton cs c ih =>
    have before : ((placeholders cs).drop values.length).map
        (fun p => (inlineFrom none values ((cs ++ [c]).take p)).length) =
        placeholders (inlineFrom none values cs) := by
      rw [ih]
      refine List.map_congr_left fun p member => ?_
      have inText := lt_of_mem_placeholders (List.mem_of_mem_drop member)
      rw [List.take_append_of_le_length (Nat.le_of_lt inText)]
    have state := quoteAfter_inlineFrom none values cs
    rw [inlineFrom_concat, placeholders_concat cs]
    cases slot : isSlot (quoteAfter none cs) c with
    | false =>
      rw [piece_of_plain slot, placeholders_concat, state, slot, ← before]
      simp
    | true =>
      obtain ⟨closed, rfl⟩ := isSlot_iff.1 slot
      rcases Nat.lt_or_ge (placeholders cs).length values.length with more | used
      · have next : (values.drop (placeholders cs).length).head? =
            some values[(placeholders cs).length] := by
          rw [List.head?_drop, List.getElem?_eq_getElem more]
        have inert := Value.inline_inert values[(placeholders cs).length]
        rw [piece_of_value slot next, placeholders_append (state.trans closed), inert.free,
          ← before]
        simp [List.drop_of_length_le, Nat.le_of_lt more, Nat.succ_le_of_lt more]
      · rw [List.drop_of_length_le used, piece_nil, placeholders_concat, state, slot, if_pos rfl,
          if_pos rfl, List.drop_append_of_le_length used, List.map_append, before,
          List.map_singleton, List.take_left]

/-- Values can be written into a text in two rounds instead of one. The second round finds the
placeholders that got no value in the first one and no others: none in a value, and none that was
quoted before. -/
theorem inlineValues_inert (sql : String) (first second : List Value) :
    inlineValues (inlineValues sql first) second = inlineValues sql (first ++ second) ∧
      placeholders (inlineValues sql first).toList =
        ((placeholders sql.toList).drop first.length).map fun p =>
          (inlineFrom none first (sql.toList.take p)).length := by
  have text : (inlineValues sql first).toList = inlineFrom none first sql.toList :=
    String.toList_ofList
  constructor
  · rw [inlineValues, text, inlineFrom_inlineFrom, inlineValues]
  · rw [text, placeholders_inlineFrom]

end SchemaShift
