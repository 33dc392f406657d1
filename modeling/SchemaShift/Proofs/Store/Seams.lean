import SchemaShift.Proofs.Text.Seams
import SchemaShift.Store.Command

/-!
# Words across tokens

The texts of tokens and the gaps between them are a text again when they are put one after
another. No letter of one piece goes on in the next: a token without quotes takes all letters
that it can get, and everything else ends in a character that is no letter. So a word in the text
stands in one of the pieces, and none comes about where two of them meet.
-/

namespace SchemaShift

namespace Store

open Text

variable {cs : List Char} {n m : Nat}

/-! ### Gaps -/

theorem isAlpha_of_isAsciiBlank {c : Char} (blank : isAsciiBlank c = true) : c.isAlpha = false := by
  simp only [isAsciiBlank, Bool.or_eq_true, Bool.and_eq_true, decide_eq_true_eq,
    beq_iff_eq] at blank
  rw [Bool.eq_false_iff, ne_eq, isAlpha_iff]
  omega

theorem stops_closing (cs : List Char) : Stops cs (commentLength.closing cs) := by
  fun_induction commentLength.closing cs with
  | case1 => exact stops_end (Nat.le_refl _)
  | case2 rest => exact (stops_one rfl).cons
  | case3 c rest _ ih =>
    rw [Nat.add_comm]
    exact ih.cons

theorem stops_commentLength (comment : commentLength cs ≠ 0) : Stops cs (commentLength cs) := by
  fun_cases commentLength cs with
  | case1 rest =>
    rw [Nat.add_comm]
    refine (stops_takeWhile (fun c other => ?_) rest).cons.cons
    rw [bne_eq_false_iff_eq.1 other]
    rfl
  | case2 c rest =>
    rw [Nat.add_comm]
    exact (stops_closing (c :: rest)).cons.cons
  | case3 => simp [commentLength] at comment

/-- A run of characters without letters stops wherever it is cut. -/
theorem stops_run {p : Char → Bool} (plain : ∀ c, p c = true → c.isAlpha = false) {c : Char}
    (first : c.isAlpha = false) (cs : List Char) :
    Stops (c :: cs) (1 + (cs.takeWhile p).length) := by
  right
  have taken : (c :: cs).take (1 + (cs.takeWhile p).length) = c :: cs.takeWhile p := by
    rw [Nat.add_comm, List.take_succ_cons, ← List.prefix_iff_eq_take.1 (List.takeWhile_prefix p)]
  rw [taken]
  cases last : (cs.takeWhile p).getLast? with
  | none =>
    rw [List.getLast?_eq_none_iff.1 last]
    exact ⟨c, rfl, first⟩
  | some d =>
    refine ⟨d, ?_, plain d (List.mem_takeWhile_imp (List.mem_of_getLast? last))⟩
    rw [List.getLast?_cons, last, Option.getD_some, Option.mem_some]

theorem stops_gapPartLength (part : gapPartLength cs ≠ 0) : Stops cs (gapPartLength cs) := by
  fun_cases gapPartLength cs with
  | case1 => exact absurd rfl part
  | case2 c rest starts =>
    have blank : isAsciiBlank c = true := (Bool.and_eq_true_iff.1 starts).1
    exact stops_run (fun c => isAlpha_of_isAsciiBlank) (isAlpha_of_isAsciiBlank blank) rest
  | case3 rest => exact stops_one rfl
  | case4 c rest other unmarked =>
    rw [gapPartLength, if_neg other, if_neg unmarked] at part
    exact stops_commentLength part

/-- The next token does not go on with the letters of a comment. -/
theorem stops_gapLength (fuel : Nat) (cs : List Char) :
    gapLength fuel cs = 0 ∨ Stops cs (gapLength fuel cs) := by
  induction fuel generalizing cs with
  | zero => exact .inl rfl
  | succ fuel ih =>
    rw [gapLength]
    split
    · exact .inl rfl
    · rename_i n part
      right
      rcases ih (cs.drop (gapPartLength cs)) with none | later
      · rw [none, Nat.add_zero]
        exact stops_gapPartLength part
      · -- How the part before it ended matters no more.
        exact later.drop

/-! ### Tokens -/

theorem isAlpha_of_isWordChar {c : Char} (other : isWordChar c = false) : c.isAlpha = false := by
  simp only [isWordChar, Char.isAlphanum, Bool.or_eq_false_iff] at other
  exact other.1.1.1.1

theorem isAlpha_of_isDigit {c : Char} (digit : c.isDigit = true) : c.isAlpha = false := by
  have range : 48 ≤ c.toNat ∧ c.toNat ≤ 57 := by
    rw [Char.isDigit, Bool.and_eq_true, decide_eq_true_iff, decide_eq_true_iff] at digit
    exact digit
  rw [Bool.eq_false_iff, ne_eq, isAlpha_iff]
  omega

theorem stops_wordLength (cs : List Char) : Stops cs (wordLength cs) :=
  stops_takeWhile (fun _ => isAlpha_of_isWordChar) cs

theorem readToClose_eq {q : Char} {inside rest : List Char}
    (closed : readToClose q cs = some (inside, rest)) : ∃ front, cs = front ++ q :: rest := by
  fun_induction readToClose q cs generalizing inside with
  | case1 => cases closed
  | case2 => exact ⟨[], by cases closed; rfl⟩
  | case3 => cases closed
  | case4 cs ih =>
    obtain ⟨⟨s, after⟩, read, same⟩ := Option.map_eq_some_iff.1 closed
    cases same
    obtain ⟨front, rfl⟩ := ih read
    exact ⟨q :: q :: front, rfl⟩
  | case5 => exact ⟨[], by cases closed; rfl⟩
  | case6 c d cs _ ih =>
    obtain ⟨⟨s, after⟩, read, same⟩ := Option.map_eq_some_iff.1 closed
    cases same
    obtain ⟨front, whole⟩ := ih read
    exact ⟨c :: front, by rw [whole, List.cons_append]⟩

theorem stops_quoted {q : Char} (mark : q.isAlpha = false) (first : Char) (cs : List Char) :
    Stops (first :: cs) (scanQuoted q cs).2 := by
  unfold scanQuoted
  split
  · rename_i inside rest closed
    obtain ⟨front, rfl⟩ := readToClose_eq closed
    have length : 1 + (front ++ q :: rest).length - rest.length = front.length + 1 + 1 := by
      rw [List.length_append, List.length_cons]
      omega
    dsimp only
    rw [length]
    exact (stops_at mark front rest).cons
  · exact stops_end (by rw [List.length_cons, Nat.add_comm])

/-- What runs up to a closing mark stops behind it, or at the end of the text. -/
theorem stops_closed {q : Char} (mark : q.isAlpha = false) (cs : List Char) :
    Stops cs ((cs.takeWhile (· != q)).length + 1) := by
  by_cases short : (cs.takeWhile (· != q)).length < cs.length
  · obtain ⟨c, rest, closing, whole⟩ := takeWhile_short short
    have same : c = q := bne_eq_false_iff_eq.1 closing
    have stops := stops_at mark (cs.takeWhile (· != q)) rest
    rw [same] at whole
    rwa [← whole] at stops
  · exact stops_end (by omega)

theorem stops_bracketed (first : Char) (cs : List Char) :
    Stops (first :: cs) (scanBracketed cs).2 := by
  unfold scanBracketed
  dsimp only
  split
  · exact (stops_closed rfl cs).cons
  · rename_i unclosed
    exact stops_end (by rw [List.length_cons]; omega)

theorem stops_blob (first second : Char) (cs : List Char) :
    Stops (first :: second :: cs) (scanBlob cs).2 := by
  unfold scanBlob
  dsimp only
  split
  · rename_i closed
    obtain ⟨-, mark⟩ := closed
    refine Stops.cons (Stops.cons (Stops.drop ?_))
    obtain ⟨rest, same⟩ := List.head?_eq_some_iff.1 mark
    rw [same]
    exact stops_one rfl
  · dsimp only
    split
    · exact (stops_closed rfl cs).cons.cons
    · exact stops_end (by rw [List.length_cons, List.length_cons]; omega)

theorem stops_number (cs : List Char) : Stops cs (scanNumber cs).2 := by
  have whole : (scanNumber cs).2 =
      (numberRun cs).2.length + wordLength (cs.drop (numberRun cs).2.length) := by
    unfold scanNumber
    dsimp only
    split
    · rename_i none
      rw [none, Nat.add_zero]
    · rfl
  rw [whole]
  exact (stops_wordLength _).drop

theorem stops_parameter (named : Nat) (cs : List Char) : Stops cs (scanParameter named cs).2 := by
  fun_induction scanParameter named cs with
  | case1 named cs kind n read ih =>
    rw [read] at ih
    exact ih.cons.cons
  | case2 named c cs _ word kind n read ih =>
    rw [read] at ih
    exact ih.cons
  | case3 named c cs _ other opens inside closed =>
    refine Stops.cons (Stops.drop ?_)
    rw [← List.head?_drop] at closed
    obtain ⟨rest, same⟩ := List.head?_eq_some_iff.1 closed
    rw [same]
    exact stops_one rfl
  | case4 named c cs _ other opens inside unclosed =>
    refine (stops_takeWhile (fun d ends => ?_) cs).cons
    rcases Bool.and_eq_false_iff.1 ends with mark | blank
    · rw [bne_eq_false_iff_eq.1 mark]
      rfl
    · rw [Bool.not_eq_false'] at blank
      exact isAlpha_of_isAsciiBlank blank
  | case5 named c cs _ other =>
    left
    rintro d ⟨⟩
    exact isAlpha_of_isWordChar (Bool.eq_false_iff.2 other)
  | case6 => exact stops_end (Nat.le_refl _)

theorem stops_mark {c : Char} (plain : c.isAlpha = false) (cs : List Char) :
    Stops (c :: cs) (scanMark (c :: cs)).2 := by
  have unlettered : marks.all (fun m => m.getLast?.any fun d => !d.isAlpha) = true := by decide
  unfold scanMark
  split
  · rename_i m found
    right
    have first := List.find?_some found
    rw [List.isPrefixOf_iff_prefix, List.prefix_iff_eq_take] at first
    dsimp only
    rw [← first]
    have last := List.all_eq_true.1 unlettered m (List.mem_of_find?_eq_some found)
    obtain ⟨d, own, plain⟩ := (Option.any_eq_true _ _).1 last
    exact ⟨d, own, by simpa using plain⟩
  · exact stops_one plain

theorem stops_scan (cs : List Char) : Stops cs (scan cs).2 := by
  fun_cases scan cs with
  | case1 => exact stops_end (Nat.le_refl _)
  | case2 c cs quote =>
    have mark : c.isAlpha = false := by rcases quote with rfl | rfl | rfl <;> rfl
    exact stops_quoted mark c cs
  | case3 cs => exact stops_bracketed '[' cs
  | case4 c cs _ _ blob =>
    obtain ⟨rest, rfl⟩ := List.head?_eq_some_iff.1 blob.2
    exact stops_blob c _ rest
  | case5 c cs => exact stops_number (c :: cs)
  | case6 cs => exact stops_run (fun _ => isAlpha_of_isDigit) rfl cs
  | case7 c cs =>
    rw [Nat.add_comm]
    exact (stops_parameter 0 cs).cons
  | case8 c cs _ _ _ _ _ _ _ kind n read =>
    have stops := stops_parameter 0 cs
    rw [read] at stops
    rw [Nat.add_comm]
    exact stops.cons
  | case9 c cs =>
    rw [Nat.add_comm]
    exact (stops_wordLength cs).cons
  | case10 c cs _ _ _ _ _ _ _ other =>
    exact stops_mark (isAlpha_of_isWordChar (Bool.eq_false_iff.2 other)) cs

namespace Token

/-- The gaps and the texts of tokens, as they were written. -/
def pieces (ts : List Token) : List (List Char) :=
  ts.flatMap fun t => [t.gap, t.text]

/-- The gap before the first token is not cited. -/
theorem toList_cite (ts : List Token) : (cite ts).toList = (pieces ts).tail.flatten := by
  cases ts with
  | nil => rfl
  | cons t ts =>
    have others : (pieces ts).flatten = ts.flatMap fun t => t.gap ++ t.text := by
      unfold pieces
      induction ts with
      | nil => rfl
      | cons t ts ih => simp [List.flatMap_cons, ih]
    rw [cite, String.toList_ofList, ← others]
    rfl

end Token

open Token

theorem seamed_tokensFrom (fuel : Nat) (cs : List Char) :
    Seamed (pieces (tokensFrom fuel cs)) ∧ (pieces (tokensFrom fuel cs)).flatten <+: cs := by
  induction fuel generalizing cs with
  | zero => exact ⟨trivial, List.nil_prefix⟩
  | succ fuel ih =>
    have gap := stops_gapLength cs.length cs
    rw [tokensFrom]
    dsimp only
    generalize gapLength cs.length cs = n at gap ⊢
    cases after : cs.drop n with
    | nil => exact ⟨trivial, List.nil_prefix⟩
    | cons c rest =>
      dsimp only
      have token := stops_scan (c :: rest)
      generalize scan (c :: rest) = found at token ⊢
      obtain ⟨seamed, later⟩ := ih ((c :: rest).drop found.2)
      generalize tokensFrom fuel ((c :: rest).drop found.2) = ts at seamed later ⊢
      have body : (c :: rest).take found.2 ++ (pieces ts).flatten <+: c :: rest := by
        have longer := (List.prefix_append_right_inj ((c :: rest).take found.2)).2 later
        rwa [List.take_append_drop] at longer
      have before : Apart (cs.take n) ((c :: rest).take found.2 ++ (pieces ts).flatten) := by
        rcases gap with none | stops
        · rw [none]
          intro c last
          cases last
        · have apart := stops.apart
          rw [after] at apart
          exact apart.of_prefix body
      refine ⟨⟨before, token.apart.of_prefix later, seamed⟩, ?_⟩
      have longer := (List.prefix_append_right_inj (cs.take n)).2 body
      rwa [← after, List.take_append_drop, after] at longer

theorem flatten_split (ts : List Token) : (statements.split ts).flatten = ts := by
  induction ts with
  | nil => rfl
  | cons t ts ih =>
    rw [statements.split]
    split
    · rw [List.flatten_cons, ih, List.singleton_append]
    · split
      · rename_i none
        rw [none] at ih
        rw [← ih]
        rfl
      · rename_i piece others found
        rw [found, List.flatten_cons] at ih
        rw [List.flatten_cons, List.cons_append, ih]

/-- Tokens that stand next to each other in a statement are seamed as all tokens of its text are. -/
theorem seamed_of_statement {sql : String} {ts run : List Token} (statement : ts ∈ statements sql)
    (within : run <:+: ts) : Seamed (pieces run) := by
  have member : ts ∈ statements.split (tokens sql) := (List.mem_filter.1 statement).1
  have part : run <:+: tokens sql := by
    have piece := List.infix_of_mem_flatten member
    rw [flatten_split] at piece
    exact within.trans piece
  obtain ⟨front, back, whole⟩ := part
  have all := (seamed_tokensFrom sql.length (sql.toList.takeWhile (· != '\x00'))).1
  rw [tokens] at whole
  rw [← whole, pieces, List.flatMap_append, List.flatMap_append] at all
  exact all.left.right

theorem occurs_of_isWord {word : String} {run : List Token} {t : Token} (member : t ∈ run)
    (is : t.isWord word = true) : Occurs word (cite run).toList := by
  have text : t.text ∈ (pieces run).tail := by
    cases run with
    | nil => cases member
    | cons first rest =>
      rcases List.mem_cons.1 member with rfl | later
      · exact List.mem_cons_self
      · refine List.mem_cons_of_mem _ (List.mem_flatMap.2 ⟨t, later, ?_⟩)
        exact List.mem_cons_of_mem _ (List.mem_singleton_self _)
  have same : t.text.map Char.toUpper = word.toList := beq_iff_eq.1 is
  have here : Occurs word t.text := by
    simp only [Occurs, same, List.infix_refl]
  rw [toList_cite]
  exact here.trans ((List.infix_of_mem_flatten text).map _)

end Store

end SchemaShift
