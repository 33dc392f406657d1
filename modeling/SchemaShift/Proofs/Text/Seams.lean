import SchemaShift.Proofs.Schema.Modifiers

/-!
# Words in a text of several pieces

Where no letter at the end of one piece meets a letter at the front of the next, a word does not go
from one to the other. So the words of the whole text are those of its pieces. A text is cut into
such pieces at places where a run of letters ends.
-/

namespace SchemaShift

namespace Text

/-! ### Pieces of a text -/

/-- Not both of the characters that meet here are letters. -/
def Apart (front back : List Char) : Prop :=
  ∀ c ∈ front.getLast?, ∀ d ∈ back.head?, c.isAlpha = true → d.isAlpha = false

/-- The word, which is given in capitals, occurs in the text in any letter case. -/
def Occurs (word : String) (cs : List Char) : Prop :=
  word.toList <:+: cs.map Char.toUpper

structure Lettered (word : String) : Prop where
  nonempty : word.toList ≠ []
  letters : ∀ c ∈ word.toList, c.isAlpha = true

theorem contains_upper_iff (s word : String) :
    contains (upper s) word = true ↔ Occurs word s.toList := by
  rw [contains_iff, toList_upper]
  rfl

theorem isAlpha_iff {c : Char} : c.isAlpha = true ↔
    65 ≤ c.toNat ∧ c.toNat ≤ 90 ∨ 97 ≤ c.toNat ∧ c.toNat ≤ 122 := by
  change (c.isUpper || c.isLower) = true ↔ _
  rw [Bool.or_eq_true]
  refine or_congr decide_eq_true_iff ?_
  change (decide ('a'.val ≤ c.val) && decide (c.val ≤ 'z'.val)) = true ↔ _
  rw [Bool.and_eq_true, decide_eq_true_iff, decide_eq_true_iff]
  exact Iff.rfl

theorem isAlpha_of_toUpper {c : Char} (letter : c.toUpper.isAlpha = true) : c.isAlpha = true := by
  unfold Char.toUpper at letter
  split at letter
  · rename_i small
    exact isAlpha_iff.2 (.inr small)
  · exact letter

variable {word : String} {front back : List Char}

/-- A word that begins in the one part and ends in the other is as a whole in one of them. -/
theorem Lettered.untorn (lettered : Lettered word) (apart : Apart front back)
    {first second : List Char} (same : word.toList = first ++ second)
    (left : first <:+ front.map Char.toUpper) (right : second <+: back.map Char.toUpper) :
    first = [] ∨ second = [] := by
  cases last : first.getLast? with
  | none => exact .inl (List.getLast?_eq_none_iff.1 last)
  | some c =>
    cases head : second.head? with
    | none => exact .inr (List.head?_eq_none_iff.1 head)
    | some d =>
      have before : (front.map Char.toUpper).getLast? = some c := by
        obtain ⟨rest, whole⟩ := left
        rw [← whole, List.getLast?_append, last, Option.some_or]
      have after : (back.map Char.toUpper).head? = some d := by
        obtain ⟨rest, whole⟩ := right
        rw [← whole, List.head?_append, head, Option.some_or]
      rw [List.getLast?_map, Option.map_eq_some_iff] at before
      rw [List.head?_map, Option.map_eq_some_iff] at after
      obtain ⟨c', mine, rfl⟩ := before
      obtain ⟨d', theirs, rfl⟩ := after
      -- Both characters at the seam are letters of the word.
      have letters := lettered.letters
      rw [same] at letters
      have one := letters _ (List.mem_append_left second (List.mem_of_getLast? last))
      have other := letters _ (List.mem_append_right first (List.mem_of_head? head))
      have none := apart c' mine d' theirs (isAlpha_of_toUpper one)
      rw [isAlpha_of_toUpper other] at none
      cases none

theorem Lettered.occurs_append_iff (lettered : Lettered word) (apart : Apart front back) :
    Occurs word (front ++ back) ↔ Occurs word front ∨ Occurs word back := by
  unfold Occurs
  rw [List.map_append]
  constructor
  · intro occurs
    rcases List.infix_append_iff.1 occurs with here | there | ⟨first, second, same, left, right⟩
    · exact .inl here
    · exact .inr there
    · rcases lettered.untorn apart same left right with rfl | rfl
      · rw [List.nil_append] at same
        exact .inr (same ▸ right.isInfix)
      · rw [List.append_nil] at same
        exact .inl (same ▸ left.isInfix)
  · rintro (here | there)
    · exact here.trans (List.prefix_append _ _).isInfix
    · exact there.trans (List.suffix_append _ _).isInfix

/-- Pieces that stand one after another, each apart from what follows it. -/
def Seamed : List (List Char) → Prop
  | [] => True
  | piece :: pieces => Apart piece pieces.flatten ∧ Seamed pieces

theorem Lettered.occurs_flatten_iff (lettered : Lettered word) {pieces : List (List Char)}
    (seamed : Seamed pieces) : Occurs word pieces.flatten ↔ ∃ p ∈ pieces, Occurs word p := by
  induction pieces with
  | nil =>
    have none : ¬Occurs word [] := mt List.infix_nil.1 lettered.nonempty
    simpa using none
  | cons piece pieces ih =>
    obtain ⟨apart, seamed⟩ := seamed
    rw [List.flatten_cons, lettered.occurs_append_iff apart, ih seamed]
    simp only [List.mem_cons, exists_eq_or_imp]

theorem Apart.of_prefix {rest : List Char} (apart : Apart front back) (first : rest <+: back) :
    Apart front rest := by
  intro c last d head
  obtain ⟨more, rfl⟩ := first
  refine apart c last d ?_
  rw [List.head?_append, Option.mem_def.1 head, Option.some_or, Option.mem_some]

theorem Seamed.left {pieces others : List (List Char)} (seamed : Seamed (pieces ++ others)) :
    Seamed pieces := by
  induction pieces with
  | nil => exact trivial
  | cons piece pieces ih =>
    obtain ⟨apart, seamed⟩ := seamed
    have longer : pieces.flatten <+: (pieces ++ others).flatten := by
      rw [List.flatten_append]
      exact List.prefix_append _ _
    exact ⟨apart.of_prefix longer, ih seamed⟩

theorem Seamed.right {pieces others : List (List Char)} (seamed : Seamed (pieces ++ others)) :
    Seamed others := by
  induction pieces with
  | nil => exact seamed
  | cons piece pieces ih => exact ih seamed.2

theorem Seamed.tail {pieces : List (List Char)} (seamed : Seamed pieces) : Seamed pieces.tail := by
  cases pieces with
  | nil => exact trivial
  | cons piece pieces => exact seamed.2

/-! ### Texts between separators -/

theorem join_concat (sep s last : String) (ss : List String) :
    join sep (s :: (ss ++ [last])) = join sep (s :: ss) ++ sep ++ last := by
  induction ss generalizing s with
  | nil => rfl
  | cons t ss ih => simp only [List.cons_append, join, ih, String.append_assoc]

theorem Lettered.not_occurs (lettered : Lettered word) {cs : List Char}
    (plain : ∀ c ∈ cs, c.isAlpha = false) : ¬Occurs word cs := by
  intro occurs
  obtain ⟨c, member⟩ := List.exists_mem_of_ne_nil _ lettered.nonempty
  obtain ⟨d, own, same⟩ := List.mem_map.1 (occurs.subset member)
  have letter : d.isAlpha = true := isAlpha_of_toUpper (same ▸ lettered.letters c member)
  rw [plain d own] at letter
  cases letter

/-- A separator without letters takes no part in a word. -/
theorem Lettered.occurs_join_iff (lettered : Lettered word) {sep : String}
    (nonempty : sep.toList ≠ []) (plain : ∀ c ∈ sep.toList, c.isAlpha = false)
    (s : String) (ss : List String) :
    Occurs word (join sep (s :: ss)).toList ↔ ∃ t ∈ s :: ss, Occurs word t.toList := by
  induction ss generalizing s with
  | nil => simp [join]
  | cons t ss ih =>
    have front : Apart s.toList (sep.toList ++ (join sep (t :: ss)).toList) := by
      intro c _ d head _
      obtain ⟨e, es, separator⟩ := List.exists_cons_of_ne_nil nonempty
      rw [separator, List.cons_append, List.head?_cons] at head
      cases head
      exact plain d (separator ▸ List.mem_cons_self)
    have back : Apart sep.toList (join sep (t :: ss)).toList := by
      intro c last d _ letter
      rw [plain c (List.mem_of_getLast? last)] at letter
      cases letter
    rw [join, String.append_assoc, String.toList_append, String.toList_append,
      lettered.occurs_append_iff front, lettered.occurs_append_iff back,
      or_iff_right (lettered.not_occurs plain)]
    refine (or_congr_right (ih t)).trans ?_
    simp only [List.mem_cons, exists_eq_or_imp]

/-! ### Places where a run of letters ends -/

/-- After `n` characters no letter comes, or the last of them is none. -/
def Stops (cs : List Char) (n : Nat) : Prop :=
  (∀ c ∈ (cs.drop n).head?, c.isAlpha = false) ∨ ∃ c ∈ (cs.take n).getLast?, c.isAlpha = false

variable {cs : List Char} {n m : Nat} {c : Char}

theorem Stops.apart (stops : Stops cs n) : Apart (cs.take n) (cs.drop n) := by
  intro c last d head letter
  rcases stops with next | ⟨c', own, plain⟩
  · exact next d head
  · rw [Option.mem_unique last own, plain] at letter
    cases letter

theorem Stops.cons (stops : Stops cs n) : Stops (c :: cs) (n + 1) := by
  rcases stops with next | ⟨d, last, plain⟩
  · exact .inl next
  · refine .inr ⟨d, ?_, plain⟩
    rw [List.take_succ_cons, List.getLast?_cons, Option.mem_def.1 last, Option.getD_some,
      Option.mem_some]

theorem stops_end (all : cs.length ≤ n) : Stops cs n := by
  left
  rw [List.drop_eq_nil_of_le all]
  intro c head
  cases head

theorem Stops.drop (stops : Stops (cs.drop n) m) : Stops cs (n + m) := by
  induction n generalizing cs with
  | zero => rwa [Nat.zero_add]
  | succ n ih =>
    cases cs with
    | nil => exact stops_end (Nat.zero_le _)
    | cons c cs =>
      rw [Nat.add_right_comm]
      exact (ih stops).cons

theorem stops_one (plain : c.isAlpha = false) : Stops (c :: cs) 1 :=
  .inr ⟨c, rfl, plain⟩

theorem stops_at (plain : c.isAlpha = false) (before rest : List Char) :
    Stops (before ++ c :: rest) (before.length + 1) := by
  refine Stops.drop ?_
  rw [List.drop_left]
  exact stops_one plain

theorem drop_length_takeWhile (p : Char → Bool) (cs : List Char) :
    cs.drop (cs.takeWhile p).length = cs.dropWhile p := by
  have whole : cs.takeWhile p ++ cs.dropWhile p = cs := List.takeWhile_append_dropWhile
  calc
    cs.drop (cs.takeWhile p).length
      = (cs.takeWhile p ++ cs.dropWhile p).drop (cs.takeWhile p).length := by rw [whole]
    _ = cs.dropWhile p := List.drop_left

theorem stops_takeWhile {p : Char → Bool} (others : ∀ c, p c = false → c.isAlpha = false)
    (cs : List Char) : Stops cs (cs.takeWhile p).length := by
  left
  rw [drop_length_takeWhile]
  intro c head
  have found := List.head?_dropWhile_not p cs
  rw [Option.mem_def.1 head] at found
  exact others c found

/-- A run that is shorter than the text ends before a character of another kind. -/
theorem takeWhile_short {p : Char → Bool} {cs : List Char}
    (short : (cs.takeWhile p).length < cs.length) :
    ∃ c rest, p c = false ∧ cs = cs.takeWhile p ++ c :: rest := by
  have whole : cs.takeWhile p ++ cs.dropWhile p = cs := List.takeWhile_append_dropWhile
  cases after : cs.dropWhile p with
  | nil =>
    rw [after, List.append_nil] at whole
    rw [whole] at short
    exact absurd short (Nat.lt_irrefl _)
  | cons c rest =>
    have found := List.head?_dropWhile_not p cs
    rw [after] at found whole
    exact ⟨c, rest, found, whole.symm⟩

end Text

end SchemaShift
