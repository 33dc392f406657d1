import Mathlib.Data.List.TakeWhile
import SchemaShift.Schema.Column

/-!
# Phrases among the modifiers

The modifiers of a column are one text. A builder adds to it with a blank in between, after taking
off the blanks at its ends. A phrase without blanks does not notice: it occurs in the result
exactly if it occurred before or in what was added.
-/

namespace SchemaShift

namespace Text

theorem contains_iff (s phrase : String) :
    contains s phrase = true ↔ phrase.toList <:+: s.toList := by
  unfold contains
  generalize s.toList = cs
  induction cs with
  | nil =>
    rw [from?, List.infix_nil]
    cases phrase.toList with
    | nil => simp
    | cons p ps => simp
  | cons c cs ih =>
    rw [from?, List.infix_cons_iff]
    by_cases here : phrase.toList.isPrefixOf (c :: cs) = true
    · simp [here, List.isPrefixOf_iff_prefix.1 here]
    · have later := mt List.isPrefixOf_iff_prefix.2 here
      simpa [here, later] using ih

/-! ### Blanks around a text -/

theorem toLower_of_isBlank {c : Char} (blank : isBlank c = true) : c.toLower = c := by
  unfold Char.toLower
  refine dif_neg fun ⟨low, high⟩ => ?_
  have low : 65 ≤ c.toNat := low
  have high : c.toNat ≤ 90 := high
  simp only [isBlank, Bool.or_eq_true, Bool.and_eq_true, decide_eq_true_eq, beq_iff_eq] at blank
  omega

theorem strip_between (cs : List Char) : ∃ front back, cs = front ++ (strip cs ++ back) ∧
    (∀ c ∈ front, isBlank c = true) ∧ ∀ c ∈ back, isBlank c = true := by
  refine ⟨cs.takeWhile isBlank, ((stripStart cs).reverse.takeWhile isBlank).reverse, ?_, ?_, ?_⟩
  · rw [strip, stripEnd, ← List.reverse_append, List.takeWhile_append_dropWhile,
      List.reverse_reverse, stripStart, List.takeWhile_append_dropWhile]
  · exact fun c member => List.mem_takeWhile_imp member
  · exact fun c member => List.mem_takeWhile_imp (List.mem_reverse.1 member)

/-- A phrase that a blank cannot be part of. -/
structure Solid (phrase : List Char) : Prop where
  nonempty : phrase ≠ []
  unbroken : ∀ c ∈ phrase, isBlank c = false

variable {phrase : List Char}

theorem Solid.not_infix_blanks (solid : Solid phrase) {blanks : List Char}
    (blank : ∀ c ∈ blanks, isBlank c = true) : ¬phrase <:+: blanks := by
  intro occurs
  obtain ⟨c, member⟩ := List.exists_mem_of_ne_nil phrase solid.nonempty
  have broken := blank c (occurs.subset member)
  rw [solid.unbroken c member] at broken
  cases broken

/-- It stands on one side of a blank. -/
theorem Solid.infix_blank_iff (solid : Solid phrase) {b : Char} (blank : isBlank b = true)
    (before after : List Char) :
    phrase <:+: before ++ b :: after ↔ phrase <:+: before ∨ phrase <:+: after := by
  -- What begins before the blank ends there too, as the blank is no part of the phrase.
  have stops : ∀ part : List Char, part <+: b :: after → part ⊆ phrase → part = [] := by
    intro part first within
    rcases List.prefix_cons_iff.1 first with empty | ⟨rest, rfl, -⟩
    · exact empty
    · have broken := solid.unbroken b (within List.mem_cons_self)
      rw [blank] at broken
      cases broken
  constructor
  · intro occurs
    rcases List.infix_append_iff.1 occurs with left | right | ⟨first, second, same, left, right⟩
    · exact .inl left
    · rcases List.infix_cons_iff.1 right with here | later
      · exact absurd (stops phrase here (List.Subset.refl phrase)) solid.nonempty
      · exact .inr later
    · have none := stops second right (same ▸ List.subset_append_right first second)
      rw [none, List.append_nil] at same
      exact .inl (same ▸ left.isInfix)
  · rintro (left | right)
    · exact left.trans (List.prefix_append before _).isInfix
    · exact right.trans ((List.suffix_cons b after).trans (List.suffix_append before _)).isInfix

/-- Blanks at the ends do not matter. -/
theorem Solid.infix_between (solid : Solid phrase) {front back : List Char}
    (first : ∀ c ∈ front, isBlank c = true) (last : ∀ c ∈ back, isBlank c = true)
    (cs : List Char) : phrase <:+: front ++ (cs ++ back) ↔ phrase <:+: cs := by
  have ends : ∀ ds : List Char, phrase <:+: ds ++ back ↔ phrase <:+: ds := by
    intro ds
    cases back with
    | nil => rw [List.append_nil]
    | cons b back =>
      obtain ⟨blank, rest⟩ := List.forall_mem_cons.1 last
      rw [solid.infix_blank_iff blank, or_iff_left (solid.not_infix_blanks rest)]
  induction front with
  | nil => exact ends cs
  | cons b front ih =>
    obtain ⟨blank, rest⟩ := List.forall_mem_cons.1 first
    have apart := solid.infix_blank_iff blank [] (front ++ (cs ++ back))
    rw [or_iff_right (solid.not_infix_blanks (by simp))] at apart
    exact apart.trans (ih rest)

theorem toLower_blanks {blanks : List Char} (blank : ∀ c ∈ blanks, isBlank c = true) :
    blanks.map Char.toLower = blanks := by
  have same := List.map_congr_left fun c member => toLower_of_isBlank (blank c member)
  exact same.trans (List.map_id blanks)

theorem contains_lower_trim {phrase : String} (solid : Solid phrase.toList) (extra : String) :
    contains (lower (trim extra)) phrase = contains (lower extra) phrase := by
  obtain ⟨front, back, same, first, last⟩ := strip_between extra.toList
  have lowered := congrArg (List.map Char.toLower) same
  rw [List.map_append, List.map_append, toLower_blanks first, toLower_blanks last] at lowered
  rw [Bool.eq_iff_iff, contains_iff, contains_iff, toList_lower, toList_lower, lowered,
    solid.infix_between first last, trim, String.toList_ofList]

end Text

/-! ### One more modifier -/

namespace Column

open Text

/-- A phrase that is no part of the modifiers before comes in with the new one alone. -/
theorem contains_addModifier {phrase : String} (solid : Solid phrase.toList)
    (extra modifier : String) :
    Text.contains (lower (addModifier extra modifier)) phrase =
      (Text.contains (lower extra) phrase || Text.contains (lower modifier) phrase) := by
  by_cases empty : allBlank extra
  · have blank : ∀ c ∈ extra.toList, isBlank c = true := List.all_eq_true.1 empty
    have absent : Text.contains (lower extra) phrase = false := by
      rw [Bool.eq_false_iff, ne_eq, contains_iff, toList_lower, toLower_blanks blank]
      exact solid.not_infix_blanks blank
    rw [addModifier, if_pos empty, absent, Bool.false_or]
  · rw [addModifier, if_neg empty, ← contains_lower_trim solid extra, Bool.eq_iff_iff,
      Bool.or_eq_true, contains_iff, contains_iff, contains_iff]
    have blank : isBlank ' ' = true := by decide
    have apart := solid.infix_blank_iff blank (lower (trim extra)).toList (lower modifier).toList
    simpa [lower] using apart

theorem solid_autoIncrement : Solid "auto_increment".toList := by
  have unbroken : "auto_increment".toList.any isBlank = false := by decide
  exact ⟨by decide, fun c member => Bool.eq_false_iff.2 (List.any_eq_false.1 unbroken c member)⟩

theorem saysAutoIncrement_addModifier (extra modifier : String) :
    saysAutoIncrement (addModifier extra modifier) =
      (saysAutoIncrement extra || saysAutoIncrement modifier) :=
  contains_addModifier solid_autoIncrement extra modifier

end Column

end SchemaShift
