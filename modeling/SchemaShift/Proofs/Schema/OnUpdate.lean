import SchemaShift.Ddl.MySql
import SchemaShift.Proofs.Schema.DeclaredTypes
import SchemaShift.Proofs.Schema.Modifiers

/-!
# The clause for updates

The phrase that opens the clause is looked up in a copy of the modifiers in small letters, and the
place that is found there cuts the modifiers themselves. Places count bytes. Small letters take as
many bytes as capitals, whatever other characters stand between them, so the place lies between the
same two characters of both texts; and the phrase takes nine bytes wherever it stands.
-/

namespace SchemaShift

open Text

namespace Text

/-! ### The first place -/

theorem from?_eq_none {p : List Char → Bool} {cs : List Char} (h : from? p cs = none)
    {front back : List Char} (parts : cs = front ++ back) : p back = false := by
  induction cs generalizing front with
  | nil =>
    obtain ⟨-, rfl⟩ := List.append_eq_nil_iff.1 parts.symm
    simpa [from?] using h
  | cons c cs ih =>
    rw [from?] at h
    split at h
    · cases h
    · rename_i absent
      cases front with
      | nil =>
        rw [← show c :: cs = back from parts]
        exact Bool.eq_false_iff.2 absent
      | cons d front => exact ih h (List.cons.inj parts).2

/-- What is found begins no later than any other part of the kind. -/
theorem from?_first {p : List Char → Bool} {cs found : List Char} (h : from? p cs = some found) :
    ∃ before, cs = before ++ found ∧ p found = true ∧
      ∀ front back, cs = front ++ back → p back = true → before.length ≤ front.length := by
  induction cs with
  | nil =>
    obtain ⟨holds, before, same⟩ := from?_eq_some h
    obtain ⟨rfl, rfl⟩ := List.append_eq_nil_iff.1 same.symm
    exact ⟨[], rfl, holds, fun front back _ _ => Nat.zero_le _⟩
  | cons c cs ih =>
    rw [from?] at h
    split at h
    · rename_i here
      cases h
      exact ⟨[], rfl, here, fun front back _ _ => Nat.zero_le _⟩
    · rename_i absent
      obtain ⟨before, rfl, holds, first⟩ := ih h
      refine ⟨c :: before, rfl, holds, fun front back parts other => ?_⟩
      cases front with
      | nil => exact absurd (parts ▸ other) absent
      | cons d front =>
        exact Nat.succ_le_succ (first front back (List.cons.inj parts).2 other)

/-! ### Bytes -/

theorem utf8Size_toLower (c : Char) : c.toLower.utf8Size = c.utf8Size := by
  have letters : ∀ place : Fin 26, (Char.ofNat (65 + place)).toLower.utf8Size =
      (Char.ofNat (65 + place)).utf8Size := by decide
  rcases toLower_cases c with ⟨kept, -⟩ | ⟨place, rfl⟩
  · rw [kept]
  · exact letters place

theorem utf8ByteSize_cons (c : Char) (cs : List Char) :
    (String.ofList (c :: cs)).utf8ByteSize = c.utf8Size + (String.ofList cs).utf8ByteSize := by
  rw [← List.singleton_append, String.ofList_append, String.utf8ByteSize_append,
    ← String.singleton_eq_ofList, String.utf8ByteSize_singleton]

theorem utf8ByteSize_map_toLower (cs : List Char) :
    (String.ofList (cs.map Char.toLower)).utf8ByteSize = (String.ofList cs).utf8ByteSize := by
  induction cs with
  | nil => rfl
  | cons c cs ih => rw [List.map_cons, utf8ByteSize_cons, utf8ByteSize_cons, utf8Size_toLower, ih]

theorem utf8ByteSize_lower (s : String) : (lower s).utf8ByteSize = s.utf8ByteSize := by
  rw [lower, utf8ByteSize_map_toLower, String.ofList_toList]

theorem lower_append (s t : String) : lower (s ++ t) = lower s ++ lower t := by
  simp [lower]

/-- The text from a byte on. There is none past the end or within a character. -/
def fromByte? (s : String) (place : String.Pos.Raw) : Option String :=
  (s.pos? place).map fun p => (s.sliceFrom p).copy

theorem fromByte?_append (s t : String) : fromByte? (s ++ t) s.rawEndPos = some t := by
  have inside : s.rawEndPos.IsValid (s ++ t) :=
    String.Pos.Raw.isValid_iff_exists_append.2 ⟨s, t, rfl, rfl⟩
  have known : (s ++ t).pos? s.rawEndPos = some ((s ++ t).pos s.rawEndPos inside) := by
    simp [String.pos?, String.Slice.pos?, String.pos, inside]
  have parts : ((s ++ t).pos s.rawEndPos inside).Splits s t := ⟨rfl, String.offset_pos⟩
  rw [fromByte?, known, Option.map_some, (String.Pos.splits _).eq_right parts]

/-- A phrase is found in front of what comes after it, if it stands nowhere before. -/
theorem find?_first {s phrase before after : String} (nonempty : phrase ≠ "")
    (here : s = before ++ (phrase ++ after))
    (first : ∀ front back, s = front ++ (phrase ++ back) →
      before.utf8ByteSize ≤ front.utf8ByteSize) :
    ∃ found, s.find? phrase = some found ∧ found.offset = before.rawEndPos := by
  have := String.Slice.Pattern.Model.ForwardStringSearcher.strictPatternModel nonempty
  have := String.Slice.Pattern.Model.ForwardStringSearcher.lawfulToForwardSearcherModel nonempty
  have inside : before.rawEndPos.IsValid s :=
    String.Pos.Raw.isValid_iff_exists_append.2 ⟨before, phrase ++ after, here, rfl⟩
  have parts : (s.pos before.rawEndPos inside).Splits before (phrase ++ after) :=
    ⟨here, String.offset_pos⟩
  refine ⟨s.pos before.rawEndPos inside, ?_, rfl⟩
  rw [String.find?_eq_find?_toSlice]
  have found : s.toSlice.find? phrase = some (s.pos before.rawEndPos inside).toSlice := by
    rw [String.Slice.Pattern.Model.find?_eq_some_iff]
    simp only [String.Slice.Pattern.Model.ForwardStringSearcher.matchesAt_iff_splits]
    refine ⟨⟨before, after, parts.toSlice⟩, ?_⟩
    rintro earlier less ⟨front, back, other⟩
    have whole : s = front ++ (phrase ++ back) := by simpa using other.eq_append
    have later := first front back whole
    have place := congrArg String.Pos.Raw.byteIdx other.offset_eq_rawEndPos
    have less : earlier.offset.byteIdx < before.utf8ByteSize := less
    have place : earlier.offset.byteIdx = front.utf8ByteSize := place
    omega
  rw [found]
  rfl

end Text

namespace Column

/-! ### The place of the phrase -/

/-- The text starts with the phrase, in whatever letter case. -/
def SaysOnUpdate (s : String) : Prop :=
  "on update".toList <+: (lower s).toList

theorem saysOnUpdate_iff (s : String) :
    SaysOnUpdate s ↔ "on update".toList.isPrefixOf (s.toList.map Char.toLower) = true := by
  rw [SaysOnUpdate, toList_lower, List.isPrefixOf_iff_prefix]

/-- The part of the modifiers from the first occurrence of the phrase on. -/
structure OnUpdatePart (extra before rest : String) : Prop where
  whole : extra = before ++ rest
  phrase : SaysOnUpdate rest
  first : ∀ front back, extra = front ++ back → SaysOnUpdate back → before.length ≤ front.length

/-- The clause cut out by bytes: the place of the phrase in the copy in small letters, and the
modifiers from there on, if they can be cut at that place. -/
def onUpdateByBytes (extra : String) : Option (Option String) :=
  ((lower extra).find? "on update").map fun found => (fromByte? extra found.offset).map trim

variable {extra before rest : String}

/-- A place in the copy is one in the modifiers. -/
theorem exists_of_lower {front back : String}
    (parts : lower extra = front ++ ("on update" ++ back)) :
    ∃ front' back', extra = front' ++ back' ∧ lower front' = front ∧ SaysOnUpdate back' := by
  have chars := congrArg String.toList parts
  rw [toList_lower, String.toList_append] at chars
  obtain ⟨cs, ds, split, before, after⟩ := List.map_eq_append_iff.1 chars
  refine ⟨String.ofList cs, String.ofList ds, ?_, ?_, ?_⟩
  · rw [← String.ofList_append, ← split, String.ofList_toList]
  · rw [lower, String.toList_ofList, before, String.ofList_toList]
  · have kept : (String.ofList ds).toList = ds := String.toList_ofList
    rw [SaysOnUpdate, toList_lower, kept, after, String.toList_append]
    exact List.prefix_append _ _

theorem OnUpdatePart.first_byte (part : OnUpdatePart extra before rest) {front back : String}
    (parts : lower extra = front ++ ("on update" ++ back)) :
    (lower before).utf8ByteSize ≤ front.utf8ByteSize := by
  obtain ⟨front', back', split, rfl, opens⟩ := exists_of_lower parts
  have longer := part.first front' back' split opens
  rw [utf8ByteSize_lower, utf8ByteSize_lower]
  -- Both begin the modifiers, and the longer one goes on from the shorter.
  have both : before.toList ++ rest.toList = front'.toList ++ back'.toList := by
    rw [← String.toList_append, ← String.toList_append, ← part.whole, split]
  obtain ⟨more, same⟩ : before.toList <+: front'.toList := by
    refine List.prefix_of_prefix_length_le (List.prefix_append _ rest.toList) ?_ longer
    exact both ▸ List.prefix_append _ _
  have longer : front' = before ++ String.ofList more := by
    rw [← String.toList_inj, String.toList_append, String.toList_ofList, same]
  rw [longer, String.utf8ByteSize_append]
  exact Nat.le_add_right _ _

theorem OnUpdatePart.found (part : OnUpdatePart extra before rest) :
    onUpdateByBytes extra = some (some (trim rest)) := by
  obtain ⟨after, same⟩ := part.phrase
  have here : lower extra = lower before ++ ("on update" ++ String.ofList after) := by
    rw [part.whole, lower_append, ← String.ofList_toList (s := lower rest), ← same,
      String.ofList_append, String.ofList_toList]
  obtain ⟨found, known, place⟩ := find?_first (by decide) here fun _ _ => part.first_byte
  have size : (lower before).rawEndPos = before.rawEndPos :=
    String.Pos.Raw.ext (utf8ByteSize_lower before)
  rw [onUpdateByBytes, known, Option.map_some, place, size, part.whole, fromByte?_append,
    Option.map_some]

theorem onUpdateByBytes_absent (absent : ¬"on update".toList <:+: (lower extra).toList) :
    onUpdateByBytes extra = none := by
  have nowhere : (lower extra).toSlice.find? "on update" = none := by
    rw [String.Slice.find?_eq_none_iff, String.Slice.contains_string_eq_false_iff,
      String.copy_toSlice]
    exact absent
  rw [onUpdateByBytes, String.find?_eq_find?_toSlice, nowhere]
  rfl

/-! ### The clause -/

theorem onUpdate_eq (c : Column) :
    (¬"on update".toList <:+: (lower c.extra).toList ∧ c.onUpdate = none) ∨
    ∃ before rest, OnUpdatePart c.extra before rest ∧ c.onUpdate = some (trim rest) := by
  unfold onUpdate
  cases search : from? (fun cs => "on update".toList.isPrefixOf (cs.map Char.toLower))
      c.extra.toList with
  | none =>
    refine .inl ⟨fun ⟨front, back, same⟩ => ?_, rfl⟩
    have parts : lower c.extra = String.ofList front ++ ("on update" ++ String.ofList back) := by
      rw [← String.ofList_toList (s := lower c.extra), ← same, List.append_assoc,
        String.ofList_append, String.ofList_append, String.ofList_toList]
    obtain ⟨front', back', split, -, opens⟩ := exists_of_lower parts
    have refused := from?_eq_none search (split ▸ String.toList_append)
    rw [(saysOnUpdate_iff back').1 opens] at refused
    cases refused
  | some found =>
    obtain ⟨before, parts, holds, first⟩ := from?_first search
    have kept (cs : List Char) : (String.ofList cs).toList = cs := String.toList_ofList
    refine .inr ⟨String.ofList before, String.ofList found, ⟨?_, ?_, ?_⟩, ?_⟩
    · rw [← String.ofList_append, ← parts, String.ofList_toList]
    · rw [saysOnUpdate_iff, kept found]
      exact holds
    · intro front back split opens
      rw [← String.length_toList, ← String.length_toList, kept]
      refine first front.toList back.toList ?_ ((saysOnUpdate_iff back).1 opens)
      rw [split, String.toList_append]
    · rw [Option.map_some, trim, kept]

theorem solid_of_toLower {c x : Char} (small : c.toLower = x) (solid : isBlank x = false) :
    isBlank c = false := by
  by_contra blank
  rw [Bool.not_eq_false] at blank
  rw [← small, toLower_of_isBlank blank, blank] at solid
  cases solid

/-- The clause is the phrase, nine bytes long, and what is left of the rest without the blanks at
its end. -/
theorem clause_parts {rest : String} (opens : SaysOnUpdate rest) :
    (trim rest).toList = stripEnd rest.toList ∧
      ∃ phrase expression, trim rest = phrase ++ expression ∧ phrase.length = 9 ∧
        lower phrase = "on update" ∧ fromByte? (trim rest) ⟨9⟩ = some expression := by
  obtain ⟨after, same⟩ := opens
  rw [toList_lower] at same
  obtain ⟨phrase, tail, split, small, -⟩ := List.map_eq_append_iff.1 same.symm
  have start : "on update".toList = 'o' :: "n update".toList := by decide
  have stop : "on update".toList = "on updat".toList ++ ['e'] := by decide
  obtain ⟨c, more, opening, first, -⟩ := List.map_eq_cons_iff.1 (small.trans start)
  obtain ⟨init, last, closing, -, ending⟩ := List.map_eq_append_iff.1 (small.trans stop)
  obtain ⟨d, rfl, last⟩ := List.map_eq_singleton_iff.1 ending
  -- The phrase has no blank at either end, so that the blanks around the rest end before it.
  have front : stripStart rest.toList = rest.toList := by
    rw [split, opening]
    exact stripStart_cons_of_not_blank _ (solid_of_toLower first (by decide))
  have back : stripEnd rest.toList = phrase ++ stripEnd tail := by
    rw [split, closing, List.append_assoc, List.singleton_append,
      stripEnd_append_cons (solid_of_toLower last (by decide)), List.append_assoc,
      List.singleton_append]
  have stripped : (trim rest).toList = stripEnd rest.toList := by
    rw [trim, String.toList_ofList, strip, front]
  have clause : trim rest = String.ofList phrase ++ String.ofList (stripEnd tail) := by
    rw [← String.toList_inj, stripped, back, ← String.ofList_append, String.toList_ofList]
  have length : phrase.length = 9 := by
    have letters := congrArg List.length small
    rw [List.length_map] at letters
    exact letters
  have small : lower (String.ofList phrase) = "on update" := by
    rw [lower, String.toList_ofList, small, String.ofList_toList]
  have bytes : (String.ofList phrase).rawEndPos = ⟨9⟩ := by
    refine String.Pos.Raw.ext ?_
    show (String.ofList phrase).utf8ByteSize = 9
    rw [← utf8ByteSize_lower, small]
    decide
  refine ⟨stripped, String.ofList phrase, String.ofList (stripEnd tail), clause, ?_, small, ?_⟩
  · rw [← String.length_toList, String.toList_ofList, length]
  · rw [clause, ← bytes, fromByte?_append]

end Column

theorem MySql.onUpdateClause_eq {c : Column} {clause phrase expression : String}
    (found : c.onUpdate = some clause) (parts : clause = phrase ++ expression)
    (length : phrase.length = 9) : onUpdateClause c = " ON UPDATE " ++ trim expression := by
  have nine : "on update".length = phrase.toList.length := by
    rw [String.length_toList, length]
    decide
  rw [onUpdateClause, found, parts]
  dsimp only
  rw [String.toList_append, nine, List.drop_left]
  rfl

namespace Column

/-- The clause is there exactly if the modifiers have the phrase. Neither cut by bytes can fail, and
both give what the characters give. -/
theorem onUpdate_cut (c : Column) :
    (c.onUpdate.isSome = true ↔ "on update".toList <:+: (lower c.extra).toList) ∧
    onUpdateByBytes c.extra = c.onUpdate.map some ∧
    ∀ clause, c.onUpdate = some clause → ∃ before rest phrase expression,
      OnUpdatePart c.extra before rest ∧ clause.toList = stripEnd rest.toList ∧
      clause = phrase ++ expression ∧ phrase.length = 9 ∧ lower phrase = "on update" ∧
      fromByte? clause ⟨9⟩ = some expression ∧
      MySql.onUpdateClause c = " ON UPDATE " ++ trim expression ∧
      ∃ front, MySql.columnDefinition c =
        front ++ (" ON UPDATE " ++ trim expression) ++ MySql.commentClause c.comment := by
  rcases onUpdate_eq c with ⟨absent, none⟩ | ⟨before, rest, part, found⟩
  · rw [none]
    refine ⟨iff_of_false Bool.false_ne_true absent, onUpdateByBytes_absent absent, ?_⟩
    intro clause same
    cases same
  · have occurs : "on update".toList <:+: (lower c.extra).toList := by
      rw [part.whole, lower_append, String.toList_append]
      exact part.phrase.isInfix.trans (List.suffix_append _ _).isInfix
    rw [found]
    refine ⟨iff_of_true rfl occurs, part.found, ?_⟩
    rintro clause same
    cases same
    obtain ⟨stripped, phrase, expression, parts, length, small, cut⟩ := clause_parts part.phrase
    have written := MySql.onUpdateClause_eq found parts length
    refine ⟨before, rest, phrase, expression, part, stripped, parts, length, small, cut, written,
      ?_⟩
    rw [← written]
    exact ⟨_, rfl⟩

-- Wider characters stand before the phrase and after it, and a wide blank at the end.
example :
    let c := { Column.ofType "größe" "timestamp" with
      extra := "größe Ⅻ ON update é oN uPDATE NOW(3)\u3000" }
    c.onUpdate = some "ON update é oN uPDATE NOW(3)" ∧
      MySql.onUpdateClause c = " ON UPDATE é oN uPDATE NOW(3)" := by
  decide +kernel

end Column

end SchemaShift
