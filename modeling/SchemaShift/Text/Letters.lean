/-!
# ASCII letter case

Case is changed for ASCII letters alone; every other character stays as it is, so the
changed text has as many characters as the first one.
-/

namespace SchemaShift.Text

def lower (s : String) : String :=
  String.ofList (s.toList.map Char.toLower)

def upper (s : String) : String :=
  String.ofList (s.toList.map Char.toUpper)

/-- The two texts differ in the case of ASCII letters at most. -/
def sameLetters (s t : String) : Bool :=
  lower s == lower t

@[simp] theorem toList_lower (s : String) : (lower s).toList = s.toList.map Char.toLower := by
  simp [lower]

@[simp] theorem toList_upper (s : String) : (upper s).toList = s.toList.map Char.toUpper := by
  simp [upper]

theorem toLower_cases (c : Char) :
    c.toLower = c ∧ c.isUpper = false ∨ ∃ place : Fin 26, c = Char.ofNat (65 + place) := by
  by_cases capital : 65 ≤ c.toNat ∧ c.toNat ≤ 90
  · refine .inr ⟨⟨c.toNat - 65, by omega⟩, ?_⟩
    rw [Nat.add_sub_cancel' capital.1, Char.ofNat_toNat]
  · exact .inl ⟨dif_neg capital, decide_eq_false capital⟩

/-- Lower case makes letters of letters alone. -/
theorem toLower_eq_iff {c x : Char} (caseless : x.isAlpha = false) : c.toLower = x ↔ c = x := by
  have letters : ∀ place : Fin 26, (Char.ofNat (65 + place)).isAlpha = true ∧
      (Char.ofNat (65 + place)).toLower.isAlpha = true := by decide
  rcases toLower_cases c with ⟨kept, -⟩ | ⟨place, rfl⟩
  · rw [kept]
  · obtain ⟨before, after⟩ := letters place
    refine iff_of_false (fun same => ?_) (fun same => ?_)
    · rw [same, caseless] at after
      cases after
    · rw [same, caseless] at before
      cases before

theorem isUpper_toLower (c : Char) : c.toLower.isUpper = false := by
  have letters : ∀ place : Fin 26, (Char.ofNat (65 + place)).toLower.isUpper = false := by decide
  rcases toLower_cases c with ⟨kept, small⟩ | ⟨place, rfl⟩
  · rw [kept, small]
  · exact letters place

theorem toLower_toLower (c : Char) : c.toLower.toLower = c.toLower := by
  have letters : ∀ place : Fin 26, (Char.ofNat (65 + place)).toLower.toLower =
      (Char.ofNat (65 + place)).toLower := by decide
  rcases toLower_cases c with ⟨kept, -⟩ | ⟨place, rfl⟩
  · rw [kept, kept]
  · exact letters place

end SchemaShift.Text
