import SchemaShift.Store.Cell

/-!
# The order of cells

Cells are ordered totally: the numbers by their size, and after them the texts.
-/

namespace SchemaShift.Store.Cell

def isText : Cell → Bool
  | .text _ => true
  | _ => false

theorem le_of_numbers {a b : Cell} (ha : a.isText = false) (hb : b.isText = false) :
    a.le b = true ↔ a.size ≤ b.size := by
  have positive : (0 : Int) < Nat.pow 2 1074 := by
    generalize 1074 = n
    exact Int.natCast_pos.2 (Nat.pow_pos Nat.two_pos)
  cases a with
  | text s => cases ha
  | real bits =>
    cases b with
    | text t => cases hb
    | int n => exact decide_eq_true_iff
    | real bits => exact decide_eq_true_iff
  | int m =>
    cases b with
    | text t => cases hb
    | real bits => exact decide_eq_true_iff
    | int n =>
      unfold le size
      rw [decide_eq_true_iff, Int64.le_iff_toInt_le]
      generalize Nat.pow 2 1074 = k at positive
      exact (Int.mul_le_mul_iff_of_pos_right positive).symm

theorem le_text {a : Cell} (ha : a.isText = false) (s : String) :
    a.le (.text s) = true ∧ (Cell.text s).le a = false := by
  cases a with
  | text t => cases ha
  | int n => exact ⟨rfl, rfl⟩
  | real bits => exact ⟨rfl, rfl⟩

theorem texts_of_isText {a : Cell} (ha : a.isText = true) : ∃ s, a = .text s := by
  cases a with
  | text s => exact ⟨s, rfl⟩
  | int n => cases ha
  | real bits => cases ha

theorem le_total (a b : Cell) : (a.le b || b.le a) = true := by
  rw [Bool.or_eq_true]
  cases ha : a.isText with
  | false =>
    cases hb : b.isText with
    | false =>
      rw [le_of_numbers ha hb, le_of_numbers hb ha]
      exact Int.le_total _ _
    | true =>
      obtain ⟨t, rfl⟩ := texts_of_isText hb
      exact .inl (le_text ha t).1
  | true =>
    obtain ⟨s, rfl⟩ := texts_of_isText ha
    cases hb : b.isText with
    | false => exact .inr (le_text hb s).1
    | true =>
      obtain ⟨t, rfl⟩ := texts_of_isText hb
      simpa [le] using String.le_total s t

theorem number_of_le {a b : Cell} (hb : b.isText = false) (ab : a.le b = true) :
    a.isText = false := by
  cases ha : a.isText with
  | false => rfl
  | true =>
    obtain ⟨s, rfl⟩ := texts_of_isText ha
    rw [(le_text hb s).2] at ab
    cases ab

theorem le_trans (a b c : Cell) (ab : a.le b = true) (bc : b.le c = true) : a.le c = true := by
  cases hc : c.isText with
  | false =>
    have hb := number_of_le hc bc
    have ha := number_of_le hb ab
    rw [le_of_numbers ha hb] at ab
    rw [le_of_numbers hb hc] at bc
    rw [le_of_numbers ha hc]
    exact Int.le_trans ab bc
  | true =>
    obtain ⟨u, rfl⟩ := texts_of_isText hc
    cases ha : a.isText with
    | false => exact (le_text ha u).1
    | true =>
      obtain ⟨s, rfl⟩ := texts_of_isText ha
      cases hb : b.isText with
      | false =>
        rw [(le_text hb s).2] at ab
        cases ab
      | true =>
        obtain ⟨t, rfl⟩ := texts_of_isText hb
        simp only [le, decide_eq_true_iff] at ab bc ⊢
        exact String.le_trans ab bc

end SchemaShift.Store.Cell
