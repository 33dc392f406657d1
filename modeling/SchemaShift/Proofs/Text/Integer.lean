import Mathlib.Algebra.Group.Nat.Defs
import SchemaShift.Text.Integer

/-!
# Integers read back

A number is written in digits, with a sign or zeros in front where it has them. Whatever reads
integers takes the number that was written.
-/

namespace SchemaShift.Text

/-! ### Plain digits -/

theorem isDigit_of_mem_natText {n : Nat} {c : Char} (member : c ∈ (natText n).toList) :
    c.isDigit = true := by
  rw [natText, String.toList_ofList] at member
  exact Nat.isDigit_of_mem_toDigits (by decide) (by decide) member

theorem natText_ne_nil (n : Nat) : (natText n).toList ≠ [] := by
  simp [natText]

theorem digits?_eq_some {cs : List Char} (shown : cs ≠ []) (all : ∀ c ∈ cs, c.isDigit = true) :
    digits? cs = some (Nat.ofDigitChars 10 cs 0) := by
  rw [digits?, if_neg (by simp [shown]), if_pos (List.all_eq_true.2 all)]

theorem digits?_natText (n : Nat) : digits? (natText n).toList = some n := by
  rw [digits?_eq_some (natText_ne_nil n) fun _ => isDigit_of_mem_natText, natText,
    String.toList_ofList, Nat.ofDigitChars_toDigits (by decide) (by decide)]

theorem natText_inj {m n : Nat} (same : natText m = natText n) : m = n := by
  have read := digits?_natText m
  rw [same, digits?_natText] at read
  exact (Option.some.inj read).symm

/-- A plus sign in front of the digits makes no difference. -/
theorem uint64?_of_digits {cs : List Char} {n : Nat} (read : digits? cs = some n)
    (small : n < wordLimit) :
    uint64? cs = some (UInt64.ofNat n) ∧ uint64? ('+' :: cs) = some (UInt64.ofNat n) := by
  constructor
  · rw [uint64?]
    · rw [read, Option.bind_some, if_pos small]
    · rintro rest rfl
      simp [digits?] at read
  · show (digits? cs).bind _ = _
    rw [read, Option.bind_some, if_pos small]

theorem uint64?_natText (n : UInt64) : uint64? (natText n.toNat).toList = some n := by
  rw [(uint64?_of_digits (digits?_natText n.toNat) n.toNat_lt).1, UInt64.ofNat_toNat]

/-! ### Signs -/

theorem integer?_natText (n : Nat) : integer? (natText n).toList = some (n : Int) := by
  have unsigned : ∀ c, c.isDigit = false → ∀ rest, (natText n).toList ≠ c :: rest := by
    intro c sign rest same
    have digit := isDigit_of_mem_natText (same ▸ List.mem_cons_self)
    rw [sign] at digit
    cases digit
  rw [integer?]
  · rw [digits?_natText]
    rfl
  · exact unsigned '+' (by decide)
  · exact unsigned '-' (by decide)

theorem integer?_intText (n : Int) : integer? (intText n).toList = some n := by
  unfold intText
  split
  · rename_i negative
    rw [String.toList_append]
    show (digits? (natText n.natAbs).toList).map (fun n => -Int.ofNat n) = some n
    rw [digits?_natText, Option.map_some, Int.ofNat_eq_natCast]
    congr
    omega
  · rw [integer?_natText]
    congr
    omega

theorem mem_intText {n : Int} {c : Char} (member : c ∈ (intText n).toList) :
    c.isDigit = true ∨ c = '-' := by
  unfold intText at member
  split at member
  · rw [String.toList_append] at member
    rcases List.mem_append.1 member with sign | digit
    · exact .inr (List.mem_singleton.1 sign)
    · exact .inl (isDigit_of_mem_natText digit)
  · exact .inl (isDigit_of_mem_natText member)

theorem intText_ne_nil (n : Int) : (intText n).toList ≠ [] := by
  intro empty
  have read := integer?_intText n
  rw [empty] at read
  cases read

theorem asInt64?_toInt (n : Int64) : asInt64? n.toInt = some n := by
  have low := n.le_toInt
  have high := n.toInt_lt
  have fits : -(signedLimit : Int) ≤ n.toInt ∧ n.toInt < (signedLimit : Int) := by
    simp only [signedLimit]
    omega
  rw [asInt64?, if_pos fits, Int64.ofInt_toInt]

theorem int64?_intText (n : Int64) : int64? (intText n.toInt).toList = some n := by
  rw [int64?, integer?_intText, Option.bind_some, asInt64?_toInt]

/-! ### Zeros in front -/

theorem isDigit_of_mem_padded {width n : Nat} {c : Char} (member : c ∈ (padded width n).toList) :
    c.isDigit = true := by
  rw [padded, String.toList_ofList] at member
  rcases List.mem_append.1 member with zero | digit
  · rw [(List.mem_replicate.1 zero).2]
    rfl
  · exact Nat.isDigit_of_mem_toDigits (by decide) (by decide) digit

theorem length_padded {width n : Nat} (wide : 0 < width) (fits : n < 10 ^ width) :
    (padded width n).toList.length = width := by
  have short := (Nat.length_toDigits_le_iff (by decide) wide).2 fits
  rw [padded, String.toList_ofList, List.length_append, List.length_replicate]
  omega

theorem ofDigitChars_padded_zero (width n : Nat) :
    Nat.ofDigitChars 10 (padded width n).toList 0 = n := by
  rw [padded, String.toList_ofList, Nat.ofDigitChars_append, Nat.ofDigitChars_replicate_zero,
    Nat.mul_zero, Nat.ofDigitChars_toDigits (by decide) (by decide)]

/-- The digits of a number that fits go on from those before them. -/
theorem ofDigitChars_padded {width n : Nat} (wide : 0 < width) (fits : n < 10 ^ width)
    (before : Nat) :
    Nat.ofDigitChars 10 (padded width n).toList before = 10 ^ width * before + n := by
  rw [Nat.ofDigitChars_eq_ofDigitChars_zero, length_padded wide fits, ofDigitChars_padded_zero]

end SchemaShift.Text
