/-!
# Searching and splitting

`from? p` is the part of a text that begins at the first place satisfying `p`; the
searches for a phrase are instances of it.
-/

namespace SchemaShift.Text

/-- The longest tail of `cs` that satisfies `p`. -/
def from? (p : List Char → Bool) : List Char → Option (List Char)
  | [] => if p [] then some [] else none
  | c :: cs => if p (c :: cs) then some (c :: cs) else from? p cs

/-- `phrase` occurs in `s`. -/
def contains (s phrase : String) : Bool :=
  (from? (phrase.toList.isPrefixOf ·) s.toList).isSome

def startsWith (s phrase : String) : Bool :=
  phrase.toList.isPrefixOf s.toList

/-- The pieces between the places where `sep` stands: one more piece than places. -/
def splitOn (sep : Char) : List Char → List (List Char)
  | [] => [[]]
  | c :: cs =>
    if c = sep then [] :: splitOn sep cs
    else match splitOn sep cs with
      | [] => [[c]]
      | piece :: pieces => (c :: piece) :: pieces

/-- The texts one after another, with `sep` between each two. -/
def join (sep : String) : List String → String
  | [] => ""
  | [s] => s
  | s :: t :: rest => s ++ sep ++ join sep (t :: rest)

/-! ### Laws -/

theorem from?_eq_some {p : List Char → Bool} {cs ds : List Char} (h : from? p cs = some ds) :
    p ds = true ∧ ∃ es, cs = es ++ ds := by
  induction cs with
  | nil =>
    simp only [from?] at h
    split at h <;> simp_all
  | cons c cs ih =>
    simp only [from?] at h
    split at h
    · cases h; exact ⟨by assumption, [], rfl⟩
    · obtain ⟨hp, es, he⟩ := ih h
      exact ⟨hp, c :: es, by simp [he]⟩

/-- The first piece ends at the first place of the separator. -/
theorem splitOn_append {sep : Char} {piece : List Char} (free : sep ∉ piece) (rest : List Char) :
    splitOn sep (piece ++ sep :: rest) = piece :: splitOn sep rest := by
  induction piece with
  | nil => rw [List.nil_append, splitOn, if_pos rfl]
  | cons c piece ih =>
    have other : c ≠ sep := fun same => free (same ▸ List.mem_cons_self)
    have later := ih fun member => free (List.mem_cons_of_mem c member)
    rw [List.cons_append, splitOn, if_neg other, later]

end SchemaShift.Text
