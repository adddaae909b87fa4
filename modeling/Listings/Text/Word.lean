import Listings.Text.Blank

/-!
# Words

A word is a letter or underscore followed by letters, digits and underscores, all of them ASCII.
Field names, function names and sort fields are words.

* `isWord`: whether a text is one word.
* `isBlank_of_isWordPart`: no character of a word is blank.
-/

namespace Listings.Text

/-- A character that may start a word. -/
def isWordStart (c : Char) : Bool := c.isAlpha || c == '_'

/-- A character that may stand in a word. -/
def isWordPart (c : Char) : Bool := c.isAlphanum || c == '_'

/-- Whether the whole text is one word. -/
def isWord : List Char → Bool
  | [] => false
  | c :: cs => isWordStart c && cs.all isWordPart

theorem isWordPart_of_isWordStart {c : Char} (h : isWordStart c) : isWordPart c := by
  simp only [isWordStart, isWordPart, Char.isAlphanum, Bool.or_eq_true] at *
  exact h.elim (fun h => .inl (.inl h)) .inr

theorem isWordPart_of_isWord {cs : List Char} (h : isWord cs) : ∀ c ∈ cs, isWordPart c := by
  cases cs with
  | nil => exact fun _ => nofun
  | cons c cs =>
    obtain ⟨start, parts⟩ := Bool.and_eq_true_iff.1 h
    exact List.forall_mem_cons.2 ⟨isWordPart_of_isWordStart start, List.all_eq_true.1 parts⟩

/-- A character that stands in no word stands in none. -/
theorem not_mem_of_isWord {cs : List Char} (h : isWord cs) {c : Char} (other : isWordPart c = false) :
    c ∉ cs := by
  intro mem
  rw [isWordPart_of_isWord h c mem] at other
  cases other

/-! ## Words and blanks -/

theorem isBlank_of_isWordPart {c : Char} (h : isWordPart c) : isBlank c = false := by
  have bounds : (65 ≤ c.toNat ∧ c.toNat ≤ 90 ∨ 97 ≤ c.toNat ∧ c.toNat ≤ 122)
      ∨ (48 ≤ c.toNat ∧ c.toNat ≤ 57) ∨ c.toNat = 95 := by
    unfold isWordPart Char.isAlphanum Char.isAlpha Char.isUpper Char.isLower Char.isDigit at h
    simp only [Bool.or_eq_true, Bool.and_eq_true, decide_eq_true_eq, beq_iff_eq,
      UInt32.le_iff_toNat_le, ge_iff_le] at h
    rcases h with ((upper | lower) | digit) | rfl
    · exact .inl (.inl upper)
    · exact .inl (.inr lower)
    · exact .inr (.inl digit)
    · exact .inr (.inr rfl)
  simp [isBlank, blanks, CodeSet.contains]
  omega

theorem isBlank_of_isDigit {c : Char} (h : c.isDigit) : isBlank c = false :=
  isBlank_of_isWordPart (by simp [isWordPart, Char.isAlphanum, h])

theorem tight_of_isWord {cs : List Char} (h : isWord cs) : Tight cs where
  first c hc := isBlank_of_isWordPart (isWordPart_of_isWord h c (List.mem_of_head? hc))
  last c hc := isBlank_of_isWordPart (isWordPart_of_isWord h c (List.mem_of_getLast? hc))

end Listings.Text
