/-!
# Decimal digits

* `ofDigits`: the number that a run of decimal digits stands for.
* `ofDigits_toDigits`: the digits of a number stand for it.
* `ofDigits_lt`: a few digits stand for a small number.
* `padded`: a number with zeros in front up to a width.
* `ofDigits_padded`, `length_padded`: it stands for the number and has the width, if the number fits.
-/

namespace Listings.Text

/-- The number that decimal digits stand for, the first digit weighing most. -/
def ofDigits (digits : List Char) : Nat :=
  digits.foldl (fun n c => 10 * n + (c.toNat - '0'.toNat)) 0

theorem ofDigits_eq (digits : List Char) : ofDigits digits = Nat.ofDigitChars 10 digits 0 :=
  Nat.ofDigitChars_eq_foldl.symm

theorem ofDigits_toDigits (n : Nat) : ofDigits (Nat.toDigits 10 n) = n := by
  rw [ofDigits_eq, Nat.ofDigitChars_ten_toDigits]

theorem foldl_digits_lt {digits : List Char} (h : ∀ c ∈ digits, c.isDigit) (n : Nat) :
    digits.foldl (fun n c => 10 * n + (c.toNat - '0'.toNat)) n < (n + 1) * Nat.pow 10 digits.length := by
  induction digits generalizing n with
  | nil => simp
  | cons c digits ih =>
    obtain ⟨first, rest⟩ := List.forall_mem_cons.1 h
    have digit : c.toNat - '0'.toNat ≤ 9 := by
      have last := (Char.isDigit_iff_toNat.1 first).2
      have nine : '9'.toNat - '0'.toNat = 9 := rfl
      omega
    calc
      digits.foldl _ (10 * n + (c.toNat - '0'.toNat))
        < (10 * n + (c.toNat - '0'.toNat) + 1) * Nat.pow 10 digits.length := ih rest _
      _ ≤ ((n + 1) * 10) * Nat.pow 10 digits.length := Nat.mul_le_mul_right _ (by omega)
      _ = (n + 1) * Nat.pow 10 (digits.length + 1) := by
        rw [Nat.mul_assoc, Nat.mul_comm 10, Nat.pow_eq, Nat.pow_eq, Nat.pow_succ]

/-- As many digits stand for a number below that power of ten. -/
theorem ofDigits_lt {digits : List Char} (h : ∀ c ∈ digits, c.isDigit) :
    ofDigits digits < Nat.pow 10 digits.length := by
  have bound := foldl_digits_lt h 0
  rwa [Nat.zero_add, Nat.one_mul] at bound

/-- A number with zeros in front up to a width. -/
def padded (width n : Nat) : List Char :=
  let digits := Nat.toDigits 10 n
  List.replicate (width - digits.length) '0' ++ digits

theorem ofDigits_replicate_append (k : Nat) (digits : List Char) :
    ofDigits (List.replicate k '0' ++ digits) = ofDigits digits := by
  induction k with
  | zero => rfl
  | succ k ih => rwa [List.replicate_succ, List.cons_append, ofDigits, List.foldl_cons]

theorem ofDigits_padded (width n : Nat) : ofDigits (padded width n) = n := by
  rw [padded, ofDigits_replicate_append, ofDigits_toDigits]

theorem isDigit_of_mem_padded {width n : Nat} {c : Char} (h : c ∈ padded width n) : c.isDigit := by
  rcases List.mem_append.1 h with zero | digit
  · rw [List.eq_of_mem_replicate zero]
    rfl
  · exact Nat.isDigit_of_mem_toDigits (by decide) (by decide) digit

theorem padded_ne_nil (width n : Nat) : padded width n ≠ [] :=
  List.append_ne_nil_of_right_ne_nil _ Nat.toDigits_ne_nil

theorem length_padded {width n : Nat} (pos : 0 < width) (h : n < Nat.pow 10 width) :
    (padded width n).length = width := by
  have fits := (Nat.length_toDigits_le_iff (by decide) pos).2 h
  rw [padded, List.length_append, List.length_replicate]
  omega

end Listings.Text
