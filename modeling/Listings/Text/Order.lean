import Listings.Text.Digits

/-!
# The order of texts

Texts are ordered by the first character in which they differ.

* `compare_toList`: the order of strings is that of the lists of their characters.
* `compareBytes`: the order of two texts byte by byte.
* `compareBytes_of_ascii`: texts of one byte for each character have the same order either way.
* `compare_ofDigits`: as many digits as others have the order of the numbers that they stand for.
-/

namespace Listings.Text

/-! ## Lists -/

/-- What follows texts of one length decides only if these are the same. -/
theorem compare_append {α : Type} [Ord α] {as bs : List α} (same : as.length = bs.length)
    (as' bs' : List α) :
    compare (as ++ as') (bs ++ bs') = (compare as bs).then (compare as' bs') := by
  induction as generalizing bs with
  | nil =>
    cases bs with
    | nil => rfl
    | cons b bs => cases same
  | cons a as ih =>
    cases bs with
    | nil => cases same
    | cons b bs =>
      rw [List.cons_append, List.cons_append, List.compare_cons_cons, List.compare_cons_cons,
        ih (Nat.succ.inj same), Ordering.then_assoc]

/-- Codes that keep the order of the items keep that of the lists. -/
theorem compare_map {α β : Type} [Ord α] [Ord β] {f : α → β} {as bs : List α}
    (h : ∀ a ∈ as, ∀ b ∈ bs, compare (f a) (f b) = compare a b) :
    compare (as.map f) (bs.map f) = compare as bs := by
  induction as generalizing bs with
  | nil => cases bs <;> rfl
  | cons a as ih =>
    cases bs with
    | nil => rfl
    | cons b bs =>
      have rest := ih fun a ha b hb => h a (List.mem_cons_of_mem _ ha) b (List.mem_cons_of_mem _ hb)
      rw [List.map_cons, List.map_cons, List.compare_cons_cons, List.compare_cons_cons, rest,
        h a List.mem_cons_self b List.mem_cons_self]

/-! ## Characters -/

theorem compareOfLessAndEq_congr {α β : Type} [LT α] [DecidableLT α] [DecidableEq α] [LT β]
    [DecidableLT β] [DecidableEq β] {a b : α} {c d : β} (less : a < b ↔ c < d)
    (same : a = b ↔ c = d) : compareOfLessAndEq a b = compareOfLessAndEq c d := by
  simp only [compareOfLessAndEq, less, same]

/-- Characters have the order of their codes. -/
theorem compare_toNat (c d : Char) : compare c.toNat d.toNat = compare c d :=
  compareOfLessAndEq_congr (Char.lt_def.trans UInt32.lt_iff_toNat_lt).symm Char.toNat_inj

theorem compare_eq_lt_iff {as bs : List Char} : compare as bs = .lt ↔ as < bs := by
  induction as generalizing bs with
  | nil =>
    cases bs with
    | nil => exact ⟨nofun, nofun⟩
    | cons b bs => exact ⟨fun _ => List.Lex.nil, fun _ => rfl⟩
  | cons a as ih =>
    cases bs with
    | nil => exact ⟨nofun, nofun⟩
    | cons b bs =>
      rw [List.compare_cons_cons, Ordering.then_eq_lt, List.cons_lt_cons_iff, ih,
        Std.LawfulEqOrd.compare_eq_iff_eq]
      exact or_congr_left compareOfLessAndEq_eq_lt

/-- Strings have the order of the lists of their characters. -/
theorem compare_toList (s t : String) : compare s t = compare s.toList t.toList := by
  have less {s t : String} (h : compare s.toList t.toList = .lt) : compare s t = .lt :=
    compareOfLessAndEq_eq_lt.2 (compare_eq_lt_iff.1 h)
  cases h : compare s.toList t.toList with
  | lt => exact less h
  | eq =>
    rw [Std.LawfulEqOrd.compare_eq_iff_eq, String.toList_inj] at h
    rw [h, Std.compare_self]
  | gt =>
    rw [Std.OrientedOrd.eq_swap, Ordering.swap_eq_gt] at h ⊢
    exact less h

/-! ## Bytes -/

/-- The order of two texts, byte by byte. -/
def compareBytes (s t : String) : Ordering := compare s.toUTF8.data.toList t.toUTF8.data.toList

/-- The characters of a text have one byte each. -/
def Ascii (cs : List Char) : Prop := ∀ c ∈ cs, c.toNat < 128

/-- The byte of a character that has one. -/
def asciiByte (c : Char) : UInt8 := c.val.toUInt8

theorem toNat_asciiByte {c : Char} (h : c.toNat < 128) : (asciiByte c).toNat = c.toNat := by
  rw [asciiByte, UInt32.toNat_toUInt8]
  exact Nat.mod_eq_of_lt (Nat.lt_trans h (by decide))

theorem flatMap_utf8EncodeChar {cs : List Char} (h : Ascii cs) :
    cs.flatMap String.utf8EncodeChar = cs.map asciiByte := by
  induction cs with
  | nil => rfl
  | cons c cs ih =>
    obtain ⟨first, rest⟩ := List.forall_mem_cons.1 h
    have single : String.utf8EncodeChar c = [asciiByte c] :=
      String.utf8EncodeChar_eq_singleton (Char.utf8Size_eq_one_iff.2 (Nat.le_of_lt_succ first))
    rw [List.flatMap_cons, single, ih rest, List.map_cons, List.singleton_append]

theorem bytes_of_ascii {s : String} (h : Ascii s.toList) :
    s.toUTF8.data.toList = s.toList.map asciiByte := by
  have encoded : s.toUTF8 = s.toList.utf8Encode := by
    rw [String.toUTF8_eq_toByteArray, ← String.toByteArray_ofList, String.ofList_toList]
  rw [encoded, List.utf8Encode, List.data_toByteArray, List.toList_toArray, flatMap_utf8EncodeChar h]

/-- Texts whose characters have one byte each have the same order byte by byte. -/
theorem compareBytes_of_ascii {s t : String} (hs : Ascii s.toList) (ht : Ascii t.toList) :
    compareBytes s t = compare s t := by
  rw [compareBytes, bytes_of_ascii hs, bytes_of_ascii ht, compare_toList]
  refine compare_map fun c hc d hd => ?_
  rw [← compare_toNat, ← toNat_asciiByte (hs c hc), ← toNat_asciiByte (ht d hd)]
  exact compareOfLessAndEq_congr UInt8.lt_iff_toNat_lt UInt8.toNat_inj.symm

/-! ## Digits -/

/-- One more digit decides only between numbers that are the same. -/
theorem compare_digit {c d : Char} (hc : c.isDigit) (hd : d.isDigit) (n m : Nat) :
    compare (10 * n + (c.toNat - '0'.toNat)) (10 * m + (d.toNat - '0'.toNat))
      = (compare n m).then (compare c d) := by
  rw [Char.isDigit_iff_toNat] at hc hd
  have zero : '0'.toNat = 48 := rfl
  have nine : '9'.toNat = 57 := rfl
  rw [← compare_toNat c d]
  rcases Nat.lt_trichotomy n m with less | rfl | greater
  · rw [Nat.compare_eq_lt.2 less, Ordering.lt_then, Nat.compare_eq_lt]
    omega
  · rw [Nat.compare_eq_eq.2 rfl, Ordering.eq_then]
    exact compareOfLessAndEq_congr (by omega) (by omega)
  · rw [Nat.compare_eq_gt.2 greater, Ordering.gt_then, Nat.compare_eq_gt]
    omega

/-- Digits read after as many others decide only if the numbers read before are the same. -/
theorem compare_foldl_digits {as bs : List Char} (same : as.length = bs.length)
    (ha : ∀ c ∈ as, c.isDigit) (hb : ∀ c ∈ bs, c.isDigit) (n m : Nat) :
    compare (as.foldl (fun n c => 10 * n + (c.toNat - '0'.toNat)) n)
        (bs.foldl (fun n c => 10 * n + (c.toNat - '0'.toNat)) m)
      = (compare n m).then (compare as bs) := by
  induction as generalizing bs n m with
  | nil =>
    cases bs with
    | nil => exact Ordering.then_eq.symm
    | cons b bs => cases same
  | cons a as ih =>
    cases bs with
    | nil => cases same
    | cons b bs =>
      rw [List.forall_mem_cons] at ha hb
      rw [List.foldl_cons, List.foldl_cons, ih (Nat.succ.inj same) ha.2 hb.2,
        compare_digit ha.1 hb.1, Ordering.then_assoc, List.compare_cons_cons]

/-- As many digits as others have the order of the numbers that they stand for. -/
theorem compare_ofDigits {as bs : List Char} (same : as.length = bs.length)
    (ha : ∀ c ∈ as, c.isDigit) (hb : ∀ c ∈ bs, c.isDigit) :
    compare (ofDigits as) (ofDigits bs) = compare as bs :=
  compare_foldl_digits same ha hb 0 0

/-- Different digits, as many, stand for different numbers. -/
theorem eq_of_ofDigits_eq {as bs : List Char} (same : as.length = bs.length)
    (ha : ∀ c ∈ as, c.isDigit) (hb : ∀ c ∈ bs, c.isDigit) (h : ofDigits as = ofDigits bs) :
    as = bs := by
  rw [← Std.LawfulEqOrd.compare_eq_iff_eq, ← compare_ofDigits same ha hb, h, Std.compare_self]

/-- Numbers of one width have the order of their texts. -/
theorem compare_padded {width n m : Nat} (pos : 0 < width) (hn : n < Nat.pow 10 width)
    (hm : m < Nat.pow 10 width) : compare (padded width n) (padded width m) = compare n m := by
  have same : (padded width n).length = (padded width m).length := by
    rw [length_padded pos hn, length_padded pos hm]
  rw [← compare_ofDigits same (fun _ => isDigit_of_mem_padded) (fun _ => isDigit_of_mem_padded),
    ofDigits_padded, ofDigits_padded]

end Listings.Text
