import Listings.Text.Bytes

/-!
# Slices

A slice of a text is given by the bytes that it starts and ends at. There is one only where both are in
the text, in order, and between characters.

* `splitBytes?`: a text cut behind so many bytes.
* `slice?`: the slice between two bytes.
* `slice?_eq_some_iff`: it is what stands there.
-/

namespace Listings.Text

/-- A text cut behind so many bytes; nothing where a character goes on there, or where there are fewer
bytes. -/
def splitBytes? : Nat → List Char → Option (List Char × List Char)
  | 0, cs => some ([], cs)
  | _ + 1, [] => none
  | n + 1, c :: cs =>
    if c.utf8Size ≤ n + 1 then
      (splitBytes? (n + 1 - c.utf8Size) cs).map fun (before, after) => (c :: before, after)
    else none

/-- What a text has between two bytes. -/
def slice? (start finish : Nat) (cs : List Char) : Option (List Char) := do
  if start ≤ finish then
    let (_, rest) ← splitBytes? start cs
    let (piece, _) ← splitBytes? (finish - start) rest
    return piece
  else none

theorem splitBytes?_append (before after : List Char) :
    splitBytes? (byteLength before) (before ++ after) = some (before, after) := by
  induction before with
  | nil => cases after <;> rfl
  | cons c before ih =>
    obtain ⟨n, size⟩ : ∃ n, c.utf8Size + byteLength before = n + 1 :=
      ⟨_, (Nat.sub_add_cancel (Nat.le_add_right_of_le c.utf8Size_pos)).symm⟩
    rw [byteLength_cons, size, List.cons_append, splitBytes?, if_pos (by omega), ← size,
      Nat.add_sub_cancel_left, ih, Option.map_some]

theorem splitBytes?_eq_some_iff {n : Nat} {cs before after : List Char} :
    splitBytes? n cs = some (before, after) ↔ cs = before ++ after ∧ byteLength before = n := by
  constructor
  · intro h
    induction cs generalizing n before with
    | nil => cases n <;> cases h; exact ⟨rfl, rfl⟩
    | cons c cs ih =>
      cases n with
      | zero =>
        cases h
        exact ⟨rfl, rfl⟩
      | succ n =>
        rw [splitBytes?] at h
        split at h
        · obtain ⟨p, found, same⟩ := Option.map_eq_some_iff.1 h
          cases same
          obtain ⟨rfl, size⟩ := ih found
          exact ⟨rfl, by rw [byteLength_cons]; omega⟩
        · cases h
  · rintro ⟨rfl, rfl⟩
    exact splitBytes?_append before after

/-- A slice is what stands between two places of a text. -/
theorem slice?_eq_some_iff {start finish : Nat} {cs piece : List Char} :
    slice? start finish cs = some piece ↔
      ∃ before after, cs = before ++ (piece ++ after) ∧ byteLength before = start ∧
        start + byteLength piece = finish := by
  unfold slice?
  constructor
  · intro h
    split at h
    · obtain ⟨p, cut, h⟩ := Option.bind_eq_some_iff.1 h
      obtain ⟨q, cut', h⟩ := Option.bind_eq_some_iff.1 h
      cases h
      obtain ⟨rfl, size⟩ := splitBytes?_eq_some_iff.1 cut
      obtain ⟨rest, size'⟩ := splitBytes?_eq_some_iff.1 cut'
      exact ⟨p.1, q.2, by rw [rest], size, by omega⟩
    · cases h
  · rintro ⟨before, after, rfl, rfl, rfl⟩
    rw [if_pos (Nat.le_add_right _ _), splitBytes?_append, Nat.add_sub_cancel_left]
    show (splitBytes? (byteLength piece) (piece ++ after)).bind _ = _
    rw [splitBytes?_append]
    rfl

/-- There is a place of a string behind the characters that it begins with. -/
theorem isValid_byteLength {s : String} {before after : List Char} (whole : s.toList = before ++ after) :
    (String.Pos.Raw.mk (byteLength before)).IsValid s := by
  refine String.Pos.Raw.isValid_iff_exists_append.2 ⟨.ofList before, .ofList after, ?_, ?_⟩
  · rw [← String.ofList_append, ← whole, String.ofList_toList]
  · rw [String.Pos.Raw.ext_iff, String.byteIdx_rawEndPos, byteLength_ofList]

/-- A slice of a string starts and ends at places of the string. -/
theorem isValid_of_slice? {s : String} {start finish : Nat} {piece : List Char}
    (h : slice? start finish s.toList = some piece) :
    start ≤ finish ∧ (String.Pos.Raw.mk start).IsValid s ∧ (String.Pos.Raw.mk finish).IsValid s := by
  obtain ⟨before, after, whole, rfl, rfl⟩ := slice?_eq_some_iff.1 h
  refine ⟨Nat.le_add_right _ _, isValid_byteLength whole, ?_⟩
  rw [← byteLength_append]
  exact isValid_byteLength (whole.trans (List.append_assoc _ _ _).symm)

end Listings.Text
