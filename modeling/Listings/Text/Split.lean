/-!
# Cutting text at a character

* `splitOn`: the pieces of a text between the occurrences of a separator; there is always one more
  piece than there are separators.
* `splitFirst`: the text before and after the first separator.
* `intercalate_splitOn`: putting the separator back between the pieces gives the text again.
* `splitOn_eq_iff`: they are the only pieces without separators that do so.
* `splitOn_append_cons`: a text is cut at each separator on its own.
* `eq_of_splitFirst`: so does putting it back between the two parts.
* `splitFirst_eq_some_iff`: the first part is what stands before the first separator.
-/

namespace Listings.Text

/-- The pieces between the occurrences of `sep`. -/
def splitOn (sep : Char) : List Char → List (List Char)
  | [] => [[]]
  | c :: cs =>
    if c = sep then [] :: splitOn sep cs
    else
      match splitOn sep cs with
      | [] => [[c]]
      | piece :: pieces => (c :: piece) :: pieces

/-- The text before and after the first `sep`; nothing where there is none. -/
def splitFirst (sep : Char) : List Char → Option (List Char × List Char)
  | [] => none
  | c :: cs =>
    if c = sep then some ([], cs)
    else (splitFirst sep cs).map fun (before, after) => (c :: before, after)

theorem splitOn_ne_nil (sep : Char) (cs : List Char) : splitOn sep cs ≠ [] := by
  cases cs with
  | nil => simp [splitOn]
  | cons c cs =>
    unfold splitOn
    split
    · simp
    · split <;> simp

theorem intercalate_splitOn (sep : Char) (cs : List Char) :
    [sep].intercalate (splitOn sep cs) = cs := by
  induction cs with
  | nil => rfl
  | cons c cs ih =>
    unfold splitOn
    split
    · next h =>
      obtain ⟨piece, pieces, hp⟩ := List.exists_cons_of_ne_nil (splitOn_ne_nil sep cs)
      rw [hp] at ih ⊢
      simp [List.intercalate, h] at ih ⊢
      exact ih
    · split
      · next h => exact absurd h (splitOn_ne_nil sep cs)
      · next piece pieces hp =>
        rw [hp] at ih
        cases pieces with
        | nil => simp [List.intercalate] at ih ⊢; exact ih
        | cons second rest => simp [List.intercalate] at ih ⊢; exact ih

theorem splitOn_append {sep : Char} {piece : List Char} (h : sep ∉ piece) (rest : List Char) :
    splitOn sep (piece ++ sep :: rest) = piece :: splitOn sep rest := by
  induction piece with
  | nil => rw [List.nil_append, splitOn, if_pos rfl]
  | cons c piece ih =>
    rw [List.mem_cons, not_or] at h
    rw [List.cons_append, splitOn, if_neg (Ne.symm h.1), ih h.2]

theorem splitOn_of_not_mem {sep : Char} {piece : List Char} (h : sep ∉ piece) :
    splitOn sep piece = [piece] := by
  induction piece with
  | nil => rfl
  | cons c piece ih =>
    rw [List.mem_cons, not_or] at h
    rw [splitOn, if_neg (Ne.symm h.1), ih h.2]

theorem not_mem_of_mem_splitOn {sep : Char} {cs piece : List Char} (h : piece ∈ splitOn sep cs) :
    sep ∉ piece := by
  induction cs generalizing piece with
  | nil =>
    obtain rfl := List.mem_singleton.1 h
    exact List.not_mem_nil
  | cons c cs ih =>
    unfold splitOn at h
    split at h
    · rcases List.mem_cons.1 h with rfl | later
      · exact List.not_mem_nil
      · exact ih later
    · next other =>
      split at h
      · obtain rfl := List.mem_singleton.1 h
        simpa using Ne.symm other
      · next first pieces found =>
        rw [found] at ih
        rcases List.mem_cons.1 h with rfl | later
        · exact List.not_mem_cons_of_ne_of_not_mem (Ne.symm other) (ih List.mem_cons_self)
        · exact ih (List.mem_cons_of_mem first later)

/-- The pieces have no separator in them, and there is no other way to cut a text into such pieces. -/
theorem splitOn_eq_iff {sep : Char} {cs : List Char} {pieces : List (List Char)} :
    splitOn sep cs = pieces ↔
      pieces ≠ [] ∧ (∀ piece ∈ pieces, sep ∉ piece) ∧ [sep].intercalate pieces = cs := by
  constructor
  · rintro rfl
    exact ⟨splitOn_ne_nil sep cs, fun _ => not_mem_of_mem_splitOn, intercalate_splitOn sep cs⟩
  · rintro ⟨ne, lack, rfl⟩
    induction pieces with
    | nil => exact absurd rfl ne
    | cons first pieces ih =>
      obtain ⟨lackFirst, lackOthers⟩ := List.forall_mem_cons.1 lack
      cases pieces with
      | nil => simpa [List.intercalate] using splitOn_of_not_mem lackFirst
      | cons second others =>
        have later := ih (List.cons_ne_nil second others) lackOthers
        have whole : [sep].intercalate (first :: second :: others)
            = first ++ sep :: [sep].intercalate (second :: others) := by
          simp [List.intercalate]
        rw [whole, splitOn_append lackFirst, later]

theorem splitOn_append_cons (sep : Char) (a b : List Char) :
    splitOn sep (a ++ sep :: b) = splitOn sep a ++ splitOn sep b := by
  induction a with
  | nil => simp [splitOn]
  | cons c a ih =>
    rw [List.cons_append, splitOn, splitOn]
    split
    · rw [ih, List.cons_append]
    · obtain ⟨piece, pieces, first⟩ := List.exists_cons_of_ne_nil (splitOn_ne_nil sep a)
      rw [ih, first]
      rfl

/-- A text has one piece more than separators. -/
theorem length_splitOn (sep : Char) (cs : List Char) :
    (splitOn sep cs).length = cs.count sep + 1 := by
  induction cs with
  | nil => rfl
  | cons c cs ih =>
    rw [splitOn]
    split
    · next same => rw [same, List.length_cons, ih, List.count_cons_self]
    · next other =>
      obtain ⟨piece, pieces, found⟩ := List.exists_cons_of_ne_nil (splitOn_ne_nil sep cs)
      rw [List.count_cons_of_ne other, ← ih, found]
      rfl

/-- What is no separator stands in one of the pieces. -/
theorem exists_mem_splitOn {sep c : Char} {cs : List Char} (mem : c ∈ cs) (other : c ≠ sep) :
    ∃ piece ∈ splitOn sep cs, c ∈ piece := by
  induction cs with
  | nil => cases mem
  | cons d cs ih =>
    rw [splitOn]
    split
    · next same =>
      have later := (List.mem_cons.1 mem).resolve_left fun h => other (h.trans same)
      obtain ⟨piece, found, inside⟩ := ih later
      exact ⟨piece, List.mem_cons_of_mem _ found, inside⟩
    · obtain ⟨first, pieces, found⟩ := List.exists_cons_of_ne_nil (splitOn_ne_nil sep cs)
      rw [found] at ih ⊢
      rcases List.mem_cons.1 mem with rfl | later
      · exact ⟨c :: first, List.mem_cons_self, List.mem_cons_self⟩
      · obtain ⟨piece, place, inside⟩ := ih later
        rcases List.mem_cons.1 place with rfl | place
        · exact ⟨d :: piece, List.mem_cons_self, List.mem_cons_of_mem d inside⟩
        · exact ⟨piece, List.mem_cons_of_mem _ place, inside⟩

theorem eq_of_splitFirst {sep : Char} {cs before after : List Char}
    (h : splitFirst sep cs = some (before, after)) : cs = before ++ sep :: after := by
  induction cs generalizing before with
  | nil => contradiction
  | cons c cs ih =>
    unfold splitFirst at h
    split at h
    · next hc =>
      cases h
      rw [hc, List.nil_append]
    · obtain ⟨⟨before', after'⟩, found, e⟩ := Option.map_eq_some_iff.1 h
      cases e
      rw [ih found, List.cons_append]

/-- The first part is what stands before the first separator. -/
theorem splitFirst_eq_some_iff {sep : Char} {cs before after : List Char} :
    splitFirst sep cs = some (before, after) ↔ cs = before ++ sep :: after ∧ sep ∉ before := by
  constructor
  · intro h
    refine ⟨eq_of_splitFirst h, ?_⟩
    induction cs generalizing before with
    | nil => cases h
    | cons c cs ih =>
      unfold splitFirst at h
      split at h
      · cases h
        exact List.not_mem_nil
      · next other =>
        obtain ⟨⟨before', after'⟩, found, same⟩ := Option.map_eq_some_iff.1 h
        cases same
        exact List.not_mem_cons_of_ne_of_not_mem (Ne.symm other) (ih found)
  · rintro ⟨rfl, lack⟩
    induction before with
    | nil => rw [List.nil_append, splitFirst, if_pos rfl]
    | cons c before ih =>
      rw [List.mem_cons, not_or] at lack
      rw [List.cons_append, splitFirst, if_neg (Ne.symm lack.1), ih lack.2, Option.map_some]

theorem splitFirst_eq_none_iff {sep : Char} {cs : List Char} :
    splitFirst sep cs = none ↔ sep ∉ cs := by
  induction cs with
  | nil => simp [splitFirst]
  | cons c cs ih =>
    unfold splitFirst
    split
    · next same => simp [same]
    · next other => simp [ih, Ne.symm other]

end Listings.Text
