import Listings.Text.CodeSet

/-!
# Blank characters

A character is blank when it has the Unicode property White_Space.

* `trim`: what is left of a text without the blanks at both ends.
* `trim_eq_iff`: what is left is the only text with no blank at either end that the whole is made of by
  putting blanks around it.
-/

namespace Listings.Text

/-- The characters with the property White_Space. -/
def blanks : CodeSet :=
  [(0x09, 0x0D), (0x20, 0x20), (0x85, 0x85), (0xA0, 0xA0), (0x1680, 0x1680), (0x2000, 0x200A),
    (0x2028, 0x2029), (0x202F, 0x202F), (0x205F, 0x205F), (0x3000, 0x3000)]

/-- Whether a character is white space. -/
def isBlank (c : Char) : Bool := blanks.contains c

/-- The text without its leading blanks. -/
def trimStart (cs : List Char) : List Char := cs.dropWhile isBlank

/-- The text without its trailing blanks. -/
def trimEnd (cs : List Char) : List Char := (cs.reverse.dropWhile isBlank).reverse

/-- The text without the blanks at both ends. -/
def trim (cs : List Char) : List Char := trimEnd (trimStart cs)

/-! ## What is left of a text -/

theorem trimStart_append {blanks cs : List Char} (h : ∀ c ∈ blanks, isBlank c)
    (first : ∀ c ∈ cs.head?, isBlank c = false) : trimStart (blanks ++ cs) = cs := by
  rw [trimStart, List.dropWhile_append_of_pos h]
  cases cs with
  | nil => rfl
  | cons c cs => simp [first c rfl]

/-- A text is blanks and what is left without them. -/
theorem exists_trimStart (cs : List Char) :
    ∃ blanks, cs = blanks ++ trimStart cs ∧ ∀ c ∈ blanks, isBlank c :=
  ⟨_, List.takeWhile_append_dropWhile.symm, List.all_eq_true.1 List.all_takeWhile⟩

theorem head?_trimStart (cs : List Char) : ∀ c ∈ (trimStart cs).head?, isBlank c = false := by
  intro c first
  have blank := List.head?_dropWhile_not isBlank cs
  rwa [← trimStart, first] at blank

theorem trimEnd_append {cs blanks : List Char} (h : ∀ c ∈ blanks, isBlank c)
    (last : ∀ c ∈ cs.getLast?, isBlank c = false) : trimEnd (cs ++ blanks) = cs := by
  have reversed : trimStart (blanks.reverse ++ cs.reverse) = cs.reverse :=
    trimStart_append (by simpa using h) (by simpa using last)
  rw [trimEnd, List.reverse_append, ← trimStart, reversed, List.reverse_reverse]

theorem exists_trimEnd (cs : List Char) :
    ∃ blanks, cs = trimEnd cs ++ blanks ∧ ∀ c ∈ blanks, isBlank c := by
  obtain ⟨blanks, whole, blank⟩ := exists_trimStart cs.reverse
  refine ⟨blanks.reverse, ?_, by simpa using blank⟩
  rw [trimEnd, ← trimStart, ← List.reverse_append, ← whole, List.reverse_reverse]

/-- No blank stands at either end of a text. -/
structure Tight (cs : List Char) : Prop where
  first : ∀ c ∈ cs.head?, isBlank c = false
  last : ∀ c ∈ cs.getLast?, isBlank c = false

/-- A text is another one, at whose ends no blank stands, with blanks around it. -/
inductive Trims : List Char → List Char → Prop
  | intro {before t after : List Char} (hb : ∀ c ∈ before, isBlank c)
      (ha : ∀ c ∈ after, isBlank c) (ht : Tight t) : Trims (before ++ t ++ after) t

/-- No blanks stand before a text without blanks at its ends. -/
theorem Tight.eq_nil_of_prefix {cs before : List Char} (h : Tight cs) (start : before <+: cs)
    (blank : ∀ c ∈ before, isBlank c) : before = [] := by
  cases before with
  | nil => rfl
  | cons c before =>
    obtain ⟨rest, rfl⟩ := start
    have first := h.first c rfl
    rw [blank c List.mem_cons_self] at first
    cases first

/-- No blanks stand after it. -/
theorem Tight.eq_nil_of_suffix {cs after : List Char} (h : Tight cs) (finish : after <:+ cs)
    (blank : ∀ c ∈ after, isBlank c) : after = [] := by
  rcases List.eq_nil_or_concat after with rfl | ⟨others, c, rfl⟩
  · rfl
  · obtain ⟨rest, rfl⟩ := finish
    have last := h.last c (by simp)
    rw [blank c (by simp)] at last
    cases last

theorem tight_trim (cs : List Char) : Tight (trim cs) := by
  constructor
  · obtain ⟨blanks, whole, -⟩ := exists_trimEnd (trimStart cs)
    intro c first
    apply head?_trimStart cs
    rw [whole, List.head?_append, ← trim, first]
    rfl
  · rw [trim, trimEnd, List.getLast?_reverse]
    exact head?_trimStart _

/-- What is left is what blanks were put around. -/
theorem trim_eq_iff {cs t : List Char} : trim cs = t ↔ Trims cs t := by
  constructor
  · rintro rfl
    obtain ⟨before, whole, hb⟩ := exists_trimStart cs
    obtain ⟨after, start, ha⟩ := exists_trimEnd (trimStart cs)
    have around := Trims.intro hb ha (tight_trim cs)
    rwa [List.append_assoc, trim, ← start, ← whole] at around
  · rintro @⟨before, _, after, hb, ha, first, last⟩
    cases t with
    | nil =>
      -- Nothing but blanks: all of them are leading ones.
      have blank := List.forall_mem_append.2 ⟨hb, ha⟩
      rw [trim, List.append_nil, ← List.append_nil (_ ++ _), trimStart_append blank (by simp)]
      rfl
    | cons c t =>
      have start : trimStart (before ++ (c :: t ++ after)) = c :: t ++ after :=
        trimStart_append hb first
      rw [trim, List.append_assoc, start, trimEnd_append ha last]

end Listings.Text
