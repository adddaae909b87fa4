import Listings.Calendar.Date
import Listings.Text.Run
import Listings.Text.Word

/-!
# Texts of dates

Which texts are read as a date.

* `Date.Spells`: a text gives a year, a month and a day.
* `Date.parse?_of_spells`: a text is read as the date whose parts it gives, and as no date if there is
  no such day.
* `Date.parse?_eq_some_iff`: nothing else is read as a date.
-/

namespace Listings

/-- Digits that stand for a number. -/
structure Numeral (digits : List Char) (n : Nat) : Prop where
  ne_nil : digits ≠ []
  isDigit : ∀ c ∈ digits, c.isDigit
  value : Text.ofDigits digits = n

theorem numeral_toDigits (n : Nat) : Numeral (Nat.toDigits 10 n) n where
  ne_nil := Nat.toDigits_ne_nil
  isDigit _ hc := Nat.isDigit_of_mem_toDigits (by decide) (by decide) hc
  value := Text.ofDigits_toDigits n

theorem numeral_padded (width n : Nat) : Numeral (Text.padded width n) n where
  ne_nil := Text.padded_ne_nil width n
  isDigit _ hc := Text.isDigit_of_mem_padded hc
  value := Text.ofDigits_padded width n

theorem Numeral.exists_cons {digits : List Char} {n : Nat} (h : Numeral digits n) :
    ∃ c cs, digits = c :: cs ∧ c.isDigit := by
  cases digits with
  | nil => exact absurd rfl h.ne_nil
  | cons c cs => exact ⟨c, cs, rfl, h.isDigit c List.mem_cons_self⟩

namespace Date

/-- The text of a year: a sign and digits, or at most four digits. -/
inductive YearText : List Char → Int → Prop
  | short {digits : List Char} {n : Nat} (h : Numeral digits n) (hl : digits.length ≤ 4) :
      YearText digits n
  | plus {digits : List Char} {n : Nat} (h : Numeral digits n) : YearText ('+' :: digits) n
  | minus {digits : List Char} {n : Nat} (h : Numeral digits n) : YearText ('-' :: digits) (-n)

/-- A text gives a year, a month and a day: numbers with hyphens between them, each after blanks if there
are any. There need not be such a day. -/
def Spells (text : String) (year : Int) (month day : Nat) : Prop :=
  ∃ y m d b b' b'' : List Char,
    text.toList = b ++ (y ++ '-' :: (b' ++ (m ++ '-' :: (b'' ++ d)))) ∧
    (∀ c ∈ b ++ b' ++ b'', Text.isBlank c) ∧ YearText y year ∧
    (Numeral m month ∧ m.length ≤ 2) ∧ Numeral d day ∧ d.length ≤ 2

/-! ## Numbers in a text -/

/-- A text that does not go on with a digit. -/
def Ends (rest : List Char) : Prop := ∀ c ∈ rest.head?, c.isDigit = false

theorem ends_nil : Ends [] := nofun

theorem ends_hyphen (rest : List Char) : Ends ('-' :: rest) := by
  rintro c ⟨⟩
  decide

theorem Ends.take {rest : List Char} (h : Ends rest) (n : Nat) : Ends (rest.take n) := by
  intro c hc
  rw [List.head?_take] at hc
  split at hc
  · cases hc
  · exact h c hc

/-- The digits at the head of a text are those of a number, if there are any. -/
theorem numeral_takeWhile {cs : List Char} (h : ¬(cs.takeWhile Char.isDigit).isEmpty) :
    Numeral (cs.takeWhile Char.isDigit) (Text.ofDigits (cs.takeWhile Char.isDigit)) :=
  ⟨by simpa using h, List.all_eq_true.1 List.all_takeWhile, rfl⟩

theorem takeNumber?_sound {cs rest : List Char} {n : Nat} (h : takeNumber? cs = some (n, rest)) :
    ∃ digits, cs = digits ++ rest ∧ Numeral digits n := by
  unfold takeNumber? at h
  simp only at h
  split at h
  · cases h
  · next digits =>
    cases h
    exact ⟨_, List.takeWhile_append_dropWhile.symm, numeral_takeWhile digits⟩

theorem takeNumber?_append {digits rest : List Char} {n : Nat} (h : Numeral digits n)
    (ends : Ends rest) : takeNumber? (digits ++ rest) = some (n, rest) := by
  have taken := Text.takeWhile_run h.isDigit ends
  have left := Text.dropWhile_run h.isDigit ends
  simp [takeNumber?, taken, left, h.ne_nil, h.value]

theorem takeShort?_sound {width : Nat} {cs rest : List Char} {n : Nat}
    (h : takeShort? width cs = some (n, rest)) :
    ∃ digits, cs = digits ++ rest ∧ Numeral digits n ∧ digits.length ≤ width := by
  unfold takeShort? at h
  simp only at h
  split at h
  · cases h
  · next digits =>
    cases h
    have initial : (cs.take width).takeWhile Char.isDigit <+: cs :=
      (List.takeWhile_prefix _).trans (List.take_prefix _ _)
    refine ⟨_, (List.prefix_iff_eq_append.1 initial).symm, numeral_takeWhile digits, ?_⟩
    exact Nat.le_trans (List.takeWhile_prefix _).length_le (List.length_take_le _ _)

theorem takeShort?_append {width : Nat} {digits rest : List Char} {n : Nat} (h : Numeral digits n)
    (hl : digits.length ≤ width) (ends : Ends rest) :
    takeShort? width (digits ++ rest) = some (n, rest) := by
  have taken : ((digits ++ rest).take width).takeWhile Char.isDigit = digits := by
    rw [List.take_append, List.take_of_length_le hl]
    exact Text.takeWhile_run h.isDigit (ends.take _)
  simp [takeShort?, taken, h.ne_nil, h.value]

theorem takeYear?_sound {cs rest : List Char} {year : Int} (h : takeYear? cs = some (year, rest)) :
    ∃ y, cs = y ++ rest ∧ YearText y year := by
  unfold takeYear? at h
  split at h
  · obtain ⟨⟨n, rest⟩, found, h⟩ := Option.map_eq_some_iff.1 h
    cases h
    obtain ⟨digits, rfl, numeral⟩ := takeNumber?_sound found
    exact ⟨'-' :: digits, rfl, .minus numeral⟩
  · obtain ⟨⟨n, rest⟩, found, h⟩ := Option.map_eq_some_iff.1 h
    cases h
    obtain ⟨digits, rfl, numeral⟩ := takeNumber?_sound found
    exact ⟨'+' :: digits, rfl, .plus numeral⟩
  · obtain ⟨⟨n, rest⟩, found, h⟩ := Option.map_eq_some_iff.1 h
    cases h
    obtain ⟨digits, rfl, numeral, short⟩ := takeShort?_sound found
    exact ⟨digits, rfl, .short numeral short⟩

theorem takeYear?_append {y rest : List Char} {year : Int} (h : YearText y year) (ends : Ends rest) :
    takeYear? (y ++ rest) = some (year, rest) := by
  cases h with
  | minus numeral => simp [takeYear?, takeNumber?_append numeral ends]
  | plus numeral => simp [takeYear?, takeNumber?_append numeral ends]
  | short numeral short =>
    obtain ⟨c, cs, rfl, digit⟩ := numeral.exists_cons
    have unsigned : takeYear? (c :: cs ++ rest)
        = (takeShort? 4 (c :: cs ++ rest)).map fun read => ((read.1 : Int), read.2) := by
      unfold takeYear?
      split
      · next same =>
        cases same
        cases digit
      · next same =>
        cases same
        cases digit
      · rfl
    rw [unsigned, takeShort?_append numeral short ends]
    rfl

/-! ## Blanks before a number -/

theorem afterHyphen?_eq_some_iff {cs rest : List Char} :
    afterHyphen? cs = some rest ↔ cs = '-' :: rest := by
  unfold afterHyphen?
  split
  · simp
  · next other => exact ⟨nofun, fun same => absurd same (other rest)⟩

theorem head?_numeral {digits : List Char} {n : Nat} (h : Numeral digits n) (rest : List Char) :
    ∀ c ∈ (digits ++ rest).head?, Text.isBlank c = false := by
  obtain ⟨c, cs, rfl, digit⟩ := h.exists_cons
  rintro _ ⟨⟩
  exact Text.isBlank_of_isDigit digit

theorem head?_yearText {y : List Char} {year : Int} (h : YearText y year) (rest : List Char) :
    ∀ c ∈ (y ++ rest).head?, Text.isBlank c = false := by
  cases h with
  | short numeral _ => exact head?_numeral numeral rest
  | plus _ | minus _ =>
    rintro _ ⟨⟩
    decide

/-! ## Dates -/

theorem ofParts?_eq_some_iff {year : Int} {month day : Nat} {date : Date} :
    ofParts? year month day = some date ↔
      date.year = year ∧ date.month = month ∧ date.day = day := by
  unfold ofParts?
  constructor
  · intro h
    split at h
    · split at h
      · cases h
        exact ⟨rfl, rfl, rfl⟩
      · cases h
    · cases h
  · rintro ⟨rfl, rfl, rfl⟩
    rw [dif_pos date.year_mem, dif_pos date.day_mem]

/-- A text that gives a year, a month and a day is read as the date with these parts, if there is one. -/
theorem parse?_of_spells {text : String} {year : Int} {month day : Nat}
    (h : Spells text year month day) : parse? text = ofParts? year month day := by
  obtain ⟨y, m, d, b, b', b'', whole, blanks, yearText, ⟨numeral, short⟩, numeral', short'⟩ := h
  simp only [List.forall_mem_append] at blanks
  obtain ⟨⟨blank, blank'⟩, blank''⟩ := blanks
  have first : takeYear? (Text.trimStart text.toList)
      = some (year, '-' :: (b' ++ (m ++ '-' :: (b'' ++ d)))) := by
    rw [whole, Text.trimStart_append blank (head?_yearText yearText _)]
    exact takeYear?_append yearText (ends_hyphen _)
  have second : takeShort? 2 (Text.trimStart (b' ++ (m ++ '-' :: (b'' ++ d))))
      = some (month, '-' :: (b'' ++ d)) := by
    rw [Text.trimStart_append blank' (head?_numeral numeral _)]
    exact takeShort?_append numeral short (ends_hyphen _)
  have third : takeShort? 2 (Text.trimStart (b'' ++ d)) = some (day, []) := by
    rw [← List.append_nil d, Text.trimStart_append blank'' (head?_numeral numeral' [])]
    exact takeShort?_append numeral' short' ends_nil
  simp [parse?, first, second, third, afterHyphen?]

/-- A text is read as a date exactly if it gives the year, the month and the day of the date. -/
theorem parse?_eq_some_iff {text : String} {date : Date} :
    parse? text = some date ↔ Spells text date.year date.month date.day := by
  constructor
  · unfold parse?
    simp only [Option.bind_eq_bind, Option.bind_eq_some_iff, Prod.exists]
    rintro ⟨year, rest, hy, cs, hyphen, month, rest', hm, cs', hyphen', day, rest'', hd, h⟩
    split at h
    · next last =>
      obtain ⟨rfl, rfl, rfl⟩ := ofParts?_eq_some_iff.1 h
      obtain ⟨b, whole, blank⟩ := Text.exists_trimStart text.toList
      obtain ⟨y, year, yearText⟩ := takeYear?_sound hy
      obtain ⟨b', month, blank'⟩ := Text.exists_trimStart cs
      obtain ⟨m, trimmed, numeral, short⟩ := takeShort?_sound hm
      obtain ⟨b'', day, blank''⟩ := Text.exists_trimStart cs'
      obtain ⟨d, trimmed', numeral', short'⟩ := takeShort?_sound hd
      rw [afterHyphen?_eq_some_iff] at hyphen hyphen'
      rw [List.isEmpty_iff.1 last, List.append_nil] at trimmed'
      refine ⟨y, m, d, b, b', b'', ?_, ?_, yearText, ⟨numeral, short⟩, numeral', short'⟩
      · rw [whole, year, hyphen, month, trimmed, hyphen', day, trimmed']
      · simp only [List.forall_mem_append]
        exact ⟨⟨blank, blank'⟩, blank''⟩
    · cases h
  · exact fun h => (parse?_of_spells h).trans (ofParts?_eq_some_iff.2 ⟨rfl, rfl, rfl⟩)

end Date

end Listings
