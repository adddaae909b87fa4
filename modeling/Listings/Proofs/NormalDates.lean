import Listings.Proofs.Conditions

/-!
# Normal forms of dates

A text beside a date is put into its normal form, which is the same for all texts of a date.

* `Calendar.HasDay`: the days that there are in a year.
* `Date.SpelledBy`: a date is one that a text gives.
* `Date.spelledBy_write`: the normal form of a date gives the date.
* `Column.NormalizesDates`: what becomes of the texts beside a column of dates.
-/

namespace Listings

/-! ## The calendar -/

namespace Calendar

/-- Every fourth year has a leap day, but of the centuries only every fourth. -/
def HasLeapDay (year : Int) : Prop := 4 ∣ year ∧ (¬100 ∣ year ∨ 400 ∣ year)

/-- A year has a day in a month. -/
inductive HasDay (year : Int) : Nat → Nat → Prop
  | long {month day : Nat} (hm : month ∈ [1, 3, 5, 7, 8, 10, 12]) (first : 1 ≤ day) (last : day ≤ 31) :
      HasDay year month day
  | short {month day : Nat} (hm : month ∈ [4, 6, 9, 11]) (first : 1 ≤ day) (last : day ≤ 30) :
      HasDay year month day
  | february {day : Nat} (first : 1 ≤ day) (last : day ≤ 28) : HasDay year 2 day
  | leapDay (leap : HasLeapDay year) : HasDay year 2 29

theorem isLeapYear_iff {year : Int} : isLeapYear year ↔ HasLeapDay year := by
  simp only [isLeapYear, HasLeapDay, Bool.and_eq_true, Bool.or_eq_true, beq_iff_eq, bne_iff_ne,
    Int.dvd_iff_emod_eq_zero, ne_eq]

theorem daysInMonth_long {year : Int} :
    ∀ month ∈ [1, 3, 5, 7, 8, 10, 12], daysInMonth year month = 31 := by
  simp [daysInMonth]

theorem daysInMonth_short {year : Int} : ∀ month ∈ [4, 6, 9, 11], daysInMonth year month = 30 := by
  simp [daysInMonth]

/-- The days of a month are numbered from one. -/
theorem hasDay_iff {year : Int} {month day : Nat} :
    HasDay year month day ↔ 1 ≤ day ∧ day ≤ daysInMonth year month := by
  constructor
  · intro h
    cases h with
    | long hm first last => exact ⟨first, by rwa [daysInMonth_long month hm]⟩
    | short hm first last => exact ⟨first, by rwa [daysInMonth_short month hm]⟩
    | february first last =>
      refine ⟨first, Nat.le_trans last ?_⟩
      rw [daysInMonth]
      split <;> decide
    | leapDay leap =>
      rw [daysInMonth, if_pos (isLeapYear_iff.2 leap)]
      decide
  · rintro ⟨first, last⟩
    unfold daysInMonth at last
    split at last
    · split at last
      · next leap =>
        rcases Nat.lt_or_ge day 29 with early | late
        · exact .february first (by omega)
        · obtain rfl : day = 29 := by omega
          exact .leapDay (isLeapYear_iff.1 leap)
      · exact .february first last
    iterate 4 exact .short (by decide) first last
    iterate 7 exact .long (by decide) first last
    · omega

theorem HasDay.month_le {year : Int} {month day : Nat} (h : HasDay year month day) : month ≤ 12 := by
  have long : ∀ month ∈ [1, 3, 5, 7, 8, 10, 12], month ≤ 12 := by decide
  have short : ∀ month ∈ [4, 6, 9, 11], month ≤ 12 := by decide
  cases h with
  | long hm => exact long month hm
  | short hm => exact short month hm
  | february | leapDay => decide

theorem HasDay.day_le {year : Int} {month day : Nat} (h : HasDay year month day) : day ≤ 31 := by
  cases h with
  | long _ _ last | short _ _ last | february _ last => omega
  | leapDay => decide

end Calendar

/-! ## The date of a text -/

namespace Date

/-- A date is one that a text gives. -/
def SpelledBy (date : Date) (text : String) : Prop := Spells text date.year date.month date.day

theorem spelledBy_iff {date : Date} {text : String} :
    date.SpelledBy text ↔ parse? text = some date :=
  parse?_eq_some_iff.symm

/-- A text gives no more than one date. -/
theorem SpelledBy.unique {date date' : Date} {text : String} (h : date.SpelledBy text)
    (h' : date'.SpelledBy text) : date = date' := by
  rw [spelledBy_iff] at h h'
  exact Option.some_inj.1 (h.symm.trans h')

/-- A day that a text gives and that there is not is no date. -/
theorem not_spelledBy_of_not_hasDay {text : String} {year : Int} {month day : Nat}
    (h : Spells text year month day) (missing : ¬Calendar.HasDay year month day) (date : Date) :
    ¬date.SpelledBy text := by
  intro spelled
  rw [spelledBy_iff, parse?_of_spells h, ofParts?_eq_some_iff] at spelled
  obtain ⟨rfl, rfl, rfl⟩ := spelled
  exact missing (Calendar.hasDay_iff.2 date.day_mem)

/-! ## The text of a date -/

theorem yearText_writeYear (year : Int) : YearText (writeYear year) year := by
  unfold writeYear
  split
  · next plain =>
    simp only [Bool.and_eq_true, decide_eq_true_eq] at plain
    have small : year.toNat < 10000 := by omega
    have width : (Text.padded 4 year.toNat).length = 4 := Text.length_padded (by decide) small
    have read := YearText.short (numeral_padded 4 year.toNat) (Nat.le_of_eq width)
    rwa [Int.toNat_of_nonneg plain.1] at read
  · split
    · next negative =>
      have read := YearText.minus (numeral_padded 4 year.natAbs)
      rwa [Int.ofNat_natAbs_of_nonpos (by omega), Int.neg_neg] at read
    · next positive =>
      have read := YearText.plus (numeral_padded 4 year.natAbs)
      rwa [Int.natAbs_of_nonneg (by omega)] at read

theorem month_lt (date : Date) : date.month < 100 := by
  have bound := (Calendar.hasDay_iff.2 date.day_mem).month_le
  omega

theorem day_lt (date : Date) : date.day < 100 := by
  have bound := (Calendar.hasDay_iff.2 date.day_mem).day_le
  omega

theorem length_month (date : Date) : (Text.padded 2 date.month).length = 2 :=
  Text.length_padded (by decide) date.month_lt

theorem length_day (date : Date) : (Text.padded 2 date.day).length = 2 :=
  Text.length_padded (by decide) date.day_lt

/-- The normal form of a date gives the date. -/
theorem spelledBy_write (date : Date) : date.SpelledBy date.write := by
  refine ⟨writeYear date.year, Text.padded 2 date.month, Text.padded 2 date.day, [], [], [], ?_, ?_,
    yearText_writeYear _, ⟨numeral_padded 2 _, ?_⟩, numeral_padded 2 _, ?_⟩
  · simp [write]
  · simp
  · exact Nat.le_of_eq date.length_month
  · exact Nat.le_of_eq date.length_day

/-- Different dates have different normal forms. -/
theorem write_injective : Function.Injective write := by
  intro date date' same
  have spelled := date'.spelledBy_write
  rw [← same] at spelled
  exact date.spelledBy_write.unique spelled

end Date

/-! ## Beside a column -/

/-- Two texts give one date. -/
def SameDate (s s' : String) : Prop := ∃ date : Date, date.SpelledBy s ∧ date.SpelledBy s'

namespace Column

variable {column : Column} {field : String} {s : String}

/-- Beside a column of dates the texts of dates are accepted, and stand for their normal forms. -/
theorem accepts_date_iff (dates : column.kind = .date) {v : Value} :
    column.Accepts field (.literal (.text s)) v ↔
      ∃ date : Date, date.SpelledBy s ∧ v = .text date.write := by
  rw [accepts_iff, dates]
  constructor
  · rintro ⟨_, ⟨⟩, ⟨⟩⟩
    next date spelled => exact ⟨date, spelled, rfl⟩
  · rintro ⟨date, spelled, rfl⟩
    exact ⟨_, rfl, .date spelled⟩

/-- A text of a date stands for the normal form of the date. -/
theorem Accepts.eq_write {v : Value} (h : column.Accepts field (.literal (.text s)) v)
    (dates : column.kind = .date) {date : Date} (spelled : date.SpelledBy s) :
    v = .text date.write := by
  obtain ⟨date', spelled', rfl⟩ := (accepts_date_iff dates).1 h
  rw [spelled.unique spelled']

/-- Beside a column of dates a text that gives no date is refused. -/
theorem value_of_not_spelled (dates : column.kind = .date) (missing : ∀ date : Date, ¬date.SpelledBy s) :
    column.value field (.literal (.text s)) = .error (.invalidDate field s) := by
  have unread : Date.parse? s = none := by
    rw [Option.eq_none_iff_forall_ne_some]
    exact fun date read => missing date (Date.spelledBy_iff.2 read)
  obtain ⟨kind, path, nullable⟩ := column
  subst dates
  simp only [value, unread]

/-- What becomes of the texts beside a column. -/
structure NormalizesDates (column : Column) (field : String) : Prop where
  /-- A text stands for a text of the same date. -/
  same_date {s : String} {v : Value} (h : column.Accepts field (.literal (.text s)) v) :
    ∃ t, v = .text t ∧ SameDate s t
  /-- What a text stands for is accepted beside every column of dates and stands for itself. -/
  again {s t : String} (h : column.Accepts field (.literal (.text s)) (.text t)) {column' : Column}
    {field' : String} (dates : column'.kind = .date) :
    column'.Accepts field' (.literal (.text t)) (.text t)
  /-- Two texts stand for the same exactly if they give the same date, also beside two columns. -/
  same_text_iff {s s' t t' : String} (h : column.Accepts field (.literal (.text s)) (.text t))
    {column' : Column} {field' : String} (dates : column'.kind = .date)
    (h' : column'.Accepts field' (.literal (.text s')) (.text t')) : t = t' ↔ SameDate s s'
  /-- A text that gives no date is refused. -/
  no_date {s : String} (missing : ∀ date : Date, ¬date.SpelledBy s) :
    column.value field (.literal (.text s)) = .error (.invalidDate field s)
  /-- A text that gives a day that there is not is refused. -/
  no_day {s : String} {year : Int} {month day : Nat} (h : Date.Spells s year month day)
    (missing : ¬Calendar.HasDay year month day) :
    column.value field (.literal (.text s)) = .error (.invalidDate field s)

/-- Beside a column of dates, a text becomes the one text of its date that stands for itself. -/
theorem normalizesDates (dates : column.kind = .date) (field : String) :
    column.NormalizesDates field where
  same_date := by
    intro s v h
    obtain ⟨date, spelled, rfl⟩ := (accepts_date_iff dates).1 h
    exact ⟨date.write, rfl, date, spelled, date.spelledBy_write⟩
  again := by
    intro s t h column' field' dates'
    obtain ⟨date, spelled, same⟩ := (accepts_date_iff dates).1 h
    cases same
    exact (accepts_date_iff dates').2 ⟨date, date.spelledBy_write, rfl⟩
  same_text_iff := by
    intro s s' t t' h column' field' dates' h'
    obtain ⟨date, spelled, same⟩ := (accepts_date_iff dates).1 h
    obtain ⟨date', spelled', same'⟩ := (accepts_date_iff dates').1 h'
    cases same
    cases same'
    constructor
    · intro same
      cases Date.write_injective same
      exact ⟨date, spelled, spelled'⟩
    · rintro ⟨date'', both, both'⟩
      rw [spelled.unique both, spelled'.unique both']
  no_date := value_of_not_spelled dates
  no_day := by
    intro s year month day h missing
    exact value_of_not_spelled dates (Date.not_spelledBy_of_not_hasDay h missing)

/-- The day of a leap year, after a blank and with a month of one digit, and a day that 2023 does not
have. -/
theorem normalizesDates_leapDay :
    let column := optional .date "media.start_date"
    let normal : Expr := .literal (.text "2024-02-29")
    let missing := "2023-2-29"
    column.kind = .date ∧ SameDate " 2024-2-29" "2024-02-29" ∧
      column.Accepts "startDate" normal (.text "2024-02-29") ∧
      column.value "startDate" (.literal (.text missing))
        = .error (.invalidDate "startDate" missing) := by
  intro column normal missing
  have normalizes : column.NormalizesDates "startDate" := normalizesDates rfl "startDate"
  have read : column.Accepts "startDate" (.literal (.text " 2024-2-29")) (.text "2024-02-29") := by
    rw [accepts_date_iff rfl]
    refine ⟨⟨2024, 2, 29, by decide, by decide⟩, ?_, ?_⟩
    · rw [Date.spelledBy_iff]
      decide
    · decide
  have again : column.Accepts "startDate" normal (.text "2024-02-29") := normalizes.again read rfl
  have digits : Date.Spells missing 2023 2 29 := by
    refine ⟨"2023".toList, "2".toList, "29".toList, [], [], [], by decide, by simp,
      .short ?_ (by decide), ⟨?_, by decide⟩, ?_, by decide⟩
    all_goals exact ⟨by decide, List.all_eq_true.1 (by decide), rfl⟩
  refine ⟨rfl, (normalizes.same_text_iff read rfl again).1 rfl, again, normalizes.no_day digits ?_⟩
  rw [Calendar.hasDay_iff]
  decide

end Column

end Listings
