import Listings.Proofs.Meaning
import Listings.Proofs.NormalDates
import Listings.Text.Order

/-!
# The order of dates

Filters compare the texts of dates. As long as the years have four digits, this is to compare the dates.

* `Date.order`: the order of the calendar.
* `Date.HasForm`: the texts of four, two and two digits.
* `Date.compare_write`: the order of the normal forms of dates.
* `Entity.SelectsByDate`: which days the comparisons with a date select.
-/

namespace Listings

open Store

namespace Date

variable {date date' : Date}

/-- The order of two dates: that of their years, then that of the months, then that of the days. -/
def order (date date' : Date) : Ordering :=
  (compare date.year date'.year).then
    ((compare date.month date'.month).then (compare date.day date'.day))

theorem order_of_year_lt (h : date.year < date'.year) : date.order date' = .lt := by
  rw [order, show compare date.year date'.year = .lt from Int.compare_eq_lt.2 h, Ordering.lt_then]

theorem order_of_year_gt (h : date'.year < date.year) : date.order date' = .gt := by
  rw [order, show compare date.year date'.year = .gt from Int.compare_eq_gt.2 h, Ordering.gt_then]

/-- Four digits for the year and two each for the month and the day, with hyphens between them. -/
def HasForm (text : String) : Prop :=
  ∃ y m d : List Char, text.toList = y ++ '-' :: (m ++ '-' :: d) ∧
    (y.length = 4 ∧ m.length = 2 ∧ d.length = 2) ∧ ∀ c ∈ y ++ m ++ d, c.isDigit

/-- The year has four digits at most and is not before the year 0. -/
def PlainYear (date : Date) : Prop := 0 ≤ date.year ∧ date.year ≤ 9999

instance (date : Date) : Decidable date.PlainYear := inferInstanceAs (Decidable (_ ∧ _))

/-! ## Normal forms -/

theorem toList_write (date : Date) :
    date.write.toList
      = writeYear date.year ++ '-' :: (Text.padded 2 date.month ++ '-' :: Text.padded 2 date.day) := by
  simp [write]

theorem PlainYear.writeYear (plain : date.PlainYear) :
    writeYear date.year = Text.padded 4 date.year.toNat := by
  obtain ⟨first, last⟩ := plain
  rw [Date.writeYear, if_pos (by simp [first, last])]

theorem PlainYear.toNat_lt (plain : date.PlainYear) : date.year.toNat < 10000 := by
  have bound := plain.2
  omega

/-- Any other year has a sign. -/
theorem writeYear_of_not_plainYear (signed : ¬date.PlainYear) :
    ∃ sign, (sign = '+' ∨ sign = '-') ∧
      writeYear date.year = sign :: Text.padded 4 date.year.natAbs := by
  refine ⟨if date.year < 0 then '-' else '+', ?_, ?_⟩
  · split
    · exact .inr rfl
    · exact .inl rfl
  · rw [writeYear, if_neg (by simpa [PlainYear] using signed)]

theorem toNat_of_sign {c : Char} (h : c = '+' ∨ c = '-') : c.toNat < '0'.toNat := by
  rcases h with rfl | rfl <;> decide

/-- The normal form of a date has one byte for each character. -/
theorem ascii_write (date : Date) : Text.Ascii date.write.toList := by
  have digit {c : Char} (h : c.isDigit) : c.toNat < 128 :=
    Nat.lt_of_le_of_lt (Char.isDigit_iff_toNat.1 h).2 (by decide)
  have digits (width n : Nat) : Text.Ascii (Text.padded width n) :=
    fun _ h => digit (Text.isDigit_of_mem_padded h)
  have year : Text.Ascii (writeYear date.year) := by
    by_cases plain : date.PlainYear
    · rw [plain.writeYear]
      exact digits 4 _
    · obtain ⟨sign, isSign, text⟩ := writeYear_of_not_plainYear plain
      rw [text]
      exact List.forall_mem_cons.2 ⟨Nat.lt_trans (toNat_of_sign isSign) (by decide), digits 4 _⟩
  rw [toList_write]
  simp only [Text.Ascii, List.forall_mem_append, List.forall_mem_cons]
  exact ⟨year, by decide, digits 2 _, by decide, digits 2 _⟩

/-- The normal form of a date is of four, two and two digits exactly if the year needs no sign. -/
theorem hasForm_write_iff : HasForm date.write ↔ date.PlainYear := by
  constructor
  · rintro ⟨y, m, d, text, ⟨length, -, -⟩, digits⟩
    by_contra signed
    obtain ⟨sign, isSign, year⟩ := writeYear_of_not_plainYear signed
    rw [toList_write, year] at text
    cases y with
    | nil => cases length
    | cons c y =>
      rw [List.cons_append, List.cons_append, List.cons.injEq] at text
      have digit : c.isDigit := digits c (by simp)
      rw [← text.1, Char.isDigit_iff_toNat] at digit
      have low := toNat_of_sign isSign
      omega
  · intro plain
    refine ⟨_, _, _, ?_, ⟨Text.length_padded (by decide) plain.toNat_lt, date.length_month,
      date.length_day⟩, ?_⟩
    · rw [toList_write, plain.writeYear]
    · simp only [List.mem_append]
      rintro c ((h | h) | h) <;> exact Text.isDigit_of_mem_padded h

/-- A date has only one text of four, two and two digits. -/
theorem HasForm.eq_write {text : String} (form : HasForm text) (spelled : date.SpelledBy text) :
    text = date.write ∧ date.PlainYear := by
  obtain ⟨y, m, d, whole, ⟨ly, lm, ld⟩, digits⟩ := form
  simp only [List.forall_mem_append] at digits
  obtain ⟨⟨hy, hm⟩, hd⟩ := digits
  have numeral {cs : List Char} {width : Nat} (length : cs.length = width + 1)
      (h : ∀ c ∈ cs, c.isDigit) : Numeral cs (Text.ofDigits cs) :=
    ⟨List.ne_nil_of_length_eq_add_one length, h, rfl⟩
  have parts : Spells text (Text.ofDigits y : Int) (Text.ofDigits m) (Text.ofDigits d) :=
    ⟨y, m, d, [], [], [], whole, by simp, .short (numeral ly hy) (Nat.le_of_eq ly),
      ⟨numeral lm hm, Nat.le_of_eq lm⟩, numeral ld hd, Nat.le_of_eq ld⟩
  rw [spelledBy_iff, parse?_of_spells parts, ofParts?_eq_some_iff] at spelled
  obtain ⟨year, month, day⟩ := spelled
  have small : Text.ofDigits y < 10000 := by
    have bound := Text.ofDigits_lt hy
    rwa [ly] at bound
  have plain : date.PlainYear := ⟨by omega, by omega⟩
  refine ⟨?_, plain⟩
  have same {cs : List Char} {width n : Nat} (length : cs.length = (Text.padded width n).length)
      (h : ∀ c ∈ cs, c.isDigit) (value : n = Text.ofDigits cs) : cs = Text.padded width n :=
    Text.eq_of_ofDigits_eq length h (fun _ => Text.isDigit_of_mem_padded)
      (by rw [Text.ofDigits_padded, value])
  rw [← String.toList_inj, whole, toList_write, plain.writeYear,
    ← same (ly.trans (Text.length_padded (by decide) plain.toNat_lt).symm) hy (by omega),
    ← same (lm.trans date.length_month.symm) hm month, ← same (ld.trans date.length_day.symm) hd day]

/-! ## Their order -/

/-- The normal forms of plain years have the order of the dates. -/
theorem compare_write_of_plainYear (plain : date.PlainYear) (plain' : date'.PlainYear) :
    compare date.write date'.write = date.order date' := by
  have years : compare date.year.toNat date'.year.toNat = compare date.year date'.year := by
    have nonneg := plain.1
    have nonneg' := plain'.1
    exact Text.compareOfLessAndEq_congr (by omega) (by omega)
  have width : (Text.padded 4 date.year.toNat).length = (Text.padded 4 date'.year.toNat).length := by
    rw [Text.length_padded (by decide) plain.toNat_lt, Text.length_padded (by decide) plain'.toNat_lt]
  rw [Text.compare_toList, toList_write, toList_write, plain.writeYear, plain'.writeYear,
    Text.compare_append width, Text.compare_padded (by decide) plain.toNat_lt plain'.toNat_lt, years,
    List.compare_cons_cons, Std.compare_self, Ordering.eq_then,
    Text.compare_append (date.length_month.trans date'.length_month.symm),
    Text.compare_padded (by decide) date.month_lt date'.month_lt, List.compare_cons_cons,
    Std.compare_self, Ordering.eq_then, Text.compare_padded (by decide) date.day_lt date'.day_lt]
  rfl

/-- The normal form of a year with a sign comes before those of all plain years. -/
theorem compare_write_of_not_plainYear (plain : date.PlainYear) (signed : ¬date'.PlainYear) :
    compare date.write date'.write = .gt := by
  obtain ⟨sign, isSign, year⟩ := writeYear_of_not_plainYear signed
  obtain ⟨c, cs, digits, digit⟩ := (numeral_padded 4 date.year.toNat).exists_cons
  -- The text of a plain year begins with a digit, and both signs come before all digits.
  have first : compare c sign = .gt := by
    rw [← Text.compare_toNat, Nat.compare_eq_gt]
    exact Nat.lt_of_lt_of_le (toNat_of_sign isSign) (Char.isDigit_iff_toNat.1 digit).1
  rw [Text.compare_toList, toList_write, toList_write, plain.writeYear, digits, year, List.cons_append,
    List.cons_append, List.compare_cons_cons, first, Ordering.gt_then]

/-- The normal form of a plain year is compared with that of any date up to the year 9999 as the dates
are. It comes after those of all later dates, since these have a sign. -/
theorem compare_write (plain : date.PlainYear) :
    compare date.write date'.write = if date'.year ≤ 9999 then date.order date' else .gt := by
  by_cases plain' : date'.PlainYear
  · rw [if_pos plain'.2, compare_write_of_plainYear plain plain']
  · rw [compare_write_of_not_plainYear plain plain']
    split
    · next early =>
      have nonneg := plain.1
      unfold PlainYear at plain'
      exact (order_of_year_gt (by omega)).symm
    · rfl

end Date

/-! ## Stored texts -/

/-- Whether a comparator holds of what is in an order. A pattern is not about an order. -/
def Comparator.selects (op : Comparator) (o : Ordering) : Bool :=
  match op with
  | .equal => o == .eq
  | .notEqual => o != .eq
  | .greater => o == .gt
  | .greaterEqual => o != .lt
  | .less => o == .lt
  | .lessEqual => o != .gt
  | .like => false

namespace Store

theorem comparisonTruth_text {op : Comparator} (ordered : op ≠ .like) (a b : String) :
    comparisonTruth op (.text a) (.text b) = .ofBool (op.selects (compare a b)) := by
  cases op with
  | like => exact absurd rfl ordered
  | _ => rfl

theorem holds_equal_text (a b : String) :
    holds .equal (.text a) (.text b) = .ofBool (decide (a = b)) := by
  have same : (compare a b == .eq) = decide (a = b) := by
    rw [Bool.eq_iff_iff, beq_iff_eq, decide_eq_true_eq, Std.LawfulEqOrd.compare_eq_iff_eq]
  rw [← same]
  rfl

theorem isOneOf_texts (a : String) (bs : List String) :
    isOneOf (.text a) (bs.map .text) = .ofBool (decide (a ∈ bs)) := by
  induction bs with
  | nil => rfl
  | cons b bs ih =>
    rw [isOneOf, List.map_cons, List.map_cons, Truth.any_cons, holds_equal_text, ← isOneOf, ih,
      Truth.ofBool_or]
    simp only [List.mem_cons, Bool.decide_or]

/-- A column has the text of a day, in four, two and two digits. -/
def HoldsDay (scope : Scope) (column : Column) (day : Date) : Prop :=
  ∃ t, scope.value column.path = .text t ∧ Date.HasForm t ∧ day.SpelledBy t

theorem HoldsDay.value {scope : Scope} {column : Column} {day : Date} (h : HoldsDay scope column day) :
    scope.value column.path = .text day.write ∧ day.PlainYear := by
  obtain ⟨t, value, form, spelled⟩ := h
  obtain ⟨rfl, plain⟩ := form.eq_write spelled
  exact ⟨value, plain⟩

end Store

/-! ## Selected days -/

/-- Beside a column of dates, texts of dates stand for the normal forms of these. -/
theorem Column.values_of_dates {column : Column} {field : String} (dates : column.kind = .date)
    {texts : List String} {days : List Date} (spelled : List.Forall₂ Date.SpelledBy days texts)
    {values : List Value} (accepted : List.Forall₂ (column.Accepts field)
      (texts.map fun s => .literal (.text s)) values) :
    values = (days.map Date.write).map .text := by
  induction spelled generalizing values with
  | nil =>
    cases accepted
    rfl
  | cons first _ ih =>
    cases accepted with
    | cons accepted rest =>
      rw [accepted.eq_write dates first, ih rest]
      rfl

namespace Entity

/-- What the comparisons of a field with dates select. -/
structure SelectsByDate (entity : Entity) (field : String) (column : Column) : Prop where
  /-- A date stands for a text of four, two and two digits exactly if its year needs no sign. -/
  form_iff {s t : String} {date : Date} (h : column.Accepts field (.literal (.text s)) (.text t))
    (spelled : date.SpelledBy s) : Date.HasForm t ↔ date.PlainYear
  /-- Texts that dates of plain years stand for are ordered byte by byte as the dates are, also beside
  two columns. -/
  bytes {s s' t t' : String} {date date' : Date}
    (h : column.Accepts field (.literal (.text s)) (.text t)) (spelled : date.SpelledBy s)
    {column' : Column} {field' : String} (dates : column'.kind = .date)
    (h' : column'.Accepts field' (.literal (.text s')) (.text t')) (spelled' : date'.SpelledBy s')
    (plain : date.PlainYear) (plain' : date'.PlainYear) :
    Text.compareBytes t t' = date.order date'
  /-- A comparison with a date up to the year 9999 selects the days that are so related to the date, and
  so does a test for equality with any date. -/
  comparison {op : Comparator} (ordered : op ≠ .like) {s : String} {p : Predicate}
    (h : entity.resolve (.binary (.compare op) (.name field) (.literal (.text s))) = .ok p)
    {date : Date} (spelled : date.SpelledBy s)
    (early : date.year ≤ 9999 ∨ op = .equal ∨ op = .notEqual) (db : Database) {scope : Scope}
    {day : Date} (stored : Store.HoldsDay scope column day) :
    p.truth db scope = .ofBool (op.selects (day.order date))
  /-- A comparison with a later date selects days as if the date were before all of them. -/
  late {op : Comparator} (ordered : op ≠ .like) {s : String} {p : Predicate}
    (h : entity.resolve (.binary (.compare op) (.name field) (.literal (.text s))) = .ok p)
    {date : Date} (spelled : date.SpelledBy s) (late : 9999 < date.year) (db : Database)
    {scope : Scope} {day : Date} (stored : Store.HoldsDay scope column day) :
    p.truth db scope = .ofBool (op.selects .gt)
  /-- A test for several dates selects the days that are among them. -/
  membership {texts : List String} {p : Predicate}
    (h : entity.resolve
      (.call membershipFunction (.name field :: texts.map fun s => .literal (.text s))) = .ok p)
    {dates : List Date} (spelled : List.Forall₂ Date.SpelledBy dates texts) (db : Database)
    {scope : Scope} {day : Date} (stored : Store.HoldsDay scope column day) :
    p.truth db scope = .ofBool (decide (day ∈ dates))

variable {entity : Entity} {field : String} {column : Column}

/-- A field is compared with the normal form of the date that a text gives. -/
theorem predicate_of_comparison (found : entity.column? field = some column)
    (dates : column.kind = .date) {op : Comparator} {s : String} {p : Predicate}
    (h : entity.resolve (.binary (.compare op) (.name field) (.literal (.text s))) = .ok p)
    {date : Date} (spelled : date.SpelledBy s) : p = .compare op column (.text date.write) := by
  rw [resolve, comparison_eq_ok_iff] at h
  cases h with
  | compare found' _ accepted =>
    cases found.symm.trans found'
    rw [accepted.eq_write dates spelled]

/-- A field is tested for the normal forms of the dates that texts give. -/
theorem predicate_of_membership (found : entity.column? field = some column)
    (dates : column.kind = .date) {texts : List String} {p : Predicate}
    (h : entity.resolve
      (.call membershipFunction (.name field :: texts.map fun s => .literal (.text s))) = .ok p)
    {days : List Date} (spelled : List.Forall₂ Date.SpelledBy days texts) :
    p = .oneOf column ((days.map Date.write).map .text) false := by
  rw [resolve, call, if_pos rfl] at h
  obtain ⟨name, same, h⟩ := bind_eq_ok_iff.1 h
  cases same
  obtain ⟨-, column', found', values, accepted, rfl⟩ := inColumn_eq_ok_iff.1 h
  cases found.symm.trans found'
  rw [Column.values_of_dates dates spelled accepted]

/-- The truth of a comparison of a stored day with a date. -/
theorem truth_compare {op : Comparator} (ordered : op ≠ .like) (date : Date) (db : Database)
    {scope : Scope} {day : Date} (stored : Store.HoldsDay scope column day) :
    (Predicate.compare op column (.text date.write)).truth db scope
      = .ofBool (op.selects (if date.year ≤ 9999 then day.order date else .gt)) := by
  obtain ⟨value, plain⟩ := stored.value
  rw [Predicate.truth, value, comparisonTruth_text ordered, Date.compare_write plain]

/-- Filters that compare a field with dates select by date. -/
theorem selectsByDate (found : entity.column? field = some column) (dates : column.kind = .date) :
    entity.SelectsByDate field column where
  form_iff := by
    intro s t date h spelled
    cases h.eq_write dates spelled
    exact Date.hasForm_write_iff
  bytes := by
    intro s s' t t' date date' h spelled column' field' dates' h' spelled' plain plain'
    cases h.eq_write dates spelled
    cases h'.eq_write dates' spelled'
    rw [Text.compareBytes_of_ascii date.ascii_write date'.ascii_write,
      Date.compare_write_of_plainYear plain plain']
  comparison := by
    intro op ordered s p h date spelled early db scope day stored
    obtain ⟨-, plain⟩ := stored.value
    rw [predicate_of_comparison found dates h spelled, truth_compare ordered date db stored]
    split
    · rfl
    · next late =>
      -- The texts are in the wrong order, but a test for equality does not tell before from after.
      rw [Date.order_of_year_lt (Int.lt_of_le_of_lt plain.2 (Int.not_le.1 late))]
      rcases early with early | rfl | rfl
      · exact absurd early late
      · rfl
      · rfl
  late := by
    intro op ordered s p h date spelled late db scope day stored
    rw [predicate_of_comparison found dates h spelled, truth_compare ordered date db stored,
      if_neg (by omega)]
  membership := by
    intro texts p h days spelled db scope day stored
    obtain ⟨value, -⟩ := stored.value
    rw [predicate_of_membership found dates h spelled, Predicate.truth, value, isOneOf_texts]
    simp only [Truth.negateIf, List.mem_map_of_injective Date.write_injective]
    rfl

/-- Media that start on a day or later. -/
theorem selectsByDate_startDate :
    let startDate := Column.optional .date "media.start_date"
    let filter : Expr :=
      .binary (.compare .greaterEqual) (.name "startDate") (.literal (.text "2024-1-5"))
    let scope : Scope := [[⟨"media", [("start_date", .text "2024-01-05")]⟩]]
    Catalog.media.column? "startDate" = some startDate ∧ startDate.kind = .date ∧
      ∃ p, Catalog.media.resolve filter = .ok p ∧ ∀ db, p.truth db scope = .yes := by
  intro startDate filter scope
  have found : Catalog.media.column? "startDate" = some startDate := by decide
  have selects : Catalog.media.SelectsByDate "startDate" startDate := selectsByDate found rfl
  let day : Date := ⟨2024, 1, 5, by decide, by decide⟩
  have stored : Store.HoldsDay scope startDate day := by
    refine ⟨"2024-01-05", by decide, ?_, ?_⟩
    · exact ⟨"2024".toList, "01".toList, "05".toList, by decide, by decide,
        List.all_eq_true.1 (by decide)⟩
    · rw [Date.spelledBy_iff]
      decide
  have spelled : day.SpelledBy "2024-1-5" := by
    rw [Date.spelledBy_iff]
    decide
  have accepted : Catalog.media.resolve filter
      = .ok (.compare .greaterEqual startDate (.text "2024-01-05")) :=
    toOption_eq_some_iff.1 (by decide +kernel)
  refine ⟨found, rfl, _, accepted, fun db => ?_⟩
  rw [selects.comparison (by decide) accepted spelled (.inl (by decide)) db stored]
  decide

/-- A date of the year 10000 is accepted, but its text has a sign and is before those of all years of
four digits. Media that start in 2024 are selected as those that start after it. -/
theorem late_date_before_early :
    let startDate := Column.optional .date "media.start_date"
    let filter : Expr :=
      .binary (.compare .greater) (.name "startDate") (.literal (.text "+10000-01-01"))
    let scope : Scope := [[⟨"media", [("start_date", .text "2024-01-05")]⟩]]
    ∃ early late : Date, early.SpelledBy "2024-01-05" ∧ late.SpelledBy "+10000-01-01" ∧
      startDate.Accepts "startDate" (.literal (.text "2024-01-05")) (.text "2024-01-05") ∧
      startDate.Accepts "startDate" (.literal (.text "+10000-01-01")) (.text "+10000-01-01") ∧
      ¬Date.HasForm "+10000-01-01" ∧ early.order late = .lt ∧
      Text.compareBytes "2024-01-05" "+10000-01-01" = .gt ∧
      ∃ p, Catalog.media.resolve filter = .ok p ∧ ∀ db, p.truth db scope = .yes := by
  intro startDate filter scope
  let early : Date := ⟨2024, 1, 5, by decide, by decide⟩
  let late : Date := ⟨10000, 1, 1, by decide, by decide⟩
  have accepted : Catalog.media.resolve filter
      = .ok (.compare .greater startDate (.text "+10000-01-01")) :=
    toOption_eq_some_iff.1 (by decide +kernel)
  have normal : early.write = "2024-01-05" := by decide
  have normal' : late.write = "+10000-01-01" := by decide
  rw [← normal, ← normal']
  refine ⟨early, late, early.spelledBy_write, late.spelledBy_write, ?_, ?_, ?_, by decide, ?_, _,
    accepted, fun db => ?_⟩
  · exact (Column.accepts_date_iff rfl).2 ⟨early, early.spelledBy_write, rfl⟩
  · exact (Column.accepts_date_iff rfl).2 ⟨late, late.spelledBy_write, rfl⟩
  · rw [Date.hasForm_write_iff]
    decide
  · rw [Text.compareBytes_of_ascii early.ascii_write late.ascii_write]
    exact Date.compare_write_of_not_plainYear (by decide) (by decide)
  · have value : scope.value startDate.path = .text "2024-01-05" := by decide
    rw [Predicate.truth, value]
    decide

end Entity

end Listings
