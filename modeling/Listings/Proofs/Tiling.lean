import Listings.Paging.BaseQuery
import Listings.Proofs.Ordering

/-!
# Pages and rows

That the pages of a listing hold all of its rows, each in its place.

* `Database.MayAnswer`: what a database may answer to a select statement.
* `lt_totalPages_iff`: which pages there are.
* `apply_window`: which rows a page holds.
* `PagesTile`: the pages of every size are parts of one list and make it up.
* `pagesTile`: they are if the keys distinguish the matching rows.
-/

namespace Listings

open Sql (Dialect Select)
open Store

/-! ## Answers of a database -/

/-- The answers that a database may give to a select statement: those for the matching rows in any
order that the statement allows. -/
def Store.Database.MayAnswer (db : Database) (s : Select) (answer : List Record) : Prop :=
  ∃ frames, Arranged s.order (db.matching s) frames ∧
    answer = (Window.apply s.window frames).map (project s.projection)

theorem Store.Database.mayAnswer_answer (db : Database) (s : Select) :
    db.MayAnswer s (db.answer s) :=
  ⟨_, arranged_sortFrames s.order (db.matching s), rfl⟩

/-! ## Which pages there are -/

/-- The number of pages is that of the full pages, and one more if items are left. -/
theorem toInt_totalPages {size items : Int64} (hs : 0 < size) (hi : 0 ≤ items) :
    (totalPages size items).toInt
      = (items.toNatClampNeg / size.toNatClampNeg
          + if items.toNatClampNeg % size.toNatClampNeg = 0 then 0 else 1 : Nat) := by
  have size_eq := Int64.toInt_eq_toNatClampNeg (Int64.le_of_lt hs)
  have items_eq := Int64.toInt_eq_toNatClampNeg hi
  have positive : 0 < size.toNatClampNeg := (Int64.toNatClampNeg_pos_iff size).2 hs
  have below := items.toNatClampNeg_lt
  generalize size.toNatClampNeg = s at *
  generalize items.toNatClampNeg = n at *
  have quotient : (items / size).toInt = (n / s : Nat) := by
    rw [Int64.toInt_div_of_ne_right _ _ (by rintro rfl; cases hs), size_eq, items_eq]
    rfl
  have remainder : items % size = 0 ↔ n % s = 0 := by
    rw [← Int64.toInt_inj, Int64.toInt_mod, size_eq, items_eq]
    exact Int.natCast_inj
  -- The one more page does not overflow: it has an item, and each full page has one.
  have parts := Nat.div_add_mod n s
  have full := Nat.mul_le_mul_right (n / s) positive
  rw [totalPages, if_pos hs, Int64.toInt_add, quotient]
  simp only [ne_eq, ite_not, remainder]
  split
  · rw [Int64.toInt_zero, Int.bmod_eq_of_le] <;> omega
  · rw [Int64.toInt_one, Int.bmod_eq_of_le] <;> omega

/-- Not more items than there are numbers of 64 bits are counted as they are. -/
theorem toNatClampNeg_ofNat {n : Nat} (h : n ≤ Int64.maxValue.toInt) :
    (Int64.ofNat n).toNatClampNeg = n := by
  rw [Int64.toInt_maxValue] at h
  exact Int64.toNatClampNeg_ofNat_of_lt (by omega)

theorem ofNat_nonneg {n : Nat} (h : n ≤ Int64.maxValue.toInt) : 0 ≤ Int64.ofNat n := by
  rw [Int64.toInt_maxValue] at h
  rw [Int64.le_iff_toInt_le, Int64.toInt_ofNat_of_lt (by omega)]
  exact Int.natCast_nonneg n

/-- There is a page exactly if there are more items than before it. -/
theorem lt_totalPages_iff {size items : Int64} (hs : 0 < size) (hi : 0 ≤ items) (k : Nat) :
    k < (totalPages size items).toNatClampNeg
      ↔ k * size.toNatClampNeg < items.toNatClampNeg := by
  have positive : 0 < size.toNatClampNeg := (Int64.toNatClampNeg_pos_iff size).2 hs
  rw [← Int64.toNat_toInt (totalPages size items), toInt_totalPages hs hi, Int.toNat_natCast]
  generalize size.toNatClampNeg = s at *
  generalize items.toNatClampNeg = n at *
  have rest := Nat.mod_lt n positive
  have within : k ≤ n / s ↔ k * s ≤ n := Nat.le_div_iff_mul_le positive
  have parts := Nat.div_add_mod n s
  rw [Nat.mul_comm] at parts
  split
  · next even =>
    rw [even, Nat.add_zero] at parts
    rw [Nat.add_zero, ← Nat.mul_lt_mul_right positive, parts]
  · next odd =>
    rw [Nat.lt_succ_iff, within]
    refine ⟨fun h => Nat.lt_of_le_of_ne h fun e => odd ?_, Nat.le_of_lt⟩
    rw [← e, Nat.mul_mod_left]

/-! ## Where a page is -/

/-- A page begins after as many rows as in exact arithmetic, also where their number is not one of 64
bits: then there are no rows after them. -/
theorem apply_window {α : Type} {size page : Int64} (hs : 0 < size) (hp : 0 ≤ page)
    {rows : List α} (fits : rows.length ≤ Int64.maxValue.toInt) :
    Window.apply (PageRequest.window? ⟨page, size⟩) rows
      = (rows.drop (page.toNatClampNeg * size.toNatClampNeg)).take size.toNatClampNeg := by
  have offset := PageRequest.toInt_offset ⟨page, size⟩
  rw [Int64.toInt_eq_toNatClampNeg hp, Int64.toInt_eq_toNatClampNeg (Int64.le_of_lt hs),
    ← Int.natCast_mul] at offset
  rw [PageRequest.window?, if_pos hs]
  simp only [Window.apply, ← Int64.toNat_toInt (PageRequest.offset _), offset]
  generalize page.toNatClampNeg * size.toNatClampNeg = start
  generalize Int64.maxValue.toInt = greatest at *
  by_cases h : start ≤ greatest
  · rw [show (max 0 (min (start : Int) greatest)).toNat = start by omega]
  · rw [List.drop_eq_nil_of_le (by omega), List.drop_eq_nil_of_le (by omega)]

/-- Parts of equal lengths are as much of a list as they are long together. -/
theorem flatMap_take_drop {α : Type} (rows : List α) (size count : Nat) :
    ((List.range count).flatMap fun k => (rows.drop (k * size)).take size)
      = rows.take (count * size) := by
  induction count with
  | zero => simp
  | succ count ih =>
    rw [List.range_succ, List.flatMap_append, ih, List.flatMap_singleton, Nat.succ_mul,
      List.take_add]

/-! ## The pages of a listing -/

section Pages

variable (db : Database) (base : BaseQuery) (filter : Option Predicate) (keys : List SortKey)

/-- All matching rows in order. -/
def listedFrames : List Frame :=
  sortFrames (.byKeys keys) (db.matching (base.select filter base.projection))

/-- What a listing gives of all matching rows, in order. -/
def listedRecords : List Record :=
  (listedFrames db base filter keys).map (project base.projection)

variable (dialect : Dialect)

/-- The statement for a page may be answered with these records. -/
def MayShow (request : PageRequest) (records : List Record) : Prop :=
  db.MayAnswer (statements base filter (.byKeys keys) request dialect).page.select records

/-- The number of pages when the rows are counted with the other statement. -/
def pageCount (request : PageRequest) : Int64 :=
  let count := db.count (statements base filter (.byKeys keys) request dialect).count.select
  (Page.ofCount request count).totalPages

/-- The pages of every size are parts of one list and make it up. -/
structure PagesTile : Prop where
  /-- The list is all matching rows in the only order that the keys allow. -/
  order : ∀ frames,
    Arranged (.byKeys keys) (db.matching (base.select filter base.projection)) frames
      ↔ frames = listedFrames db base filter keys
  /-- A page holds the rows at its places, in exact arithmetic. -/
  page : ∀ size page : Int64, 0 < size → 0 ≤ page → ∀ records,
    MayShow db base filter keys dialect ⟨page, size⟩ records
      ↔ records = ((listedRecords db base filter keys).drop
          (page.toNatClampNeg * size.toNatClampNeg)).take size.toNatClampNeg
  /-- The number of pages is that of the pages with rows. -/
  nonempty : ∀ size page : Int64, 0 < size → 0 ≤ page → ∀ records,
    MayShow db base filter keys dialect ⟨page, size⟩ records →
      (records ≠ [] ↔ page < pageCount db base filter keys dialect ⟨page, size⟩)
  /-- One after the other they give the list. -/
  whole : ∀ size page : Int64, 0 < size → ∃ count : Nat,
    (pageCount db base filter keys dialect ⟨page, size⟩).toInt = count ∧
    ∀ shown : Nat → List Record,
      (∀ k < count, MayShow db base filter keys dialect ⟨.ofNat k, size⟩ (shown k)) →
        (List.range count).flatMap shown = listedRecords db base filter keys
  /-- A page without a positive size is the list. -/
  unlimited : ∀ size page : Int64, size ≤ 0 → 0 ≤ page →
    (∀ records, MayShow db base filter keys dialect ⟨page, size⟩ records
      ↔ records = listedRecords db base filter keys) ∧
    pageCount db base filter keys dialect ⟨page, size⟩
      = if listedRecords db base filter keys = [] then 0 else 1

variable {db base filter keys dialect}

/-- An answer to the statement for a page is what its window shows of the list. -/
theorem mayShow_iff
    (distinct : Distinguishes keys (db.matching (base.select filter base.projection)))
    {request : PageRequest} {records : List Record} :
    MayShow db base filter keys dialect request records
      ↔ records = Window.apply request.window? (listedRecords db base filter keys) := by
  have map_apply : ∀ (window : Option Sql.Window) (frames : List Frame),
      (Window.apply window frames).map (project base.projection)
        = Window.apply window (frames.map (project base.projection)) := by
    intro window frames
    cases window with
    | none => rfl
    | some w => simp only [Window.apply, List.map_take, List.map_drop]
  constructor
  · rintro ⟨frames, arranged, rfl⟩
    obtain rfl := (arranged_iff distinct).1 arranged
    exact map_apply _ _
  · rintro rfl
    exact ⟨_, arranged_sortFrames _ _, (map_apply _ _).symm⟩

theorem length_listedRecords :
    (listedRecords db base filter keys).length
      = (db.matching (base.select filter base.projection)).length := by
  rw [listedRecords, List.length_map]
  exact (arranged_sortFrames _ _).1.length_eq

theorem pageCount_eq (request : PageRequest) :
    pageCount db base filter keys dialect request
      = totalPages request.perPage (.ofNat (listedRecords db base filter keys).length) := by
  rw [length_listedRecords]
  rfl

section Sized

variable (fits : (listedRecords db base filter keys).length ≤ Int64.maxValue.toInt)
  {size : Int64} (hs : 0 < size)
include fits hs

/-- The number of pages is not negative. -/
theorem toInt_pageCount (page : Int64) :
    (pageCount db base filter keys dialect ⟨page, size⟩).toInt
      = (pageCount db base filter keys dialect ⟨page, size⟩).toNatClampNeg := by
  rw [← Int64.toNat_toInt, pageCount_eq, toInt_totalPages hs (ofNat_nonneg fits)]
  rfl

/-- A page is counted exactly if a row is left for it. -/
theorem lt_pageCount_iff (page : Int64) (k : Nat) :
    k < (pageCount db base filter keys dialect ⟨page, size⟩).toNatClampNeg
      ↔ k * size.toNatClampNeg < (listedRecords db base filter keys).length := by
  rw [pageCount_eq, lt_totalPages_iff hs (ofNat_nonneg fits), toNatClampNeg_ofNat fits]

/-- A page has a row exactly if it is counted. -/
theorem ne_nil_iff_lt_pageCount {page : Int64} (hp : 0 ≤ page) :
    ((listedRecords db base filter keys).drop
        (page.toNatClampNeg * size.toNatClampNeg)).take size.toNatClampNeg ≠ []
      ↔ page < pageCount db base filter keys dialect ⟨page, size⟩ := by
  have positive := (Int64.toNatClampNeg_pos_iff size).2 hs
  rw [Int64.lt_iff_toInt_lt, Int64.toInt_eq_toNatClampNeg hp, toInt_pageCount fits hs,
    Int.ofNat_lt, lt_pageCount_iff fits hs, ne_eq, List.take_eq_nil_iff, List.drop_eq_nil_iff]
  omega

/-- The counted pages make up the list. -/
theorem flatMap_pages (page : Int64) :
    ((List.range (pageCount db base filter keys dialect ⟨page, size⟩).toNatClampNeg).flatMap
        fun k => ((listedRecords db base filter keys).drop (k * size.toNatClampNeg)).take
          size.toNatClampNeg)
      = listedRecords db base filter keys := by
  rw [flatMap_take_drop, List.take_of_length_le]
  exact Nat.le_of_not_lt (mt (lt_pageCount_iff fits hs page _).2 (Nat.lt_irrefl _))

end Sized

/-- The pages of a listing tile its rows if the keys distinguish the matching rows. -/
theorem pagesTile
    (distinct : Distinguishes keys (db.matching (base.select filter base.projection)))
    (fits : (db.matching (base.select filter base.projection)).length ≤ Int64.maxValue.toInt) :
    PagesTile db base filter keys dialect := by
  rw [← length_listedRecords] at fits
  have page : ∀ size page : Int64, 0 < size → 0 ≤ page → ∀ records,
      MayShow db base filter keys dialect ⟨page, size⟩ records
        ↔ records = ((listedRecords db base filter keys).drop
            (page.toNatClampNeg * size.toNatClampNeg)).take size.toNatClampNeg := by
    intro size page hs hp records
    rw [mayShow_iff distinct, apply_window hs hp fits]
  refine ⟨fun frames => arranged_iff distinct, page, ?_, ?_, ?_⟩
  · intro size k hs hp records shown
    rw [(page size k hs hp records).1 shown]
    exact ne_nil_iff_lt_pageCount fits hs hp
  · intro size k hs
    refine ⟨_, toInt_pageCount fits hs k, fun shown all => ?_⟩
    have bounded := Int64.toInt_le (pageCount db base filter keys dialect ⟨k, size⟩)
    rw [toInt_pageCount fits hs] at bounded
    have parts : ∀ i ∈ List.range (pageCount db base filter keys dialect ⟨k, size⟩).toNatClampNeg,
        shown i = ((listedRecords db base filter keys).drop (i * size.toNatClampNeg)).take
            size.toNatClampNeg := by
      intro i hi
      have hi := List.mem_range.1 hi
      have small : i ≤ Int64.maxValue.toInt := by omega
      rw [(page size (.ofNat i) hs (ofNat_nonneg small) (shown i)).1 (all i hi),
        toNatClampNeg_ofNat small]
    rw [List.flatMap_def, List.map_congr_left parts, ← List.flatMap_def]
    exact flatMap_pages fits hs k
  · intro size k hs hp
    have small : ¬0 < size := Int64.not_lt.2 hs
    refine ⟨fun records => ?_, ?_⟩
    · rw [mayShow_iff distinct, PageRequest.window?, if_neg small]
      rfl
    · have items : 0 < Int64.ofNat (listedRecords db base filter keys).length
          ↔ listedRecords db base filter keys ≠ [] := by
        rw [← Int64.toNatClampNeg_pos_iff, toNatClampNeg_ofNat fits, List.length_pos_iff]
      rw [pageCount_eq, totalPages, if_neg small]
      simp only [items, ite_not]

end Pages

/-! ### An instance -/

/-- Three media, in no order. -/
def threeMedia : Database :=
  ⟨[⟨"media", ["id", "title"],
    [[.text "m2", .text "Dandadan"], [.text "m3", .text "Frieren"], [.text "m1", .text "Akira"]]⟩]⟩

theorem pagesTile_threeMedia :
    PagesTile threeMedia { table := ⟨"media"⟩ } none [⟨⟨"media.id"⟩, .ascending⟩] .sqlite :=
  pagesTile (by decide +kernel) (by decide +kernel)

end Listings
