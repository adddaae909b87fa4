import Listings.Column

/-!
# Field tables

The fields of an entity by the names that requests use.

* `FieldTable.find?`: the column of a name.
* `FieldTable.find?_eq_some_iff_mem`: in a table without two entries of one name it is that of the entry.
-/

namespace Listings

/-- Names with the columns that they stand for. -/
abbrev FieldTable := List (String × Column)

namespace FieldTable

/-- The names, in order. -/
def names (table : FieldTable) : List String := table.map (·.1)

/-- The column of a name; of two entries with one name the first counts. -/
def find? (table : FieldTable) (name : String) : Option Column := table.lookup name

theorem find?_isSome_iff {table : FieldTable} {name : String} :
    (table.find? name).isSome ↔ name ∈ table.names := by
  simp only [find?, names]
  induction table with
  | nil => simp
  | cons entry table ih =>
    rw [List.lookup_cons, List.map_cons, List.mem_cons, ← ih]
    by_cases h : name = entry.1
    · simp [h]
    · simp [h, beq_false_of_ne h]

/-- Where no two entries have one name, the columns found are those of the entries. -/
theorem find?_eq_some_iff_mem {table : FieldTable} (distinct : table.names.Nodup) {name : String}
    {column : Column} : table.find? name = some column ↔ (name, column) ∈ table := by
  induction table with
  | nil => simp [find?]
  | cons entry table ih =>
    obtain ⟨key, first⟩ := entry
    obtain ⟨fresh, distinct⟩ := List.nodup_cons.1 distinct
    rw [find?, List.lookup_cons, List.mem_cons]
    by_cases h : name = key
    · subst h
      simp only [beq_self_eq_true, Option.some.injEq, Prod.mk.injEq, true_and]
      constructor
      · rintro rfl
        exact .inl rfl
      · rintro (rfl | later)
        · rfl
        · exact absurd (List.mem_map_of_mem later) fresh
    · simp only [beq_false_of_ne h, Prod.mk.injEq, h, false_and, false_or]
      exact ih distinct

end FieldTable

end Listings
