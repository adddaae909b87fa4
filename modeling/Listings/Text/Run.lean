/-!
# Runs

* `takeWhile_run`, `dropWhile_run`: a run of characters of one class is taken from the head of a text up
  to the first character of no such class; so it is with the tokens of a text.
-/

namespace Listings.Text

variable {α : Type} {p : α → Bool} {run rest : List α}

/-- A run is taken whole, and nothing after it, where the text does not go on with it. -/
theorem takeWhile_run (inside : ∀ c ∈ run, p c) (ends : ∀ c ∈ rest.head?, p c = false) :
    (run ++ rest).takeWhile p = run := by
  rw [List.takeWhile_append_of_pos inside]
  cases rest with
  | nil => exact List.append_nil run
  | cons c rest => simp [ends c rfl]

theorem dropWhile_run (inside : ∀ c ∈ run, p c) (ends : ∀ c ∈ rest.head?, p c = false) :
    (run ++ rest).dropWhile p = rest := by
  have whole := List.takeWhile_append_dropWhile (p := p) (l := run ++ rest)
  rwa [takeWhile_run inside ends, List.append_cancel_left_eq] at whole

end Listings.Text
