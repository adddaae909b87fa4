import Listings.Filter.Walk
import Listings.Proofs.Parsing

/-!
# Following the readers

A walk over the tokens of a filter, step by step beside a reader that takes them from the head of a list.

* `Tape.Holds`: a cursor is where it may be.
* `Follows`: every cursor on the way is where it may be, and the walk comes to what the reader comes to.
* `Follows.bind`: what is to be shown of a walk and of what comes behind it.
* `follows_eat`, `follows_enter` and others like them: what is to be shown of a step.
-/

namespace Listings.Filter

/-! ## Cursors -/

/-- A cursor is at a token or at the end, and not too many levels have been entered. -/
structure Tape.Holds (tape : Tape) (c : Cursor) : Prop where
  place : c.place ≤ tape.tokens.length
  depth : c.depth ≤ maxDepth

/-- The tokens from a cursor on. -/
def Tape.left (tape : Tape) (c : Cursor) : List Token := tape.tokens.drop c.place

namespace Cursor

/-- The cursor behind a token. -/
def next (c : Cursor) : Cursor := { c with place := c.place + 1 }

/-- The cursor when one more level has been entered. -/
def entered (c : Cursor) : Cursor := { c with depth := c.depth + 1 }

/-- The cursor when a level has been left. -/
def exited (c : Cursor) : Cursor := { c with depth := c.depth - 1 }

/-- The level below the one that a cursor is at. -/
def below (c : Cursor) : Option Level := levelBelow (maxDepth - c.depth)

/-- From one cursor to another a token at least is taken, and every level that is entered is left. -/
structure Passed (c c' : Cursor) : Prop where
  place : c.place < c'.place
  depth : c'.depth = c.depth

section

variable {c c' : Cursor}

theorem passed_next (c : Cursor) : c.Passed c.next := ⟨Nat.lt_succ_self _, rfl⟩

theorem Passed.trans {c'' : Cursor} (h : c.Passed c') (h' : c'.Passed c'') : c.Passed c'' :=
  ⟨h.place.trans h'.place, h'.depth.trans h.depth⟩

theorem Passed.next (h : c.Passed c') : c.Passed c'.next := h.trans c'.passed_next

theorem Passed.of_next (h : c.next.Passed c') : c.Passed c' := c.passed_next.trans h

theorem Passed.exited (h : c.entered.Passed c') : c.Passed c'.exited :=
  ⟨h.place, congrArg (· - 1) h.depth⟩

theorem Passed.below (h : c.Passed c') : c'.below = c.below := by rw [Cursor.below, Cursor.below, h.depth]

end

end Cursor

section

variable {tape : Tape} {c : Cursor} {t : Token} {rest : List Token}

theorem Tape.Holds.at?_eq (holds : tape.Holds c) : tape.at? c.place = some (tape.left c).head? := by
  rw [at?, left, List.head?_drop]
  -- behind the tokens there is one more place, the end
  rcases holds.place.lt_or_eq with lt | last
  · rw [List.getElem?_append_left (by rwa [List.length_map]), List.getElem?_map,
      List.getElem?_eq_getElem lt]
    rfl
  · rw [List.getElem?_append_right (by rw [List.length_map, last]), List.length_map, last,
      Nat.sub_self, List.getElem?_eq_none le_rfl]
    rfl

/-- Behind a token that is left there are one fewer, and the cursor is not past the end. -/
theorem Tape.Holds.next (holds : tape.Holds c) (h : tape.left c = t :: rest) :
    tape.Holds c.next ∧ tape.left c.next = rest := by
  have lt : c.place < tape.tokens.length := by
    by_contra behind
    rw [left, List.drop_eq_nil_of_le (Nat.le_of_not_lt behind)] at h
    cases h
  refine ⟨⟨lt, holds.depth⟩, ?_⟩
  rw [left, Cursor.next, ← List.tail_drop]
  exact congrArg List.tail h

theorem Cursor.descend_below (h : c.depth < maxDepth) (rest : List Token) :
    descend c.below rest = .ok (.over c.entered.below) :=
  descend_levelBelow c.depth h rest

end

/-! ## Runs -/

section Runs

variable {α β : Type}

/-- What a walk comes to beside a reader: the same value, at a cursor that has the tokens left; the same
refusal; or an end of its calls, unless there are enough. -/
inductive Comes (tape : Tape) (enough : Prop) (final : Cursor → Prop) :
    Except Halt (α × Cursor) → Except Failure (α × List Token) → Prop
  | value {a : α} {c : Cursor} (holds : tape.Holds c) (last : final c) :
      Comes tape enough final (.ok (a, c)) (.ok (a, tape.left c))
  | refused (failure : Failure) :
      Comes tape enough final (.error (.refused (failure.locate tape.length))) (.error failure)
  | spent {read : Except Failure (α × List Token)} (few : ¬enough) :
      Comes tape enough final (.error .tooManyCalls) read

/-- A walk goes over cursors that are where they may be and comes to what a reader comes to. -/
structure Follows (tape : Tape) (enough : Prop) (final : Cursor → Prop)
    (run : Run Cursor (α × Cursor)) (read : Except Failure (α × List Token)) : Prop where
  inside : ∀ c ∈ run.passed, tape.Holds c
  comes : Comes tape enough final run.outcome read

variable {tape : Tape} {enough enough' : Prop} {final mid : Cursor → Prop} {c : Cursor}
  {run : Run Cursor (α × Cursor)} {read : Except Failure (α × List Token)}

theorem Follows.mono (h : Follows tape enough' mid run read) (he : enough → enough')
    (hf : ∀ c, mid c → final c) : Follows tape enough final run read := by
  obtain ⟨passed, outcome⟩ := run
  obtain ⟨inside, comes⟩ := h
  cases comes with
  | value holds last => exact ⟨inside, .value holds (hf _ last)⟩
  | refused failure => exact ⟨inside, .refused failure⟩
  | spent few => exact ⟨inside, .spent fun h => few (he h)⟩

theorem Follows.bind {walk : Walk α} {next : α → Walk β}
    {further : α × List Token → Except Failure (β × List Token)}
    (first : Follows tape enough mid (walk c) read)
    (later : ∀ a c', tape.Holds c' → mid c' →
      Follows tape enough final (next a c') (further (a, tape.left c'))) :
    Follows tape enough final ((walk >>= next) c) (read >>= further) := by
  show Follows _ _ _ (walk c >>= fun p => next p.1 p.2) _
  obtain ⟨inside, comes⟩ := first
  generalize walk c = run at inside comes
  obtain ⟨passed, outcome⟩ := run
  cases comes with
  | @value a c' holds last =>
    obtain ⟨inside', comes'⟩ := later a c' holds last
    exact ⟨List.forall_mem_append.2 ⟨inside, inside'⟩, comes'⟩
  | refused failure => exact ⟨inside, .refused failure⟩
  | spent few => exact ⟨inside, .spent few⟩

/-- A walk behind whose first part the reader has nothing more to do. -/
theorem Follows.ends {walk : Walk α} {next : α → Walk α} (first : Follows tape enough mid (walk c) read)
    (later : ∀ a c', tape.Holds c' → mid c' →
      Follows tape enough final (next a c') (.ok (a, tape.left c'))) :
    Follows tape enough final ((walk >>= next) c) read := by
  have same : read = read >>= .ok := by cases read <;> rfl
  rw [same]
  exact first.bind later

/-- A walk whose first step is known. -/
theorem Follows.after {walk : Walk β} {next : β → Walk α} {passed : List Cursor} {b : β} {c' : Cursor}
    (step : walk c = ⟨passed, .ok (b, c')⟩) (inside : ∀ v ∈ passed, tape.Holds v)
    (h : Follows tape enough final (next b c') read) :
    Follows tape enough final ((walk >>= next) c) read := by
  show Follows _ _ _ (walk c >>= fun p => next p.1 p.2) _
  rw [step]
  exact ⟨List.forall_mem_append.2 ⟨inside, h.inside⟩, h.comes⟩

theorem follows_pure (holds : tape.Holds c) (last : final c) (a : α) :
    Follows tape enough final ((pure a : Walk α) c) (.ok (a, tape.left c)) :=
  ⟨nofun, .value holds last⟩

theorem follows_refuse (cause : Cause) (rest : List Token) :
    Follows (α := α) tape enough final (Walk.refuse tape cause rest.head? c) (.error ⟨cause, rest⟩) := by
  cases rest with
  | nil => exact ⟨nofun, .refused ⟨cause, []⟩⟩
  | cons t rest => exact ⟨nofun, .refused ⟨cause, t :: rest⟩⟩

/-- A walk whose first step is refused. -/
theorem Follows.refused {walk : Walk β} {next : β → Walk α} {cause : Cause} {rest : List Token}
    (step : walk c = Walk.refuse tape cause rest.head? c) :
    Follows tape enough final ((walk >>= next) c) (.error ⟨cause, rest⟩) := by
  have first : Follows tape enough (fun _ => False) (walk c) (.error ⟨cause, rest⟩) := by
    rw [step]
    exact follows_refuse cause rest
  show Follows _ _ _ _ (.error ⟨cause, rest⟩ >>= fun _ : β × List Token => .error ⟨cause, rest⟩)
  exact first.bind fun _ _ _ never => never.elim

/-! ## Steps -/

namespace Walk

variable {t : Token} {s : Symbol} {d : Comparator} {rest : List Token}

theorem peek_eq (holds : tape.Holds c) : peek tape c = ⟨[], .ok ((tape.left c).head?, c)⟩ := by
  rw [peek, holds.at?_eq]
  rfl

theorem advance_nil (holds : tape.Holds c) (h : tape.left c = []) :
    advance tape c = ⟨[], .ok (none, c)⟩ := by
  show peek tape c >>= _ = _
  rw [peek_eq holds, h]
  rfl

theorem advance_cons (holds : tape.Holds c) (h : tape.left c = t :: rest) :
    advance tape c = ⟨[c.next], .ok (some t, c.next)⟩ := by
  show peek tape c >>= _ = _
  rw [peek_eq holds, h]
  rfl

theorem eat_eq (holds : tape.Holds c) (h : tape.left c = t :: rest) (ht : t.kind = .symbol s) :
    eat tape s c = ⟨[c.next], .ok (true, c.next)⟩ := by
  show peek tape c >>= _ = _
  rw [peek_eq holds, h, Run.bind_of_ok rfl]
  dsimp only
  rw [if_pos (by rw [List.head?_cons, Option.map_some, ht])]
  rfl

theorem eat_ne (holds : tape.Holds c) (h : ∀ t ∈ (tape.left c).head?, t.kind ≠ .symbol s) :
    eat tape s c = ⟨[], .ok (false, c)⟩ := by
  show peek tape c >>= _ = _
  have other : (tape.left c).head?.map Token.kind ≠ some (.symbol s) := by
    intro first
    obtain ⟨t, ht, kind⟩ := Option.map_eq_some_iff.1 first
    exact h t ht kind
  rw [peek_eq holds, Run.bind_of_ok rfl]
  dsimp only
  rw [if_neg other]
  rfl

theorem comparator?_eq (holds : tape.Holds c) :
    comparator? tape c = ⟨[], .ok ((tape.left c).head?.bind Token.comparator?, c)⟩ := by
  show peek tape c >>= _ = _
  rw [peek_eq holds]
  rfl

end Walk

/-! ## What is to be shown of a step -/

open Walk

variable {s : Symbol} {r : Reads α}

theorem follows_eat {yes no : Walk α} (holds : tape.Holds c)
    (taken : ∀ t, t.kind = .symbol s → tape.Holds c.next →
      Follows tape enough final (yes c.next) (r (t :: tape.left c.next)))
    (other : (∀ t ∈ (tape.left c).head?, t.kind ≠ .symbol s) →
      Follows tape enough final (no c) (r (tape.left c))) :
    Follows tape enough final ((do if ← eat tape s then yes else no) c) (r (tape.left c)) := by
  rcases head_cases s (tape.left c) with ⟨t, rest, ht, first⟩ | ne
  · obtain ⟨holds', rfl⟩ := holds.next first
    rw [first]
    exact .after (eat_eq holds first ht) (List.forall_mem_singleton.2 holds') (taken t ht holds')
  · exact .after (eat_ne holds ne) nofun (other ne)

theorem follows_advance {next : Option Token → Walk α} (holds : tape.Holds c)
    (last : tape.left c = [] → Follows tape enough final (next none c) (r []))
    (taken : ∀ t, tape.Holds c.next →
      Follows tape enough final (next (some t) c.next) (r (t :: tape.left c.next))) :
    Follows tape enough final ((advance tape >>= next) c) (r (tape.left c)) := by
  cases first : tape.left c with
  | nil => exact .after (advance_nil holds first) nofun (last first)
  | cons t rest =>
    obtain ⟨holds', rfl⟩ := holds.next first
    exact .after (advance_cons holds first) (List.forall_mem_singleton.2 holds') (taken t holds')

theorem follows_comparator {next : Option Comparator → Walk α} (holds : tape.Holds c)
    (found : ∀ d t, t.kind = .symbol (.compare d) → tape.left c = t :: tape.left c.next →
      Follows tape enough final (next (some d) c) (r (tape.left c)))
    (other : (∀ d, ∀ t ∈ (tape.left c).head?, t.kind ≠ .symbol (.compare d)) →
      Follows tape enough final (next none c) (r (tape.left c))) :
    Follows tape enough final ((comparator? tape >>= next) c) (r (tape.left c)) := by
  refine .after (comparator?_eq holds) nofun ?_
  rcases comparator_cases (tape.left c) with ⟨d, t, rest, ht, first⟩ | ne
  · have is : (tape.left c).head?.bind Token.comparator? = some d := by
      rw [first, List.head?_cons, Option.bind_some, Token.comparator?, ht]
    rw [is]
    exact found d t ht (first.trans (congrArg _ (holds.next first).2.symm))
  · have is : (tape.left c).head?.bind Token.comparator? = none := by
      refine Option.bind_eq_none_iff.2 fun t first => ?_
      unfold Token.comparator?
      split
      · next d kind => exact absurd kind (ne d t first)
      · rfl
    rw [is]
    exact other ne

theorem follows_demand {what : Expectation} {walk : Walk α}
    {further : List Token → Except Failure (α × List Token)} (holds : tape.Holds c)
    (taken : tape.Holds c.next → Follows tape enough final (walk c.next) (further (tape.left c.next))) :
    Follows tape enough final ((demand tape s what >>= fun _ => walk) c)
      (expect s what (tape.left c) >>= further) := by
  rcases head_cases s (tape.left c) with ⟨t, rest, ht, first⟩ | ne
  · obtain ⟨holds', rfl⟩ := holds.next first
    have step : demand tape s what c = ⟨[c.next], .ok ((), c.next)⟩ := by
      show eat tape s c >>= _ = _
      rw [eat_eq holds first ht]
      rfl
    rw [first, expect_eq_ok_iff.2 ⟨t, ht, rfl⟩]
    exact .after step (List.forall_mem_singleton.2 holds') (taken holds')
  · have step : demand tape s what c = refuse tape (.expected what) (tape.left c).head? c := by
      show eat tape s c >>= _ = _
      rw [eat_ne holds ne]
      show peek tape c >>= _ = _
      rw [peek_eq holds]
      rfl
    rw [expect_ne ne]
    exact .refused step

theorem follows_enter {walk : Walk α} {further : Level → Except Failure (α × List Token)}
    (holds : tape.Holds c)
    (opens : tape.Holds c.entered →
      Follows tape enough final (walk c.entered) (further (.over c.entered.below))) :
    Follows tape enough final ((enter tape >>= fun _ => walk) c)
      (descend c.below (tape.left c) >>= further) := by
  rcases holds.depth.lt_or_eq with lt | full
  · have holds' : tape.Holds c.entered := ⟨holds.place, lt⟩
    have step : enter tape c = ⟨[c.entered], .ok ((), c.entered)⟩ := by
      show (ite (c.depth < maxDepth) _ _ : Walk Unit) c = _
      rw [if_pos lt]
      rfl
    rw [Cursor.descend_below lt]
    exact .after step (List.forall_mem_singleton.2 holds') (opens holds')
  · have step : enter tape c = refuse tape .tooDeep (tape.left c).head? c := by
      show (ite (c.depth < maxDepth) _ _ : Walk Unit) c = _
      rw [if_neg full.not_lt]
      show peek tape c >>= _ = _
      rw [peek_eq holds]
      rfl
    rw [Cursor.below, full, Nat.sub_self]
    exact .refused step

theorem follows_leave {c' : Cursor} {walk : Walk α} {read : Except Failure (α × List Token)}
    (holds : tape.Holds c') (passed : c.entered.Passed c')
    (h : tape.Holds c'.exited → Follows tape enough final (walk c'.exited) read) :
    Follows tape enough final ((leave >>= fun _ => walk) c') read := by
  have holds' : tape.Holds c'.exited := ⟨holds.place, (Nat.sub_le _ _).trans holds.depth⟩
  have step : leave c' = ⟨[c'.exited], .ok ((), c'.exited)⟩ := by
    show (ite (c'.depth = 0) _ _ : Walk Unit) c' = _
    rw [if_neg (passed.depth ▸ Nat.succ_ne_zero c.depth)]
    rfl
  exact .after step (List.forall_mem_singleton.2 holds') (h holds')

theorem follows_returnTo {walk : Walk α} {read : Except Failure (α × List Token)} {depth : Nat}
    (holds : tape.Holds { c with depth })
    (h : Follows tape enough final (walk { c with depth }) read) :
    Follows tape enough final ((returnTo depth >>= fun _ => walk) c) read :=
  .after rfl (List.forall_mem_singleton.2 holds) h

end Runs

end Listings.Filter
