import Listings.Proofs.Following
import Listings.Proofs.Scanning
import Listings.Proofs.Stopping

/-!
# Walking over tokens without a fault

The walks over the tokens of a filter do what the readers do. They need no more calls than the levels
that are left allow for, take tokens only where there are some, and leave the levels that they enter.

* `WalksAs`: a walk follows the readers of every level.
* `chainFrom_follows`, `argumentsFrom_follows`: the rounds of a loop.
* `Parsers.outer_sound`, `Parsers.within_sound`: the six walks, by the calls that are left.
* `Faultless`: what holds of every filter that is read in place.
* `parseWithin_eq`: calls that are enough for every filter.
-/

namespace Listings.Filter

variable {tape : Tape} {calls own : Nat}

/-- The calls that a walk from a cursor needs: six for every level that can still be entered, and its own
on the level of the cursor. -/
def Cursor.needs (c : Cursor) (own : Nat) : Nat := 6 * (maxDepth - c.depth) + own

section

variable {c c' : Cursor}

theorem Cursor.Passed.needs_eq (h : c.Passed c') (own : Nat) : c'.needs own = c.needs own := by
  rw [needs, needs, h.depth]

/-- A walk on a level that is entered needs fewer calls than the walk that enters it. -/
theorem Tape.Holds.needs_le (opened : tape.Holds c.entered) (own : Nat) {own' : Nat}
    (h : own' ≤ own + 5) (enough : c.needs own ≤ calls + 1) : c.entered.needs own' ≤ calls := by
  have lt : c.depth + 1 ≤ maxDepth := opened.depth
  simp only [Cursor.needs, Cursor.entered] at enough ⊢
  omega

end

/-- A walk from a cursor follows the readers of the level there. It takes a token at least and leaves
the levels that it enters. -/
def WalksAs {α : Type} (tape : Tape) (calls own : Nat) (walk : Walk α)
    (readers : Option Level → Reads α) : Prop :=
  ∀ c, tape.Holds c →
    Follows tape (c.needs own ≤ calls) c.Passed (walk c) (readers c.below (tape.left c))

/-! ## Loops -/

section Chains

open Parsers

variable {s : Symbol} {op : Operator} {operandOf : Level → Reads Expr}
  {moreOf : Level → Expr → Reads Expr} {operand : Walk Expr}
  (chained : Chained s op operandOf moreOf)
  (walks : WalksAs tape calls own operand fun below => operandOf (.over below))
include chained walks

/-- Every round takes an operator, so there is a round for each that follows. -/
theorem chainFrom_follows {c : Cursor} {rounds : Nat} (holds : tape.Holds c)
    (enough : tape.tokens.length - c.place < rounds) (left : Expr) :
    Follows tape (c.needs own ≤ calls) (fun c' => c.place ≤ c'.place)
      (chainFrom tape s op operand rounds left c) (moreOf (.over c.below) left (tape.left c)) := by
  induction rounds generalizing c left with
  | zero => cases enough
  | succ rounds ih =>
    refine follows_eat holds (fun t ht holds' => ?_) fun ne => ?_
    · rw [chained.opens ht]
      refine follows_enter holds' fun opened => ?_
      -- the level of the operand leaves more calls than it needs, as do those of the further rounds
      have deeper : c.next.entered.needs own ≤ c.needs own :=
        opened.needs_le own (Nat.le_add_right own 5) (Nat.le_succ _)
      refine ((walks _ opened).mono deeper.trans fun _ => id).bind fun right c' there passed => ?_
      have inside : c.place + 1 ≤ tape.tokens.length := holds'.place
      have further : c.place + 1 < c'.place := passed.place
      rw [← passed.below]
      rw [← passed.needs_eq] at deeper
      exact (ih there (by omega) _).mono deeper.trans fun _ => (Nat.le_of_succ_le further.le).trans
    · rw [chained.stops ne]
      exact follows_pure holds (Nat.le_refl c.place) left

theorem walksAs_chain : WalksAs tape (calls + 1) (own + 1) (chain tape s op operand)
    fun below ts => operandOf (.over below) ts >>= fun p => moreOf (.over below) p.1 p.2 := by
  intro c holds
  have enough : c.needs (own + 1) ≤ calls + 1 → c.needs own ≤ calls := Nat.le_of_succ_le_succ
  show Follows _ _ _ ((operand >>= fun left => chainFrom _ s op operand _ left >>= fun e =>
    Walk.returnTo c.depth >>= fun _ => pure e) c) _
  refine ((walks c holds).mono enough fun _ => id).bind fun left c' holds' passed => ?_
  rw [← passed.below]
  have rounds := chainFrom_follows chained walks holds' (Nat.lt_succ_of_le (Nat.sub_le _ _)) left
  -- all the levels that the rounds have entered are left at once
  refine (rounds.mono (passed.needs_eq own ▸ enough) fun _ => id).ends fun e c'' holds'' forward => ?_
  have back : tape.Holds { c'' with depth := c.depth } := ⟨holds''.place, holds.depth⟩
  exact follows_returnTo back (follows_pure back ⟨passed.place.trans_le forward, rfl⟩ e)

end Chains

/-- Every round takes a comma, so there is a round for each that follows. -/
theorem argumentsFrom_follows {argument : Walk Expr}
    (walks : WalksAs tape calls own argument disjunction) {c : Cursor} {rounds : Nat}
    (holds : tape.Holds c) (enough : tape.tokens.length - c.place < rounds) :
    Follows tape (c.needs own ≤ calls) c.Passed (Parsers.argumentsFrom tape argument rounds c)
      (allArguments (maxDepth - c.depth) (tape.left c)) := by
  induction rounds generalizing c with
  | zero => cases enough
  | succ rounds ih =>
    rw [allArguments_eq]
    refine (walks c holds).bind fun first c' there passed => ?_
    refine follows_eat there (fun t ht holds' => ?_) fun ne => ?_
    · rw [argumentsAfter_comma ht]
      have inside : c'.next.place ≤ tape.tokens.length := holds'.place
      have further : c.place < c'.next.place := passed.next.place
      have others := ih holds' (by omega)
      rw [passed.next.depth, passed.next.needs_eq] at others
      refine others.bind fun rest c'' last passed' => ?_
      exact follows_pure last (passed.next.trans passed') (first :: rest)
    · rw [argumentsAfter_ne ne]
      exact follows_demand there fun holds' => follows_pure holds' passed.next [first]

/-! ## The six walks -/

/-- The walks follow the readers, each with the calls that it needs. -/
structure Parsers.Sound (tape : Tape) (calls : Nat) (p : Parsers) : Prop where
  primary : WalksAs tape calls 1 p.primary Filter.primary
  unary : WalksAs tape calls 2 p.unary Filter.unary
  comparison : WalksAs tape calls 3 p.comparison Filter.comparison
  conjunction : WalksAs tape calls 4 p.conjunction Filter.conjunction
  disjunction : WalksAs tape calls 5 p.disjunction Filter.disjunction
  arguments : WalksAs tape calls 6 p.arguments fun below => Filter.arguments (Filter.disjunction below)

namespace Parsers

variable {inner : Parsers} (sound : inner.Sound tape calls)
include sound

/-- What stands behind an opening parenthesis. -/
theorem follows_group {c : Cursor} (opened : tape.Holds c.entered) :
    Follows tape (c.needs 1 ≤ calls + 1) c.Passed
      ((do
        let e ← inner.disjunction
        Walk.demand tape .rightParen .closingParen
        Walk.leave
        return e) c.entered)
      (group (.over c.entered.below) (tape.left c)) := by
  have deeper := (sound.disjunction _ opened).mono (opened.needs_le 1 (by decide)) fun _ => id
  refine deeper.bind fun e c' there passed => ?_
  refine follows_demand there fun there' => ?_
  exact follows_leave there' passed.next fun back => follows_pure back passed.next.exited e

/-- What stands behind the name of a function and an opening parenthesis. -/
theorem follows_call {c : Cursor} (opened : tape.Holds c.entered) (w : String) :
    Follows tape (c.needs 1 ≤ calls + 1) c.Passed
      ((do
        let args ← inner.arguments
        Walk.leave
        return Expr.call w args) c.entered)
      (callOf w (.over c.entered.below) (tape.left c)) := by
  have deeper := (sound.arguments _ opened).mono (opened.needs_le 1 (by decide)) fun _ => id
  refine deeper.bind fun args c' there passed => ?_
  exact follows_leave there passed fun back => follows_pure back passed.exited (Expr.call w args)

theorem walksAs_primary : WalksAs tape (calls + 1) 1 (primaryOver tape inner) Filter.primary := by
  intro c holds
  refine follows_advance holds (fun _ => follows_refuse .unexpected []) fun t holds' => ?_
  have one : c.Passed c.next := c.passed_next
  obtain ⟨kind, offset, text⟩ := t
  cases kind with
  | text s => exact follows_pure holds' one _
  | number n => exact follows_pure holds' one _
  | word w =>
    -- a constant, then a call or a name by what comes next
    by_cases null : w = nullWord
    · subst null
      exact follows_pure holds' one _
    · show Follows _ _ _ ((ite (w = nullWord) _ _ : Walk Expr) c.next) _
      rw [if_neg null]
      refine follows_eat (r := fun ts => Filter.primary c.below (⟨.word w, offset, text⟩ :: ts))
        holds' (fun u hu holds'' => ?_) fun ne => ?_
      · rw [primary_call_eq rfl null hu]
        refine follows_enter holds'' fun opened => ?_
        exact (follows_call sound opened w).mono id fun _ passed => passed.of_next.of_next
      · rw [primary_name_eq rfl null ne]
        exact follows_pure holds' one _
  | symbol s =>
    cases s with
    | leftParen =>
      rw [primary_leftParen rfl]
      refine follows_enter holds' fun opened => ?_
      exact (follows_group sound opened).mono id fun _ passed => passed.of_next
    | or | and | compare | not | rightParen | comma =>
      exact follows_refuse .unexpected (⟨_, offset, text⟩ :: tape.left c.next)

theorem walksAs_unary : WalksAs tape (calls + 1) 2 (unaryOver tape inner) Filter.unary := by
  intro c holds
  refine follows_eat holds (fun t ht holds' => ?_) fun ne => ?_
  · rw [unary_not_eq ht]
    refine follows_enter holds' fun opened => ?_
    have deeper := (sound.unary _ opened).mono (opened.needs_le 2 (by decide)) fun _ => id
    refine deeper.bind fun e c' there passed => ?_
    exact follows_leave there passed fun back => follows_pure back passed.exited.of_next (Expr.not e)
  · rw [unary_ne ne]
    exact (sound.primary c holds).mono Nat.le_of_succ_le_succ fun _ => id

theorem walksAs_comparison :
    WalksAs tape (calls + 1) 3 (comparisonOver tape inner) Filter.comparison := by
  intro c holds
  show Follows _ _ _ _
    (Filter.unary c.below (tape.left c) >>= fun p => comparisonFrom c.below p.1 p.2)
  have enough : c.needs 3 ≤ calls + 1 → c.needs 2 ≤ calls := Nat.le_of_succ_le_succ
  refine ((sound.unary c holds).mono enough fun _ => id).bind fun left c' there passed => ?_
  refine follows_comparator there (fun d t ht first => ?_) fun ne => ?_
  · rw [first, comparisonFrom_compare ht]
    have there' := (there.next first).1
    refine .after (Walk.advance_cons there first) (List.forall_mem_singleton.2 there') ?_
    rw [← passed.next.below]
    refine ((sound.unary _ there').mono (passed.next.needs_eq 2 ▸ enough) fun _ => id).bind
      fun right c'' last passed' => ?_
    refine follows_comparator last (fun d' t' ht' further => ?_) fun ne => ?_
    · rw [further, compared_compare ht', ← further]
      exact .after (Walk.peek_eq last) nofun (follows_refuse .chainedComparison _)
    · rw [compared_ne ne]
      exact follows_pure last (passed.next.trans passed') _
  · rw [comparisonFrom_ne ne]
    exact follows_pure there passed left

theorem walksAs_arguments : WalksAs tape (calls + 1) 6 (argumentsOver tape inner)
    fun below => Filter.arguments (Filter.disjunction below) := by
  intro c holds
  refine follows_eat holds (fun t ht holds' => ?_) fun ne => ?_
  · rw [arguments_closing ht]
    exact follows_pure holds' c.passed_next []
  · rw [arguments_ne ne]
    refine (argumentsFrom_follows sound.disjunction holds (by omega)).mono ?_ fun _ => id
    exact Nat.le_of_succ_le_succ

theorem outer_sound : (outer tape inner).Sound tape (calls + 1) where
  primary := walksAs_primary sound
  unary := walksAs_unary sound
  comparison := walksAs_comparison sound
  conjunction := walksAs_chain chained_and sound.comparison
  disjunction := walksAs_chain chained_or sound.conjunction
  arguments := walksAs_arguments sound

omit sound in
theorem spent_sound : spent.Sound tape 0 := by
  have walks {α : Type} (own : Nat) (readers : Option Level → Reads α) :
      WalksAs tape 0 (own + 1) (Walk.halt .tooManyCalls) readers :=
    fun c _ => ⟨nofun, .spent (Nat.not_succ_le_zero _)⟩
  exact ⟨walks 0 _, walks 1 _, walks 2 _, walks 3 _, walks 4 _, walks 5 _⟩

omit sound in
/-- The walks follow the readers, whatever the number of calls left. -/
theorem within_sound (tape : Tape) (calls : Nat) : (within tape calls).Sound tape calls := by
  induction calls with
  | zero => exact spent_sound
  | succ calls ih => exact outer_sound ih

end Parsers

/-! ## Whole filters -/

/-- A disjunction that nothing is to follow. -/
def atEnd (e : Expr) : Reads Expr := fun rest =>
  if rest.isEmpty then .ok (e, []) else .error ⟨.expected .endOfFilter, rest⟩

/-- All of the tokens. -/
def wholeExpr : Reads Expr := fun ts => exprOf ts >>= fun e => .ok (e, [])

theorem wholeExpr_eq (ts : List Token) :
    wholeExpr ts = disjunction (levelBelow maxDepth) ts >>= fun p => atEnd p.1 p.2 := by
  rw [wholeExpr, exprOf, Level.ofDepth_eq]
  show (disjunction (levelBelow maxDepth) ts >>= _) >>= _ = _
  cases disjunction (levelBelow maxDepth) ts with
  | error failure => rfl
  | ok p =>
    obtain ⟨e, rest⟩ := p
    cases rest <;> rfl

theorem Tape.holds_first (tape : Tape) : tape.Holds .first := ⟨Nat.zero_le _, Nat.zero_le _⟩

theorem walkThrough_follows (tape : Tape) (calls : Nat) :
    Follows tape (Cursor.first.needs 5 ≤ calls) Cursor.first.Passed (walkThrough tape calls .first)
      (wholeExpr tape.tokens) := by
  rw [wholeExpr_eq]
  refine ((Parsers.within_sound tape calls).disjunction _ tape.holds_first).bind
    fun e c holds passed => ?_
  refine .after (Walk.peek_eq holds) nofun ?_
  have ends : Follows tape (Cursor.first.needs 5 ≤ calls) Cursor.first.Passed _ _ :=
    follows_pure holds passed e
  cases left : tape.left c with
  | nil => rwa [left] at ends
  | cons t rest => exact follows_refuse (.expected .endOfFilter) (t :: rest)

/-! ## Nothing goes wrong -/

/-- A filter is read in place without a fault. -/
structure Faultless (filter : String) : Prop where
  /-- Every slice is one, every round goes further, and the scan ends with the tokens or is refused. -/
  scan : Scans filter 0 (scan filter) (tokens filter)
  /-- Whatever the number of calls, and from wherever a walk starts, it keeps to the tokens and to the
  levels that there may be. It has a value behind a token at least and on the level where it started, or
  it is refused, or it has fewer calls than it needs. -/
  walks : ∀ ts, tokens filter = .ok ts → ∀ calls,
    (Parsers.within (tapeOf filter ts) calls).Sound (tapeOf filter ts) calls
  /-- So does the walk that reads the whole filter. -/
  whole : ∀ ts, tokens filter = .ok ts → ∀ calls,
    Follows (tapeOf filter ts) (Cursor.first.needs 5 ≤ calls) Cursor.first.Passed
      (walkThrough (tapeOf filter ts) calls .first) (wholeExpr ts)

/-- No filter leads to a fault. -/
theorem faultless (filter : String) : Faultless filter where
  scan := scans_scan filter
  walks ts _ calls := Parsers.within_sound (tapeOf filter ts) calls
  whole ts _ calls := walkThrough_follows (tapeOf filter ts) calls

/-- So many calls are enough for every filter, however long and however deeply it nests. -/
theorem parseWithin_eq (more : Nat) (filter : String) :
    parseWithin (6 * (maxDepth + 1) + more) filter = (Expr.parse filter).mapError .refused := by
  rw [parseWithin, (scans_scan filter).outcome, Expr.parse, Text.byteLength_toList]
  cases tokens filter with
  | error e => rfl
  | ok ts =>
    have enough : Cursor.first.needs 5 ≤ 6 * (maxDepth + 1) + more := by
      simp only [Cursor.needs, Cursor.first]
      omega
    have comes := (walkThrough_follows (tapeOf filter ts) (6 * (maxDepth + 1) + more)).comes
    show (walkThrough _ _ _).outcome >>= _ = ((exprOf ts).mapError _).mapError _
    generalize (walkThrough _ _ _).outcome = outcome at comes
    generalize read : wholeExpr (tapeOf filter ts).tokens = o at comes
    cases comes with
    | value =>
      obtain ⟨e, found, same⟩ := bind_eq_ok_iff.1 read
      obtain ⟨rfl, -⟩ := Prod.mk.inj (Except.ok.inj same)
      rw [show exprOf ts = .ok e from found]
      rfl
    | refused failure =>
      rcases bind_eq_error_iff.1 read with stopped | ⟨e, -, never⟩
      · rw [show exprOf ts = .error failure from stopped]
        rfl
      · cases never
    | spent few => exact absurd enough few

/-- A name is read in five calls that are open in one another. -/
example : parseWithin 4 "a" = .error .tooManyCalls ∧ parseWithin 5 "a" = .ok (.name "a") :=
  ⟨rfl, rfl⟩

end Listings.Filter
