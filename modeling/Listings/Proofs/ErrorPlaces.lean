import Listings.Proofs.Stopping

/-!
# Places of errors

A filter that is refused has, at the place that the error names, the text that it names.

* `Forward`: a reader only takes tokens from the head, also where it fails.
* `Level.isForward_ofDepth`: all readers of filters are such.
* `PointsAt`: an error names a place of a filter and the text that stands there.
* `parse_error_pointsAt`: every error of every filter does.
-/

namespace Listings.Filter

variable {α β : Type} {ts rest : List Token}

/-! ## What is left of the tokens -/

/-- The tokens that are left, whether those before them were read or one of them was refused. -/
def remaining : Except Failure (α × List Token) → List Token
  | .ok p => p.2
  | .error failure => failure.rest

/-- A reader takes tokens from the head and leaves the others as they are. -/
def Forward (r : Reads α) : Prop := ∀ ts, remaining (r ts) <:+ ts

theorem forward_ok (a : α) : Forward fun ts => .ok (a, ts) := fun _ => List.suffix_rfl

namespace Forward

variable {r : Reads α} {k : α × List Token → Except Failure (β × List Token)}

/-- One reader after another. -/
theorem bind (h : Forward r) (hk : ∀ a, Forward fun ts => k (a, ts)) :
    Forward fun ts => r ts >>= k := by
  intro ts
  have first := h ts
  simp only
  generalize r ts = o at first ⊢
  cases o with
  | error failure => exact first
  | ok p => exact (hk p.1 p.2).trans first

/-- A reader whose value is put to use. -/
theorem map (f : α → β) (h : Forward r) : Forward fun ts => r ts >>= fun p => .ok (f p.1, p.2) :=
  h.bind fun a => forward_ok (f a)

/-- A reader behind a token. -/
theorem behind (h : Forward r) (t : Token) (ts : List Token) : remaining (r ts) <:+ t :: ts :=
  (h ts).trans (List.suffix_cons t ts)

end Forward

/-- The readers of a level leave the end of the tokens. -/
structure Level.IsForward (level : Level) : Prop where
  unary : Forward level.unary
  comparison : Forward level.comparison
  conjunction : Forward level.conjunction
  disjunction : Forward level.disjunction
  conjunctionFrom (left : Expr) : Forward (level.conjunctionFrom left)
  disjunctionFrom (left : Expr) : Forward (level.disjunctionFrom left)

theorem forward_closing (what : Expectation) (a : α) :
    Forward fun ts => expect .rightParen what ts >>= fun rest => .ok (a, rest) := by
  intro ts
  rcases head_cases .rightParen ts with ⟨u, rest, hu, rfl⟩ | other
  · simp only [expect_closing hu]
    exact List.suffix_cons u rest
  · simp only [expect_ne other]
    exact List.suffix_rfl

section Arguments

variable {argument : Reads Expr} (h : Forward argument)
include h

theorem forward_argumentsFrom (bound : Nat) : Forward (argumentsFrom argument bound) := by
  induction bound with
  | zero => exact fun ts => List.suffix_rfl
  | succ bound ih =>
    refine h.bind fun first ts => ?_
    rcases head_cases .comma ts with ⟨t, rest, ht, rfl⟩ | other
    · show remaining (argumentsAfter _ first (t :: rest)) <:+ _
      rw [argumentsAfter_comma ht]
      exact (ih.map (first :: ·)).behind t rest
    · show remaining (argumentsAfter _ first ts) <:+ _
      rw [argumentsAfter_ne other]
      exact forward_closing .commaOrClosingParen [first] ts

theorem forward_arguments : Forward (arguments argument) := by
  intro ts
  rcases head_cases .rightParen ts with ⟨u, rest, hu, rfl⟩ | other
  · rw [arguments_closing hu]
    exact List.suffix_cons u rest
  · rw [arguments_ne other]
    exact forward_argumentsFrom h ts.length ts

end Arguments

theorem forward_compared (c : Comparator) (left right : Expr) : Forward (compared c left right) := by
  intro ts
  rcases comparator_cases ts with ⟨d, t, rest, ht, rfl⟩ | other
  · rw [compared_compare ht]
    exact List.suffix_rfl
  · rw [compared_ne other]
    exact List.suffix_rfl

section

variable {below : Option Level} (hb : ∀ level, below = some level → level.IsForward)
include hb

/-- What is read one level further down, if there is one. -/
theorem forward_descend {k : Level → Reads α} (hk : ∀ level : Level, level.IsForward → Forward (k level)) :
    Forward fun ts => descend below ts >>= fun level => k level ts := by
  intro ts
  cases below with
  | none => exact List.suffix_rfl
  | some level => exact hk level (hb level rfl) ts

theorem forward_primary : Forward (primary below) := by
  intro ts
  cases ts with
  | nil => exact List.suffix_rfl
  | cons t ts =>
    cases kind : t.kind with
    | text s =>
      simp only [primary, kind]
      exact List.suffix_cons t ts
    | number n =>
      simp only [primary, kind]
      exact List.suffix_cons t ts
    | word w =>
      by_cases null : w = nullWord
      · simp only [primary, kind, if_pos null]
        exact List.suffix_cons t ts
      rcases head_cases .leftParen ts with ⟨u, ts, hu, rfl⟩ | other
      · rw [primary_call_eq kind null hu]
        have call := forward_descend hb (k := callOf w) fun level forward =>
          (forward_arguments forward.disjunction).map (Expr.call w)
        exact (call.behind u ts).trans (List.suffix_cons t _)
      · rw [primary_name_eq kind null other]
        exact List.suffix_cons t ts
    | symbol s =>
      by_cases leftParen : s = .leftParen
      · subst leftParen
        rw [primary_leftParen kind]
        have grouped := forward_descend hb (k := group) fun level forward =>
          forward.disjunction.bind (forward_closing .closingParen)
        exact grouped.behind t ts
      · rw [primary_other kind leftParen]
        exact List.suffix_rfl

theorem forward_unary : Forward (unary below) := by
  intro ts
  rcases head_cases .not ts with ⟨t, ts, ht, rfl⟩ | other
  · rw [unary_not_eq ht]
    have opposite := forward_descend hb (k := negated) fun level forward => forward.unary.map Expr.not
    exact opposite.behind t ts
  · rw [unary_ne other]
    exact forward_primary hb ts

theorem forward_comparisonFrom (left : Expr) : Forward (comparisonFrom below left) := by
  intro ts
  rcases comparator_cases ts with ⟨c, t, ts, ht, rfl⟩ | other
  · rw [comparisonFrom_compare ht]
    exact ((forward_unary hb).bind (forward_compared c left)).behind t ts
  · rw [comparisonFrom_ne other]
    exact List.suffix_rfl

theorem forward_comparison : Forward (comparison below) :=
  (forward_unary hb).bind (forward_comparisonFrom hb)

/-- The rest of a chain leaves the end of the tokens if the readers of the level below do. -/
theorem Chained.forward {s : Symbol} {op : Operator} {operandOf : Level → Reads Expr}
    {moreOf : Level → Expr → Reads Expr} (chained : Chained s op operandOf moreOf)
    (operands : ∀ level : Level, level.IsForward → Forward (operandOf level))
    (chains : ∀ level : Level, level.IsForward → ∀ left, Forward (moreOf level left))
    (left : Expr) : Forward (moreOf (.over below) left) := by
  intro ts
  rcases head_cases s ts with ⟨t, ts, ht, rfl⟩ | other
  · rw [chained.opens ht]
    have more := forward_descend hb (k := further op operandOf moreOf left) fun level forward =>
      (operands level forward).bind fun right => chains level forward (.binary op left right)
    exact more.behind t ts
  · rw [chained.stops other]
    exact List.suffix_rfl

theorem forward_conjunctionFrom (left : Expr) : Forward (conjunctionFrom below left) :=
  chained_and.forward hb (fun _ => Level.IsForward.comparison)
    (fun _ => Level.IsForward.conjunctionFrom) left

theorem forward_conjunction : Forward (conjunction below) :=
  (forward_comparison hb).bind (forward_conjunctionFrom hb)

theorem forward_disjunctionFrom (left : Expr) : Forward (disjunctionFrom below left) :=
  chained_or.forward hb (fun _ => Level.IsForward.conjunction)
    (fun _ => Level.IsForward.disjunctionFrom) left

theorem forward_disjunction : Forward (disjunction below) :=
  (forward_conjunction hb).bind (forward_disjunctionFrom hb)

theorem Level.isForward_over : (Level.over below).IsForward where
  unary := forward_unary hb
  comparison := forward_comparison hb
  conjunction := forward_conjunction hb
  disjunction := forward_disjunction hb
  conjunctionFrom := forward_conjunctionFrom hb
  disjunctionFrom := forward_disjunctionFrom hb

end

theorem Level.isForward_ofDepth (depth : Nat) : (Level.ofDepth depth).IsForward := by
  induction depth with
  | zero => exact Level.isForward_over nofun
  | succ depth ih =>
    refine Level.isForward_over fun level same => ?_
    cases same
    exact ih

/-- Where tokens are refused, an end of them is left. -/
theorem exprOf_rest_suffix {failure : Failure} (h : exprOf ts = .error failure) :
    failure.rest <:+ ts := by
  have left := (Level.isForward_ofDepth maxDepth).disjunction ts
  rw [Level.ofDepth_eq] at left
  change remaining (disjunction (levelBelow maxDepth) ts) <:+ ts at left
  rcases exprOf_eq_error h with refused | ⟨e, rest, read, -, rfl⟩
  · rwa [refused] at left
  · rwa [read] at left

/-! ## Places of a filter -/

/-- An error names a place of a filter and the text that stands there. -/
structure PointsAt (filter : String) (e : SyntaxError) : Prop where
  /-- The place is at the boundary of a character. -/
  boundary : (String.Pos.Raw.mk e.position).IsValid filter
  /-- The text is what the filter has there. -/
  slice : ∃ before rest : String, filter = before ++ e.text ++ rest ∧
    before.utf8ByteSize = e.position
  /-- Only at the end of the filter there is no text. -/
  finish : e.text = "" ↔ e.position = filter.utf8ByteSize

open Text (byteLength)

/-- What an error has to name, said of the characters of a filter. -/
theorem pointsAt_of_toList {filter : String} {e : SyntaxError} {before rest : List Char}
    (slice : filter.toList = before ++ (e.text.toList ++ rest))
    (place : byteLength before = e.position) (finish : e.text.toList = [] → rest = []) :
    PointsAt filter e := by
  have whole : filter = String.ofList before ++ e.text ++ String.ofList rest := by
    rw [← String.toList_inj, slice]
    simp
  have start : (String.ofList before).utf8ByteSize = e.position := by
    rw [Text.byteLength_ofList, place]
  refine ⟨String.Pos.Raw.isValid_iff_exists_append.2 ?_, ⟨_, _, whole, start⟩, ?_⟩
  · refine ⟨.ofList before, e.text ++ .ofList rest, by rw [whole, String.append_assoc], ?_⟩
    rw [String.Pos.Raw.ext_iff, String.byteIdx_rawEndPos, start]
  · rw [← Text.byteLength_toList filter, slice, Text.byteLength_append, Text.byteLength_append, place]
    constructor
    · intro empty
      have nil : e.text.toList = [] := by rw [empty, String.toList_empty]
      rw [nil, finish nil]
      rfl
    · intro last
      by_contra nonempty
      have pos := Text.byteLength_pos (mt String.toList_eq_nil_iff.1 nonempty)
      omega

/-- A filter that cannot be cut into tokens is refused for a character or a token text of it. -/
theorem tokensFrom_error {offset : Nat} {cs : List Char} {e : SyntaxError}
    (h : tokensFrom offset cs = .error e) :
    ∃ before rest, cs = before ++ (e.text.toList ++ rest) ∧ offset + byteLength before = e.position ∧
      e.text.toList ≠ [] := by
  fun_induction Filter.tokensFrom offset cs with
  | case1 => cases h
  | case2 offset cs start c rest trimmed =>
    cases h
    refine ⟨cs.takeWhile Text.isBlank, rest, ?_, rfl, by simp⟩
    rw [Char.toString_eq_singleton, String.toList_singleton, List.singleton_append, ← trimmed,
      List.takeWhile_append_dropWhile]
  | case3 offset cs start c rest trimmed shape text found =>
    rename_i ih
    have whole : text ++ (c :: rest).drop text.length = c :: rest :=
      List.prefix_iff_eq_append.1 (lexeme?_eq_some_iff.1 found).start
    have lies : cs = cs.takeWhile Text.isBlank ++ (text ++ (c :: rest).drop text.length) := by
      rw [whole, ← trimmed, List.takeWhile_append_dropWhile]
    rcases bind_eq_error_iff.1 h with undecoded | ⟨kind, -, h⟩
    · obtain ⟨cause, -, rfl⟩ := mapError_eq_error_iff.1 undecoded
      refine ⟨cs.takeWhile Text.isBlank, (c :: rest).drop text.length, ?_, rfl, ?_⟩
      · rwa [String.toList_ofList]
      · rw [String.toList_ofList]
        exact lexeme?_ne_nil found
    · rcases bind_eq_error_iff.1 h with later | ⟨others, -, h⟩
      · obtain ⟨before, rest', behind, place, nonempty⟩ := ih later
        refine ⟨cs.takeWhile Text.isBlank ++ (text ++ before), rest', ?_, ?_, nonempty⟩
        · rw [List.append_assoc, List.append_assoc, ← behind, ← lies]
        · rw [← place, Text.byteLength_append, Text.byteLength_append]
          omega
      · cases h

/-- A failure is located at a token or at the end. -/
theorem pointsAt_locate {filter : String} (cut : tokens filter = .ok ts) {failure : Failure}
    (left : failure.rest <:+ ts) : PointsAt filter (failure.locate (byteLength filter.toList)) := by
  obtain ⟨cause, rest⟩ := failure
  cases rest with
  | nil =>
    have whole : filter.toList = filter.toList ++ ([] ++ []) := by simp
    exact pointsAt_of_toList whole rfl fun _ => rfl
  | cons t rest =>
    obtain ⟨before, after, shape, slice, place, longest, -⟩ :=
      (tokensFrom_eq_ok_iff.1 cut).of_mem t (left.subset List.mem_cons_self)
    rw [Nat.zero_add] at place
    refine pointsAt_of_toList slice place fun empty => ?_
    obtain ⟨c, cs, text, -⟩ := longest.lexeme.exists_cons
    change t.text.toList = [] at empty
    rw [empty] at text
    cases text

/-- Whatever the reason why a filter is refused, the error points at a place of it. -/
theorem parse_error_pointsAt {filter : String} {e : SyntaxError} (h : Expr.parse filter = .error e) :
    PointsAt filter e := by
  rcases bind_eq_error_iff.1 h with uncut | ⟨ts, cut, h⟩
  · obtain ⟨before, rest, slice, place, nonempty⟩ := tokensFrom_error uncut
    rw [Nat.zero_add] at place
    exact pointsAt_of_toList slice place fun empty => absurd empty nonempty
  · obtain ⟨failure, refused, rfl⟩ := mapError_eq_error_iff.1 h
    exact pointsAt_locate cut (exprOf_rest_suffix refused)

/-- An unknown escape, behind a blank of three bytes and a character of two. -/
def unknownEscape : String := "\u3000\"é\\q\" == title"

theorem parse_error_pointsAt_unknownEscape :
    Expr.parse unknownEscape = .error ⟨.unknownEscape 'q', 3, "\"é\\q\""⟩ ∧
      PointsAt unknownEscape ⟨.unknownEscape 'q', 3, "\"é\\q\""⟩ := by
  have uncut : tokens unknownEscape = .error ⟨.unknownEscape 'q', 3, "\"é\\q\""⟩ :=
    by decide +kernel
  have refused : Expr.parse unknownEscape = .error ⟨.unknownEscape 'q', 3, "\"é\\q\""⟩ :=
    bind_eq_error_iff.2 (.inl uncut)
  exact ⟨refused, parse_error_pointsAt refused⟩

end Listings.Filter
