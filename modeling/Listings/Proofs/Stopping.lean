import Listings.Proofs.Lookahead
import Listings.Proofs.Tokenizing

/-!
# Where reading stops

A filter that is refused is refused at the earliest token where that can be known: the tokens before it
are the beginning of a filter, and together with it they are the beginning of none.

* `DepthSettles`: what comes of reading with a number of levels below shows what is read with another.
* `depthSettles_of_le`: it does where there are no fewer of them.
* `IsFilter`: tokens that are a filter by the grammar, without a limit.
* `Earliest`: the place of a failure is the earliest possible.
* `parse_stops`: it is for every failure but that there are too many levels.
-/

namespace Listings.Filter

variable {α : Type} {t u : Token} {ts rest : List Token}

/-! ## Arguments -/

section Arguments

variable {depth bound : Nat} {e : Expr} {others : Reads (List Expr)}

theorem disjunction_closing (hu : u.kind = .symbol .rightParen) (below : Option Level)
    (rest : List Token) : disjunction below (u :: rest) = .error ⟨.unexpected, u :: rest⟩ := by
  obtain ⟨kind, offset, text⟩ := u
  cases hu
  rfl

/-- An operand takes at least one token. -/
theorem disjunction_shorter (h : disjunction (levelBelow depth) ts = .ok (e, rest)) :
    rest.length < ts.length := by
  have sound := Level.ofDepth_sound depth
  rw [Level.ofDepth_eq] at sound
  obtain ⟨taken, rfl, k, levels, derives, -⟩ := sound.disjunction h
  obtain ⟨t, taken, -, rfl, -⟩ := derives.exists_cons
  rw [List.length_append, List.length_cons]
  omega

theorem argument_then_congr {others' : Reads (List Expr)}
    (same : ∀ rest, rest.length + 1 < ts.length → others rest = others' rest) :
    (disjunction (levelBelow depth) ts >>= fun p => argumentsAfter others p.1 p.2)
      = disjunction (levelBelow depth) ts >>= fun p => argumentsAfter others' p.1 p.2 := by
  cases first : disjunction (levelBelow depth) ts with
  | error failure => rfl
  | ok p =>
    obtain ⟨e, rest⟩ := p
    have shorter := disjunction_shorter first
    show argumentsAfter others e rest = argumentsAfter others' e rest
    rcases head_cases .comma rest with ⟨t, rest, ht, rfl⟩ | other
    · rw [argumentsAfter_comma ht, argumentsAfter_comma ht, same rest shorter]
    · rw [argumentsAfter_ne other, argumentsAfter_ne other]

/-- There are fewer arguments than tokens, so the bound on their number does not show. -/
theorem argumentsFrom_bound {bound' : Nat} (h : ts.length ≤ bound) (h' : ts.length ≤ bound') :
    argumentsFrom (disjunction (levelBelow depth)) bound ts
      = argumentsFrom (disjunction (levelBelow depth)) bound' ts := by
  induction bound generalizing bound' ts with
  | zero =>
    obtain rfl : ts = [] := List.length_eq_zero_iff.1 (by omega)
    cases bound' <;> rfl
  | succ bound ih =>
    cases bound' with
    | zero =>
      obtain rfl : ts = [] := List.length_eq_zero_iff.1 (by omega)
      rfl
    | succ bound' =>
      rw [argumentsFrom_succ, argumentsFrom_succ]
      exact argument_then_congr fun rest shorter => ih (by omega) (by omega)

/-- The arguments up to the closing parenthesis, at least one. -/
def allArguments (depth : Nat) : Reads (List Expr) := fun ts =>
  argumentsFrom (disjunction (levelBelow depth)) ts.length ts

theorem allArguments_eq (depth : Nat) (ts : List Token) :
    allArguments depth ts = disjunction (levelBelow depth) ts >>= fun p =>
      argumentsAfter (allArguments depth) p.1 p.2 := by
  rw [allArguments, argumentsFrom_bound le_rfl (Nat.le_succ ts.length), argumentsFrom_succ]
  exact argument_then_congr fun rest shorter => argumentsFrom_bound (by omega) le_rfl

theorem completable_allArguments (depth : Nat) : Completable (allArguments depth) [] := by
  refine ⟨[anyName, anyClosing], [.name "x"], fun rest _ => ⟨ends_anyName 3 _, ?_⟩⟩
  rw [allArguments_eq]
  rfl

/-- Arguments are settled if each of them is. The reader that they are settled for has no bound, as what
it is given may be longer than the tokens here. -/
theorem settles_argumentsFrom {depth' : Nat}
    (ha : ∀ ts, Settles (disjunction (levelBelow depth')) (disjunction (levelBelow depth) ts) ts)
    (hb : ts.length ≤ bound) :
    Settles (allArguments depth') (argumentsFrom (disjunction (levelBelow depth)) bound ts) ts := by
  induction bound generalizing ts with
  | zero =>
    obtain rfl : ts = [] := List.length_eq_zero_iff.1 (by omega)
    exact .refuse_nil (completable_allArguments depth') rfl
  | succ bound ih =>
    rw [argumentsFrom_succ, funext (allArguments_eq depth')]
    refine (ha ts).bind (fun first rest taken => ?_) fun first => ?_
    · have shorter := disjunction_shorter taken
      rcases head_cases .comma rest with ⟨t, rest, ht, rfl⟩ | other
      · rw [List.length_cons] at shorter
        have others := @ih rest (by omega)
        rw [argumentsAfter_comma ht]
        show Settles _ _ ([t] ++ rest)
        refine .behind (argumentsAfter_comma ht first) ?_
        exact others.map (fun _ => rfl) fun _ => rfl
      · rw [argumentsAfter_ne other]
        refine (settles_closing .commaOrClosingParen [first] rest).congr ?_ ?_
        · exact fun ts' head => argumentsAfter_ne (by rwa [head]) first
        · intro ts' es rest _ closed
          obtain ⟨after, found, same⟩ := bind_eq_ok_iff.1 closed
          obtain ⟨u, hu, rfl⟩ := expect_eq_ok_iff.1 found
          have closing : ∀ t ∈ (u :: after).head?, t.kind ≠ .symbol .comma := by
            rintro _ ⟨⟩
            rw [hu]
            nofun
          exact (argumentsAfter_ne closing first).trans closed
    · exact completable_of_closing (a := [first]) fun rest => rfl

end Arguments

/-! ## The readers of one level -/

/-- What comes of reading with so many levels below shows what is read with so many of them. -/
structure DepthSettles (n n' : Nat) : Prop where
  unary (ts : List Token) : Settles (unary (levelBelow n')) (unary (levelBelow n) ts) ts
  comparison (ts : List Token) :
    Settles (comparison (levelBelow n')) (comparison (levelBelow n) ts) ts
  conjunction (ts : List Token) :
    Settles (conjunction (levelBelow n')) (conjunction (levelBelow n) ts) ts
  disjunction (ts : List Token) :
    Settles (disjunction (levelBelow n')) (disjunction (levelBelow n) ts) ts
  conjunctionFrom (left : Expr) (ts : List Token) :
    Settles (conjunctionFrom (levelBelow n') left) (conjunctionFrom (levelBelow n) left ts) ts
  disjunctionFrom (left : Expr) (ts : List Token) :
    Settles (disjunctionFrom (levelBelow n') left) (disjunctionFrom (levelBelow n) left ts) ts

/-- A chain may end where its symbol does not hold on to the operand. -/
theorem Chained.completable {s : Symbol} {op : Operator} {operandOf : Level → Reads Expr}
    {moreOf : Level → Expr → Reads Expr} (chained : Chained s op operandOf moreOf)
    (hs : s.looseness ≤ 3) (below : Option Level) (left : Expr) :
    Completable (moreOf (.over below) left) [] :=
  completable_of_ends fun _ ends => chained.stops (ends.ne hs) below left

theorem arguments_settles {n n' : Nat} (h : DepthSettles n n') (ts : List Token) :
    Settles (arguments (disjunction (levelBelow n'))) (arguments (disjunction (levelBelow n)) ts)
      ts := by
  rcases head_cases .rightParen ts with ⟨u, rest, hu, rfl⟩ | other
  · rw [arguments_closing hu]
    exact .one fun rest' _ => arguments_closing hu _
  · rw [arguments_ne other]
    refine (settles_argumentsFrom h.disjunction le_rfl).congr ?_ ?_
    · exact fun ts' head => arguments_ne (by rwa [head]) _
    · -- A closing parenthesis ends a part, but no argument begins with it.
      intro ts' es rest _ read
      refine (arguments_ne (fun u first hu => ?_) _).trans read
      obtain ⟨after, rfl⟩ := List.head?_eq_some_iff.1 first
      rw [allArguments_eq, disjunction_closing hu] at read
      cases read

theorem completable_compared (c : Comparator) (left right : Expr) :
    Completable (compared c left right) [] :=
  completable_of_ends fun _ ends => compared_ne ends.ne_compare c left right

/-- The end of a comparison, or a further comparator, which is refused. -/
theorem compared_settles (c : Comparator) (left right : Expr) (ts : List Token) :
    Settles (compared c left right) (compared c left right ts) ts := by
  rcases comparator_cases ts with ⟨d, t, rest, ht, rfl⟩ | other
  · rw [compared_compare ht]
    exact .refuse_cons (completable_compared c left right) (compared_compare ht c left right)
  · rw [compared_ne other]
    exact .stay fun rest' alike => compared_ne (alike.ne_compare other) c left right

section

variable {n n' : Nat} (hb : ∀ m, n = m + 1 → ∃ m', n' = m' + 1 ∧ DepthSettles m m')
include hb

/-- Where there is a level below, there is one below the other level too. -/
theorem settles_descend (k : Level → Reads α)
    (h : ∀ m m', DepthSettles m m' →
      Settles (k (.over (levelBelow m'))) (k (.over (levelBelow m)) ts) ts) :
    Settles (fun ts => descend (levelBelow n') ts >>= fun level => k level ts)
      (descend (levelBelow n) ts >>= fun level => k level ts) ts := by
  cases n with
  | zero => exact .tooDeep
  | succ m =>
    obtain ⟨m', rfl, settles⟩ := hb m rfl
    have here := h m m' settles
    rwa [← Level.ofDepth_eq, ← Level.ofDepth_eq] at here

/-- A reader that takes a token or two and goes on one level further down. -/
theorem settles_opening (r : Option Level → Reads α) (before : List Token) (k : Level → Reads α)
    (opens : ∀ below rest, r below (before ++ rest) = descend below rest >>= fun level => k level rest)
    (h : ∀ m m', DepthSettles m m' →
      Settles (k (.over (levelBelow m'))) (k (.over (levelBelow m)) ts) ts) :
    Settles (r (levelBelow n')) (r (levelBelow n) (before ++ ts)) (before ++ ts) := by
  rw [opens]
  exact .behind (opens _) (settles_descend hb k h)

theorem primary_settles (ts : List Token) :
    Settles (primary (levelBelow n')) (primary (levelBelow n) ts) ts := by
  cases ts with
  | nil =>
    exact .refuse_nil (completable_primary _) rfl
  | cons t ts =>
    have constant (e : Expr) (read : ∀ below rest, primary below (t :: rest) = .ok (e, rest)) :
        Settles (primary (levelBelow n')) (primary (levelBelow n) (t :: ts)) (t :: ts) := by
      rw [read]
      exact .one fun rest' _ => read _ rest'
    cases kind : t.kind with
    | text s => exact constant (.literal (.text s)) fun below rest => by simp only [primary, kind]
    | number x =>
      exact constant (.literal (.number x)) fun below rest => by simp only [primary, kind]
    | word w =>
      by_cases null : w = nullWord
      · exact constant (.literal .null) fun below rest => by simp only [primary, kind, if_pos null]
      rcases head_cases .leftParen ts with ⟨u, ts, hu, rfl⟩ | other
      · have opens := primary_call_eq kind null hu
        refine settles_opening hb primary [t, u] (callOf w) opens fun m m' settles => ?_
        exact (arguments_settles settles ts).map (fun _ => rfl) fun _ => rfl
      · rw [primary_name_eq kind null other]
        refine .one fun rest' alike => ?_
        exact primary_name_eq kind null (alike.ne (by decide) other) _
    | symbol s =>
      by_cases leftParen : s = .leftParen
      · subst leftParen
        have opens := primary_leftParen kind
        refine settles_opening hb primary [t] group opens fun m m' settles => ?_
        refine (settles.disjunction ts).bind (fun e rest _ => ?_) fun e => ?_
        · exact settles_closing .closingParen e rest
        · exact completable_of_closing (a := e) fun rest => rfl
      · rw [primary_other kind leftParen]
        exact .refuse_cons (completable_primary _) (primary_other kind leftParen _)

theorem unary_settles (ts : List Token) :
    Settles (unary (levelBelow n')) (unary (levelBelow n) ts) ts := by
  rcases head_cases .not ts with ⟨t, ts, ht, rfl⟩ | other
  · have opens := unary_not_eq ht
    refine settles_opening hb unary [t] negated opens fun m m' settles => ?_
    exact (settles.unary ts).map (fun _ => rfl) fun _ => rfl
  · rw [unary_ne other]
    refine (primary_settles hb ts).congr (fun ts' head => unary_ne (by rwa [head]) _) ?_
    -- A `!` ends a part, but no primary expression begins with it.
    intro ts' e rest _ read
    refine (unary_ne (fun t first ht => ?_) _).trans read
    obtain ⟨after, rfl⟩ := List.head?_eq_some_iff.1 first
    rw [primary_other ht (by decide)] at read
    cases read

theorem comparisonFrom_settles (left : Expr) (ts : List Token) :
    Settles (comparisonFrom (levelBelow n') left) (comparisonFrom (levelBelow n) left ts) ts := by
  rcases comparator_cases ts with ⟨c, t, ts, ht, rfl⟩ | other
  · rw [comparisonFrom_compare ht]
    show Settles _ _ ([t] ++ ts)
    refine .behind (comparisonFrom_compare ht _ left) ?_
    refine (unary_settles hb ts).bind (fun right rest _ => ?_) fun right => ?_
    · exact compared_settles c left right rest
    · exact completable_compared c left right
  · rw [comparisonFrom_ne other]
    exact .stay fun rest' alike => comparisonFrom_ne (alike.ne_compare other) _ left

theorem comparison_settles (ts : List Token) :
    Settles (comparison (levelBelow n')) (comparison (levelBelow n) ts) ts := by
  refine (unary_settles hb ts).bind (fun left rest _ => ?_) fun left => ?_
  · exact comparisonFrom_settles hb left rest
  · exact completable_of_ends fun rest ends => comparisonFrom_ne ends.ne_compare _ left

/-- The rest of a chain is settled if its operands and the rest behind them are. -/
theorem Chained.settles {s : Symbol} {op : Operator} {operandOf : Level → Reads Expr}
    {moreOf : Level → Expr → Reads Expr} (chained : Chained s op operandOf moreOf)
    (hs : s.looseness ≤ 3)
    (operands : ∀ m m', DepthSettles m m' → ∀ ts, Settles (operandOf (.over (levelBelow m')))
      (operandOf (.over (levelBelow m)) ts) ts)
    (chains : ∀ m m', DepthSettles m m' → ∀ left ts, Settles (moreOf (.over (levelBelow m')) left)
      (moreOf (.over (levelBelow m)) left ts) ts) (left : Expr) (ts : List Token) :
    Settles (moreOf (.over (levelBelow n')) left) (moreOf (.over (levelBelow n)) left ts) ts := by
  rcases head_cases s ts with ⟨t, ts, ht, rfl⟩ | other
  · have opens (below : Option Level) (rest : List Token) := chained.opens ht below left rest
    refine settles_opening hb (fun below => moreOf (.over below) left) [t]
      (further op operandOf moreOf left) opens fun m m' settles => ?_
    refine (operands m m' settles ts).bind (fun right rest _ => ?_) fun right => ?_
    · exact chains m m' settles (.binary op left right) rest
    · exact chained.completable hs _ (.binary op left right)
  · rw [chained.stops other]
    exact .stay fun rest' alike => chained.stops (alike.ne hs other) _ left

theorem conjunctionFrom_settles (left : Expr) (ts : List Token) :
    Settles (conjunctionFrom (levelBelow n') left) (conjunctionFrom (levelBelow n) left ts) ts :=
  chained_and.settles hb (by decide) (fun _ _ => DepthSettles.comparison)
    (fun _ _ => DepthSettles.conjunctionFrom) left ts

theorem disjunctionFrom_settles (left : Expr) (ts : List Token) :
    Settles (disjunctionFrom (levelBelow n') left) (disjunctionFrom (levelBelow n) left ts) ts :=
  chained_or.settles hb (by decide) (fun _ _ => DepthSettles.conjunction)
    (fun _ _ => DepthSettles.disjunctionFrom) left ts

theorem conjunction_settles (ts : List Token) :
    Settles (conjunction (levelBelow n')) (conjunction (levelBelow n) ts) ts := by
  refine (comparison_settles hb ts).bind (fun left rest _ => ?_) fun left => ?_
  · exact conjunctionFrom_settles hb left rest
  · exact chained_and.completable (by decide) _ left

theorem disjunction_settles (ts : List Token) :
    Settles (disjunction (levelBelow n')) (disjunction (levelBelow n) ts) ts := by
  refine (conjunction_settles hb ts).bind (fun left rest _ => ?_) fun left => ?_
  · exact disjunctionFrom_settles hb left rest
  · exact chained_or.completable (by decide) _ left

theorem depthSettles_of_below : DepthSettles n n' where
  unary := unary_settles hb
  comparison := comparison_settles hb
  conjunction := conjunction_settles hb
  disjunction := disjunction_settles hb
  conjunctionFrom := conjunctionFrom_settles hb
  disjunctionFrom := disjunctionFrom_settles hb

end

/-- What comes of reading is the same with more levels below, unless there were too few. -/
theorem depthSettles_of_le {n n' : Nat} (h : n ≤ n') : DepthSettles n n' := by
  induction n generalizing n' with
  | zero => exact depthSettles_of_below nofun
  | succ n ih =>
    refine depthSettles_of_below fun m same => ?_
    cases same
    obtain ⟨m', rfl⟩ : ∃ m', n' = m' + 1 := ⟨n' - 1, by omega⟩
    exact ⟨m', rfl, ih (by omega)⟩

/-! ## The place of an error -/

section Disjunctions

variable {n : Nat} {e : Expr}

theorem disjunction_ok (h : disjunction (levelBelow n) ts = .ok (e, rest)) :
    ∃ taken, ts = taken ++ rest ∧ ∀ n', n ≤ n' → ∀ rest', Alike rest rest' →
      disjunction (levelBelow n') (taken ++ rest') = .ok (e, rest') := by
  obtain ⟨taken, rfl, -⟩ := (Level.ofDepth_eq n ▸ Level.ofDepth_sound n).disjunction h
  refine ⟨taken, rfl, fun n' le => ?_⟩
  have settles := (depthSettles_of_le le).disjunction (taken ++ rest)
  rw [h] at settles
  generalize whole : taken ++ rest = ts at settles
  cases settles with
  | ok read =>
    rw [List.append_cancel_right whole]
    exact read

theorem disjunction_error {cause : Cause}
    (h : disjunction (levelBelow n) ts = .error ⟨cause, rest⟩) (hc : cause ≠ .tooDeep) :
    ∃ taken, ts = taken ++ rest ∧ Completable (disjunction (levelBelow n)) taken ∧
      ∀ n', n ≤ n' → ∀ rest', rest'.head? = rest.head? →
        disjunction (levelBelow n') (taken ++ rest') = .error ⟨cause, rest'⟩ := by
  have settles (n' : Nat) (le : n ≤ n') :
      Settles (disjunction (levelBelow n')) (.error ⟨cause, rest⟩) ts :=
    h ▸ (depthSettles_of_le le).disjunction ts
  cases settles n le_rfl with
  | tooDeep => exact absurd rfl hc
  | @error taken _ _ completable =>
    refine ⟨taken, rfl, completable, fun n' le => ?_⟩
    have deeper := settles n' le
    generalize whole : taken ++ rest = ts at deeper
    cases deeper with
    | tooDeep => exact absurd rfl hc
    | error _ refused =>
      rw [List.append_cancel_right whole]
      exact refused

end Disjunctions

/-- The tokens are a filter by the grammar, however deeply they nest. -/
def IsFilter (ts : List Token) : Prop := ∃ k e levels, Derives (.disjunction k) ts e levels

/-- A filter is read by readers with enough levels below them. -/
theorem IsFilter.exists_depth (h : IsFilter ts) (least : Nat) :
    ∃ depth e, least ≤ depth ∧ disjunction (levelBelow depth) ts = .ok (e, []) := by
  obtain ⟨k, e, levels, derives⟩ := h
  have le : ∀ l ∈ levels, l ≤ least + levels.sum := fun l hl =>
    Nat.le_add_left_of_le (List.le_sum_of_mem hl)
  have read := disjunction_eq_ok_nil_iff.2 ⟨k, levels, derives, le⟩
  rw [Level.ofDepth_eq] at read
  exact ⟨least + levels.sum, e, Nat.le_add_right _ _, read⟩

/-- Where the tokens stand and how they are written does not count. -/
theorem IsFilter.of_kinds {us : List Token} (h : IsFilter ts)
    (same : us.map Token.kind = ts.map Token.kind) : IsFilter us := by
  obtain ⟨k, e, levels, derives⟩ := h
  exact ⟨k, e, levels, derives.of_kinds same⟩

theorem exprOf_of_disjunction {e : Expr} (h : disjunction (levelBelow maxDepth) ts = .ok (e, [])) :
    exprOf ts = .ok e := by
  rw [exprOf, Level.ofDepth_eq]
  exact bind_eq_ok_iff.2 ⟨_, h, rfl⟩

/-- Tokens are refused by the readers, or because some of them are left. -/
theorem exprOf_eq_error {failure : Failure} (h : exprOf ts = .error failure) :
    disjunction (levelBelow maxDepth) ts = .error failure ∨
      ∃ e rest, disjunction (levelBelow maxDepth) ts = .ok (e, rest) ∧ rest ≠ [] ∧
        failure = ⟨.expected .endOfFilter, rest⟩ := by
  rw [exprOf, Level.ofDepth_eq] at h
  rcases bind_eq_error_iff.1 h with refused | ⟨⟨e, rest⟩, read, h⟩
  · exact .inl refused
  · cases rest with
    | nil => cases h
    | cons t rest =>
      cases h
      exact .inr ⟨e, t :: rest, read, List.cons_ne_nil t rest, rfl⟩

/-- Where tokens are refused, those before are the beginning of an accepted filter, and no filter begins
with them and the token that stands there. -/
theorem exprOf_stops {failure : Failure} (h : exprOf ts = .error failure)
    (hc : failure.cause ≠ .tooDeep) :
    ∃ before, ts = before ++ failure.rest ∧ (∃ after e, exprOf (before ++ after) = .ok e) ∧
      ∀ after, after.head? = failure.rest.head? → ¬IsFilter (before ++ after) := by
  rcases exprOf_eq_error h with refused | ⟨e, rest, read, left, rfl⟩
  · obtain ⟨before, rfl, ⟨more, e, completed⟩, refused⟩ := disjunction_error refused hc
    refine ⟨before, rfl, ⟨more ++ [], e, ?_⟩, fun after head filter => ?_⟩
    · exact exprOf_of_disjunction (completed [] (ends_nil 3)).2
    · obtain ⟨depth, e, le, whole⟩ := filter.exists_depth maxDepth
      rw [refused depth le after head] at whole
      cases whole
  · obtain ⟨before, rfl, reads⟩ := disjunction_ok read
    refine ⟨before, rfl, ⟨[], e, ?_⟩, fun after head filter => ?_⟩
    · exact exprOf_of_disjunction (reads maxDepth le_rfl [] (.inr (ends_nil 3)))
    · obtain ⟨depth, e, le, whole⟩ := filter.exists_depth maxDepth
      rw [reads depth le after (.inl head)] at whole
      cases whole
      exact left (List.head?_eq_none_iff.1 head.symm)

/-- Tokens of the same kinds that begin with a given one of the kind of the first. -/
theorem exists_of_kind_head {after : List Token}
    (h : after.head?.map Token.kind = rest.head?.map Token.kind) :
    ∃ after' : List Token,
      after'.head? = rest.head? ∧ after'.map Token.kind = after.map Token.kind := by
  cases rest with
  | nil =>
    obtain rfl : after = [] := by simpa using h
    exact ⟨[], rfl, rfl⟩
  | cons t rest =>
    cases after with
    | nil => cases h
    | cons u after =>
      obtain kind : u.kind = t.kind := Option.some.inj h
      exact ⟨t :: after, rfl, by rw [List.map_cons, List.map_cons, kind]⟩

/-- The tokens of a filter and its end are its places. -/
theorem locate_mem_places {filter : String} {before : List Token} (failure : Failure) :
    (places filter (before ++ failure.rest))[before.length]?
      = some ((failure.locate (Text.byteLength filter.toList)).position,
          (failure.locate (Text.byteLength filter.toList)).text) := by
  obtain ⟨cause, rest⟩ := failure
  cases rest <;> simp [places, Failure.locate]

/-- The place of a failure is the earliest where the tokens can be known to be no filter. They are cut
there: the rest begins with the token at the place, or is empty at the end of the filter. -/
structure Earliest (filter : String) (ts before rest : List Token) (failure : SyntaxError) : Prop where
  cut : ts = before ++ rest
  /-- The place of the failure is that of the first token of the rest, or the end. -/
  place : (places filter ts)[before.length]? = some (failure.position, failure.text)
  /-- The tokens before are the beginning of an accepted filter. -/
  beginning : ∃ after e, exprOf (before ++ after) = .ok e
  /-- No filter, however deeply it nests, begins with tokens of their kinds and of the kind of the token
  at the place. At the end they are none themselves. -/
  excluded : ∀ before' after : List Token, before'.map Token.kind = before.map Token.kind →
    after.head?.map Token.kind = rest.head?.map Token.kind → ¬IsFilter (before' ++ after)

/-- A filter whose tokens can be read and that is refused, other than for its levels, is refused at the
earliest place. -/
theorem parse_stops {filter : String} {ts : List Token} {failure : SyntaxError}
    (cut : tokens filter = .ok ts) (h : Expr.parse filter = .error failure)
    (hc : failure.cause ≠ .tooDeep) : ∃ before rest, Earliest filter ts before rest failure := by
  rw [Expr.parse, cut] at h
  have read : (exprOf ts).mapError (·.locate (Text.byteLength filter.toList)) = .error failure := h
  cases stopped : exprOf ts with
  | ok e =>
    rw [stopped] at read
    cases read
  | error stop =>
    rw [stopped] at read
    cases read
    have cause : stop.cause ≠ .tooDeep := by
      rcases stop with ⟨cause, _ | ⟨t, rest⟩⟩ <;> exact hc
    obtain ⟨before, rfl, completes, refused⟩ := exprOf_stops stopped cause
    refine ⟨before, stop.rest, rfl, locate_mem_places stop, completes, ?_⟩
    intro before' after kinds head filter
    -- The first token of those after is put in the place of one that may stand elsewhere.
    obtain ⟨after, first, same⟩ := exists_of_kind_head head
    refine refused after first (filter.of_kinds ?_)
    rw [List.map_append, List.map_append, kinds, same]

/-- A call whose arguments have no comma between them, after a character of two bytes. -/
def missingComma : String := "f(\"é\" !a)"

theorem parse_stops_missingComma :
    ∃ ts before rest, tokens missingComma = .ok ts ∧
      Expr.parse missingComma = .error ⟨.expected .commaOrClosingParen, 7, "!"⟩ ∧
      Earliest missingComma ts before rest ⟨.expected .commaOrClosingParen, 7, "!"⟩ := by
  have cut : tokens missingComma = .ok
      [⟨.word "f", 0, "f"⟩, ⟨.symbol .leftParen, 1, "("⟩, ⟨.text "é", 2, "\"é\""⟩,
        ⟨.symbol .not, 7, "!"⟩, ⟨.word "a", 8, "a"⟩, ⟨.symbol .rightParen, 9, ")"⟩] :=
    toOption_eq_some_iff.1 (by decide +kernel)
  have refused : Expr.parse missingComma = .error ⟨.expected .commaOrClosingParen, 7, "!"⟩ := by
    rw [Expr.parse, cut]
    rfl
  obtain ⟨before, rest, earliest⟩ := parse_stops cut refused nofun
  exact ⟨_, before, rest, cut, refused, earliest⟩

end Listings.Filter
