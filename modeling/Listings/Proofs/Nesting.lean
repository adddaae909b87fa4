import Listings.Proofs.Parsing
import Mathlib.Tactic.Ring

/-!
# Nesting

How many negations, calls and logical operators stand in one another in an accepted filter. The
levels of a filter are counted where it is read, and a chain gives its levels back at its end,
although what follows its first operand stands above it in the expression. So the expression may nest
more deeply than the greatest level.

* `Expr.nesting`: the depth of an expression.
* `nesting_le_of_derives`: a bound for every part of a filter.
* `exists_nesting_eq`: the bound is reached.
* `parse_nesting_le`: the depth of an accepted filter.
-/

namespace Listings

mutual

/-- The greatest number of negations, calls and logical operators on a way from the root of an
expression to a leaf. -/
def Expr.nesting : Expr → Nat
  | .binary op left right => max left.nesting right.nesting + op.isLogical.toNat
  | .not inner => inner.nesting + 1
  | .call _ args => Expr.nestings args + 1
  | .name _ | .literal _ => 0

/-- The greatest such number in several expressions. -/
def Expr.nestings : List Expr → Nat
  | [] => 0
  | e :: es => max e.nesting (nestings es)

end

namespace Filter

/-! ## What the levels allow -/

/-- The depth of what a part stands for. -/
def Part.nesting : (part : Part) → part.Meaning → Nat
  | .arguments, es => Expr.nestings es
  | .primary, e | .unary, e | .comparison, e | .conjunction _, e | .disjunction _, e => e.nesting

/-- The greatest depth of a part whose levels do not exceed a limit. -/
def Part.nestingLimit (limit : Nat) : Part → Nat
  | primary | unary | comparison => limit * limit
  | conjunction k => limit * limit + k
  | disjunction k => limit * limit + limit + k
  | arguments => limit * (limit + 2)

/-- The number of the operators of a chain. -/
def Part.operators : Part → Nat
  | conjunction k | disjunction k => k
  | primary | unary | comparison | arguments => 0

/-- A chain has no more operators than there are levels. -/
theorem Derives.operators_le {part : Part} {ts : List Token} {m : part.Meaning}
    {levels : List Nat} (h : Derives part ts m levels) {limit : Nat}
    (hl : ∀ l ∈ levels, l ≤ limit) : part.operators ≤ limit := by
  cases h with
  | and _ _ hr | or _ _ hr =>
    have rights := (List.forall_mem_cons.1 (List.forall_mem_append.1 hl).2).2
    exact (hr.le_limit _ rights).1
  | _ => exact Nat.zero_le _

/-- What opens levels leaves the others to what stands on them. -/
theorem Derives.exists_limit {part : Part} {ts : List Token} {m : part.Meaning}
    {levels : List Nat} (h : Derives part ts m levels) (by_ : Nat) {limit : Nat}
    (hl : ∀ l ∈ deeper by_ levels, l ≤ limit) :
    ∃ n, limit = n + by_ ∧ ∀ l ∈ levels, l ≤ n := by
  obtain ⟨opens, inner⟩ := h.le_limit by_ hl
  exact ⟨limit - by_, by omega, inner⟩

private theorem mul_add_two (n : Nat) : n * (n + 2) = n * n + n + n := by ring

private theorem succ_mul_succ (n : Nat) : (n + 1) * (n + 1) = n * (n + 2) + 1 := by ring

/-- The depth of a part is within its bound. -/
theorem nesting_le_of_derives {part : Part} {ts : List Token} {m : part.Meaning}
    {levels : List Nat} (h : Derives part ts m levels) (limit : Nat)
    (hl : ∀ l ∈ levels, l ≤ limit) : part.nesting m ≤ part.nestingLimit limit := by
  -- A chain adds all of its operators to its first operand, for which no level was taken yet; that
  -- is where the square comes from.
  induction h generalizing limit with
  | text | number | null | name => exact Nat.zero_le _
  | @group _ _ k _ _ _ ht h hu ih =>
    obtain ⟨n, rfl, inner⟩ := h.exists_limit 1 fun l hmem => hl l (by simp [hmem])
    have operators : k ≤ n := h.operators_le inner
    have body := ih n inner
    simp only [Part.nesting, Part.nestingLimit] at body ⊢
    rw [succ_mul_succ, mul_add_two]
    omega
  | callEmpty hf hw ht hu =>
    have opens : 1 ≤ limit := hl 1 (by simp)
    exact Nat.mul_le_mul opens opens
  | call hf hw ht h hu ih =>
    obtain ⟨n, rfl, inner⟩ := h.exists_limit 1 fun l hmem => hl l (by simp [hmem])
    have args := ih n inner
    simp only [Part.nesting, Part.nestingLimit, Expr.nesting] at args ⊢
    rw [succ_mul_succ]
    omega
  | primary h ih | unary h ih | comparison h ih => exact ih limit hl
  | not ht h ih =>
    obtain ⟨n, rfl, inner⟩ := h.exists_limit 1 fun l hmem => hl l (by simp [hmem])
    have body := ih n inner
    simp only [Part.nesting, Part.nestingLimit, Expr.nesting] at body ⊢
    rw [succ_mul_succ, mul_add_two]
    omega
  | compare hl' ht hr ihl ihr =>
    obtain ⟨lel, ler⟩ := List.forall_mem_append.1 hl
    exact Nat.max_le.2 ⟨ihl limit lel, ihr limit (List.forall_mem_cons.1 ler).2⟩
  | @and _ k _ _ _ _ _ _ hl' ht hr ihl ihr =>
    obtain ⟨lel, ler⟩ := List.forall_mem_append.1 hl
    obtain ⟨n, rfl, inner⟩ := hr.exists_limit (k + 1) (List.forall_mem_cons.1 ler).2
    have first := ihl _ lel
    have operand := ihr n inner
    have smaller := Nat.mul_self_le_mul_self (Nat.le_add_right n (k + 1))
    simp only [Part.nesting, Part.nestingLimit, Expr.nesting, Operator.isLogical,
      Bool.toNat_true] at first operand ⊢
    omega
  | @conjunction k _ _ _ h ih =>
    have operators : k ≤ limit := h.operators_le hl
    have body := ih limit hl
    simp only [Part.nesting, Part.nestingLimit] at body ⊢
    omega
  | @or _ k j _ _ _ _ _ _ hl' ht hr ihl ihr =>
    obtain ⟨lel, ler⟩ := List.forall_mem_append.1 hl
    obtain ⟨n, rfl, inner⟩ := hr.exists_limit (k + 1) (List.forall_mem_cons.1 ler).2
    have operators : j ≤ n := hr.operators_le inner
    have first := ihl _ lel
    have operand := ihr n inner
    have smaller := Nat.mul_self_le_mul_self (Nat.le_add_right n (k + 1))
    simp only [Part.nesting, Part.nestingLimit, Expr.nesting, Operator.isLogical,
      Bool.toNat_true] at first operand ⊢
    omega
  | @argument k _ _ _ h ih =>
    have operators : k ≤ limit := h.operators_le hl
    have body := ih limit hl
    simp only [Part.nesting, Part.nestingLimit, Expr.nestings] at body ⊢
    rw [mul_add_two]
    omega
  | @arguments _ k _ _ _ _ _ _ hf ht h ihf ih =>
    obtain ⟨lef, le⟩ := List.forall_mem_append.1 hl
    have operators : k ≤ limit := hf.operators_le lef
    have first := ihf limit lef
    have others := ih limit (List.forall_mem_cons.1 le).2
    simp only [Part.nesting, Part.nestingLimit, Expr.nestings] at first others ⊢
    rw [mul_add_two] at others ⊢
    omega

/-- The depth of an expression that is read from tokens. -/
theorem nesting_le_of_exprOf {ts : List Token} {e : Expr} (h : exprOf ts = .ok e) :
    e.nesting ≤ maxDepth * (maxDepth + 2) := by
  obtain ⟨k, levels, derives, le⟩ := exprOf_eq_ok_iff_within.1 h
  have operators : k ≤ maxDepth := derives.operators_le le
  have bound := nesting_le_of_derives derives maxDepth le
  simp only [Part.nesting, Part.nestingLimit] at bound
  rw [mul_add_two]
  omega

/-! ## What the levels do not prevent -/

/-- A token for a symbol. Neither its place nor its text matters to the grammar. -/
def symbolToken (s : Symbol) : Token := ⟨.symbol s, 0, ""⟩

/-- A token for a word, likewise. -/
def wordToken (w : String) : Token := ⟨.word w, 0, ""⟩

theorem within_word (limit : Nat) : Within limit .primary [wordToken "a"] (.name "a") :=
  .token (.name rfl (by decide))

/-- A comparison can be put under as many `&&` as there are levels, whatever levels it needs itself. -/
theorem exists_conjunction {limit k : Nat} {ts : List Token} {e : Expr}
    (h : Within limit .comparison ts e) (hk : k ≤ limit) :
    ∃ ts' e', Within limit (.conjunction k) ts' e' ∧ e'.nesting = e.nesting + k := by
  induction k with
  | zero => exact ⟨ts, e, h.comparison, rfl⟩
  | succ k ih =>
    obtain ⟨ts', e', chain, nesting⟩ := ih (Nat.le_of_succ_le hk)
    obtain ⟨left, rfl⟩ : ∃ left, limit = left + (k + 1) := ⟨limit - (k + 1), by omega⟩
    have operand := (within_word left).primary.unary
    refine ⟨_, _, chain.and (t := symbolToken .and) rfl operand, ?_⟩
    simp only [Expr.nesting, nesting, Operator.isLogical, Bool.toNat_true]
    omega

/-- A conjunction can be put under as many `||` as there are levels, whatever levels it needs
itself. -/
theorem exists_disjunction {limit j k : Nat} {ts : List Token} {e : Expr}
    (h : Within limit (.conjunction j) ts e) (hk : k ≤ limit) :
    ∃ ts' e', Within limit (.disjunction k) ts' e' ∧ e'.nesting = e.nesting + k := by
  induction k with
  | zero => exact ⟨ts, e, h.conjunction, rfl⟩
  | succ k ih =>
    obtain ⟨ts', e', chain, nesting⟩ := ih (Nat.le_of_succ_le hk)
    obtain ⟨left, rfl⟩ : ∃ left, limit = left + (k + 1) := ⟨limit - (k + 1), by omega⟩
    have operand := (within_word left).primary.unary.comparison
    refine ⟨_, _, chain.or (t := symbolToken .or) rfl operand, ?_⟩
    simp only [Expr.nesting, nesting, Operator.isLogical, Bool.toNat_true]
    omega

/-- With any number of levels there are tokens that nest as deeply as the bound allows: a call on every
level, under all the operators that the level has left. -/
theorem exists_nesting_eq (limit : Nat) :
    ∃ ts e k, Within limit (.disjunction k) ts e ∧ e.nesting = limit * (limit + 2) := by
  induction limit with
  | zero =>
    exact ⟨_, _, 0, (within_word 0).primary.unary.comparison.conjunction, rfl⟩
  | succ limit ih =>
    obtain ⟨ts, e, k, inner, nesting⟩ := ih
    have call := inner.argument.call (f := wordToken "f") (t := symbolToken .leftParen)
      (u := symbolToken .rightParen) rfl (by decide) rfl rfl
    obtain ⟨_, _, conjunction, hc⟩ := exists_conjunction call.primary.unary (Nat.le_refl _)
    obtain ⟨_, _, disjunction, hd⟩ := exists_disjunction conjunction (Nat.le_refl _)
    refine ⟨_, _, _, disjunction, ?_⟩
    simp only [hd, hc, Expr.nesting, Expr.nestings, nesting, Nat.max_zero]
    ring

end Filter

open Listings.Filter

/-- An accepted filter does not nest more deeply than all levels and all operators of the chains on
them allow. -/
theorem parse_nesting_le {filter : String} {e : Expr} (h : Expr.parse filter = .ok e) :
    e.nesting ≤ maxDepth * (maxDepth + 2) := by
  obtain ⟨ts, -, h⟩ := bind_eq_ok_iff.1 h
  cases read : exprOf ts with
  | error failure =>
    rw [read] at h
    cases h
  | ok e' =>
    rw [read] at h
    cases h
    exact nesting_le_of_exprOf read

/-- The filter `!!…!a && b` with as many `!` as there are levels. -/
def negatedConjunct : String :=
  .ofList (List.replicate maxDepth '!' ++ ['a', ' ', '&', '&', ' ', 'b'])

/-- Its negations and its conjunction stand in one another. -/
theorem exists_parse_negatedConjunct :
    ∃ e, Expr.parse negatedConjunct = .ok e ∧ e.nesting = maxDepth + 1 := by
  have nesting : (Expr.parse negatedConjunct).toOption.map Expr.nesting = some (maxDepth + 1) := by
    decide +kernel
  cases read : Expr.parse negatedConjunct with
  | error failure =>
    rw [read] at nesting
    cases nesting
  | ok e =>
    rw [read] at nesting
    exact ⟨e, rfl, Option.some.inj nesting⟩

theorem parse_nesting_le_negatedConjunct :
    ∃ e, Expr.parse negatedConjunct = .ok e ∧ e.nesting ≤ maxDepth * (maxDepth + 2) := by
  obtain ⟨e, read, -⟩ := exists_parse_negatedConjunct
  exact ⟨e, read, parse_nesting_le read⟩

/-- A filter is accepted whose expression nests more deeply than a filter may have levels: the levels of
the `!` are given back before the `&&` is read, which stands above all of them. -/
theorem exists_maxDepth_lt_nesting :
    ∃ filter e, Expr.parse filter = .ok e ∧ maxDepth < e.nesting := by
  obtain ⟨e, read, nesting⟩ := exists_parse_negatedConjunct
  exact ⟨negatedConjunct, e, read, by omega⟩

end Listings
