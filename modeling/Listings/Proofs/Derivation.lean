import Listings.Filter.Grammar

/-!
# Derivations

Which tokens are a filter, by the grammar alone and without anything that reads them, and how deeply
they nest.

* `Derives`: the tokens are a part of a filter, with what it stands for and with the level of every
  token.
* `Derives.of_kinds`: where the tokens stand and how they are written does not count.
* `Within`: they are one whose levels do not exceed a limit.
-/

namespace Listings.Filter

/-- A part of a filter. A chain is taken with the number of its operators. -/
inductive Part where
  | primary
  | unary
  | comparison
  | conjunction (operators : Nat)
  | disjunction (operators : Nat)
  /-- The arguments of a call, at least one. -/
  | arguments

/-- What a part stands for. -/
@[reducible]
def Part.Meaning : Part → Type
  | arguments => List Expr
  | primary | unary | comparison | conjunction _ | disjunction _ => Expr

/-- Levels of tokens, when the tokens stand further down by a number. -/
def deeper (by_ : Nat) (levels : List Nat) : List Nat := levels.map (· + by_)

/-- The tokens are a part of a filter. Beside them stand their levels: the level of a token counts the
parentheses, the calls and the `!` that it stands in, and for every chain that it stands in the
operators of the chain before it. -/
inductive Derives : (part : Part) → List Token → part.Meaning → List Nat → Prop
  | text {t : Token} {s : String} (ht : t.kind = .text s) :
      Derives .primary [t] (.literal (.text s)) [0]
  | number {t : Token} {n : Number} (ht : t.kind = .number n) :
      Derives .primary [t] (.literal (.number n)) [0]
  | null {t : Token} (ht : t.kind = .word nullWord) : Derives .primary [t] (.literal .null) [0]
  | name {t : Token} {w : String} (ht : t.kind = .word w) (hw : w ≠ nullWord) :
      Derives .primary [t] (.name w) [0]
  | group {t u : Token} {k : Nat} {ts : List Token} {e : Expr} {levels : List Nat}
      (ht : t.kind = .symbol .leftParen) (h : Derives (.disjunction k) ts e levels)
      (hu : u.kind = .symbol .rightParen) :
      Derives .primary (t :: ts ++ [u]) e (0 :: deeper 1 levels ++ [1])
  | callEmpty {f t u : Token} {w : String} (hf : f.kind = .word w) (hw : w ≠ nullWord)
      (ht : t.kind = .symbol .leftParen) (hu : u.kind = .symbol .rightParen) :
      Derives .primary [f, t, u] (.call w []) [0, 0, 1]
  | call {f t u : Token} {w : String} {ts : List Token} {es : List Expr} {levels : List Nat}
      (hf : f.kind = .word w) (hw : w ≠ nullWord) (ht : t.kind = .symbol .leftParen)
      (h : Derives .arguments ts es levels) (hu : u.kind = .symbol .rightParen) :
      Derives .primary (f :: t :: ts ++ [u]) (.call w es) (0 :: 0 :: deeper 1 levels ++ [1])
  | primary {ts : List Token} {e : Expr} {levels : List Nat} (h : Derives .primary ts e levels) :
      Derives .unary ts e levels
  | not {t : Token} {ts : List Token} {e : Expr} {levels : List Nat} (ht : t.kind = .symbol .not)
      (h : Derives .unary ts e levels) :
      Derives .unary (t :: ts) (.not e) (0 :: deeper 1 levels)
  | unary {ts : List Token} {e : Expr} {levels : List Nat} (h : Derives .unary ts e levels) :
      Derives .comparison ts e levels
  | compare {t : Token} {c : Comparator} {ls rs : List Token} {left right : Expr}
      {lefts rights : List Nat} (hl : Derives .unary ls left lefts)
      (ht : t.kind = .symbol (.compare c)) (hr : Derives .unary rs right rights) :
      Derives .comparison (ls ++ t :: rs) (.binary (.compare c) left right) (lefts ++ 0 :: rights)
  | comparison {ts : List Token} {e : Expr} {levels : List Nat}
      (h : Derives .comparison ts e levels) : Derives (.conjunction 0) ts e levels
  | and {t : Token} {k : Nat} {ls rs : List Token} {left right : Expr} {lefts rights : List Nat}
      (hl : Derives (.conjunction k) ls left lefts) (ht : t.kind = .symbol .and)
      (hr : Derives .comparison rs right rights) :
      Derives (.conjunction (k + 1)) (ls ++ t :: rs) (.binary .and left right)
        (lefts ++ k :: deeper (k + 1) rights)
  | conjunction {k : Nat} {ts : List Token} {e : Expr} {levels : List Nat}
      (h : Derives (.conjunction k) ts e levels) : Derives (.disjunction 0) ts e levels
  | or {t : Token} {k j : Nat} {ls rs : List Token} {left right : Expr} {lefts rights : List Nat}
      (hl : Derives (.disjunction k) ls left lefts) (ht : t.kind = .symbol .or)
      (hr : Derives (.conjunction j) rs right rights) :
      Derives (.disjunction (k + 1)) (ls ++ t :: rs) (.binary .or left right)
        (lefts ++ k :: deeper (k + 1) rights)
  | argument {k : Nat} {ts : List Token} {e : Expr} {levels : List Nat}
      (h : Derives (.disjunction k) ts e levels) : Derives .arguments ts [e] levels
  | arguments {t : Token} {k : Nat} {fs ts : List Token} {e : Expr} {es : List Expr}
      {firsts levels : List Nat} (hf : Derives (.disjunction k) fs e firsts)
      (ht : t.kind = .symbol .comma) (h : Derives .arguments ts es levels) :
      Derives .arguments (fs ++ t :: ts) (e :: es) (firsts ++ 0 :: levels)

/-- A part begins with a token of its own, which stands in nothing that the part opens. -/
theorem Derives.exists_cons {part : Part} {ts : List Token} {m : part.Meaning} {levels : List Nat}
    (h : Derives part ts m levels) :
    ∃ t rest tail, ts = t :: rest ∧ levels = 0 :: tail ∧ t.kind ≠ .symbol .rightParen := by
  induction h with
  | text ht | number ht | null ht | name ht => exact ⟨_, _, _, rfl, rfl, by rw [ht]; nofun⟩
  | group ht => exact ⟨_, _, _, rfl, rfl, by rw [ht]; nofun⟩
  | callEmpty hf | call hf => exact ⟨_, _, _, rfl, rfl, by rw [hf]; nofun⟩
  | not ht => exact ⟨_, _, _, rfl, rfl, by rw [ht]; nofun⟩
  | primary _ ih | unary _ ih | comparison _ ih | conjunction _ ih | argument _ ih => exact ih
  | compare _ _ _ ih | and _ _ _ ih | or _ _ _ ih | arguments _ _ _ ih =>
    obtain ⟨t, rest, tail, rfl, rfl, ht⟩ := ih
    exact ⟨t, _, _, rfl, rfl, ht⟩

/-- A primary expression does not begin with a negation. -/
theorem Derives.exists_cons_primary {ts : List Token} {e : Expr} {levels : List Nat}
    (h : Derives .primary ts e levels) : ∃ t rest, ts = t :: rest ∧ t.kind ≠ .symbol .not := by
  cases h with
  | text ht | number ht | null ht | name ht | group ht => exact ⟨_, _, rfl, by rw [ht]; nofun⟩
  | callEmpty hf | call hf => exact ⟨_, _, rfl, by rw [hf]; nofun⟩

/-! ## Kinds of tokens -/

/-- The grammar sees nothing but the kinds of the tokens. -/
theorem Derives.of_kinds {part : Part} {ts us : List Token} {m : part.Meaning} {levels : List Nat}
    (h : Derives part ts m levels) (same : us.map Token.kind = ts.map Token.kind) :
    Derives part us m levels := by
  induction h generalizing us with
  | text ht =>
    obtain ⟨t, rfl, kind⟩ := List.map_eq_singleton_iff.1 same
    exact .text (kind.trans ht)
  | number ht =>
    obtain ⟨t, rfl, kind⟩ := List.map_eq_singleton_iff.1 same
    exact .number (kind.trans ht)
  | null ht =>
    obtain ⟨t, rfl, kind⟩ := List.map_eq_singleton_iff.1 same
    exact .null (kind.trans ht)
  | name ht hw =>
    obtain ⟨t, rfl, kind⟩ := List.map_eq_singleton_iff.1 same
    exact .name (kind.trans ht) hw
  | group ht h hu ih =>
    obtain ⟨front, last, rfl, first, end_⟩ := List.map_eq_append_iff.1 (same.trans List.map_append)
    obtain ⟨t, us, rfl, opening, inner⟩ := List.map_eq_cons_iff.1 first
    obtain ⟨u, rfl, closing⟩ := List.map_eq_singleton_iff.1 end_
    exact .group (opening.trans ht) (ih inner) (closing.trans hu)
  | callEmpty hf hw ht hu =>
    obtain ⟨f, others, rfl, name, rest⟩ := List.map_eq_cons_iff.1 same
    obtain ⟨t, last, rfl, opening, end_⟩ := List.map_eq_cons_iff.1 rest
    obtain ⟨u, rfl, closing⟩ := List.map_eq_singleton_iff.1 end_
    exact .callEmpty (name.trans hf) hw (opening.trans ht) (closing.trans hu)
  | call hf hw ht h hu ih =>
    obtain ⟨front, last, rfl, first, end_⟩ := List.map_eq_append_iff.1 (same.trans List.map_append)
    obtain ⟨f, others, rfl, name, rest⟩ := List.map_eq_cons_iff.1 first
    obtain ⟨t, us, rfl, opening, inner⟩ := List.map_eq_cons_iff.1 rest
    obtain ⟨u, rfl, closing⟩ := List.map_eq_singleton_iff.1 end_
    exact .call (name.trans hf) hw (opening.trans ht) (ih inner) (closing.trans hu)
  | primary h ih => exact .primary (ih same)
  | not ht h ih =>
    obtain ⟨t, us, rfl, kind, inner⟩ := List.map_eq_cons_iff.1 same
    exact .not (kind.trans ht) (ih inner)
  | unary h ih => exact .unary (ih same)
  | compare hl ht hr ihl ihr =>
    obtain ⟨ls, others, rfl, left, rest⟩ := List.map_eq_append_iff.1 (same.trans List.map_append)
    obtain ⟨t, rs, rfl, kind, right⟩ := List.map_eq_cons_iff.1 rest
    exact .compare (ihl left) (kind.trans ht) (ihr right)
  | comparison h ih => exact .comparison (ih same)
  | and hl ht hr ihl ihr =>
    obtain ⟨ls, others, rfl, left, rest⟩ := List.map_eq_append_iff.1 (same.trans List.map_append)
    obtain ⟨t, rs, rfl, kind, right⟩ := List.map_eq_cons_iff.1 rest
    exact .and (ihl left) (kind.trans ht) (ihr right)
  | conjunction h ih => exact .conjunction (ih same)
  | or hl ht hr ihl ihr =>
    obtain ⟨ls, others, rfl, left, rest⟩ := List.map_eq_append_iff.1 (same.trans List.map_append)
    obtain ⟨t, rs, rfl, kind, right⟩ := List.map_eq_cons_iff.1 rest
    exact .or (ihl left) (kind.trans ht) (ihr right)
  | argument h ih => exact .argument (ih same)
  | arguments hf ht h ihf ih =>
    obtain ⟨fs, others, rfl, first, rest⟩ := List.map_eq_append_iff.1 (same.trans List.map_append)
    obtain ⟨t, us, rfl, kind, more⟩ := List.map_eq_cons_iff.1 rest
    exact .arguments (ihf first) (kind.trans ht) (ih more)

/-! ## Levels within a limit -/

/-- The tokens are a part of a filter, and no level exceeds the limit. -/
def Within (limit : Nat) (part : Part) (ts : List Token) (m : part.Meaning) : Prop :=
  ∃ levels, Derives part ts m levels ∧ ∀ l ∈ levels, l ≤ limit

theorem deeper_le {limit : Nat} {levels : List Nat} (h : ∀ l ∈ levels, l ≤ limit) (by_ : Nat) :
    ∀ l ∈ deeper by_ levels, l ≤ limit + by_ := by
  intro l hmem
  obtain ⟨level, inside, rfl⟩ := List.mem_map.1 hmem
  exact Nat.add_le_add_right (h level inside) by_

/-- What opens a level has a level below it that it opens. -/
theorem Derives.le_limit {part : Part} {ts : List Token} {m : part.Meaning} {levels : List Nat}
    (h : Derives part ts m levels) (by_ : Nat) {limit : Nat}
    (hl : ∀ l ∈ deeper by_ levels, l ≤ limit) :
    by_ ≤ limit ∧ ∀ l ∈ levels, l ≤ limit - by_ := by
  have top := fun l hmem => hl (l + by_) (List.mem_map_of_mem hmem)
  obtain ⟨_, _, tail, rfl, rfl, -⟩ := h.exists_cons
  refine ⟨?_, fun l hmem => ?_⟩
  · have := top 0 List.mem_cons_self
    omega
  · have := top l hmem
    omega

namespace Within

variable {limit : Nat} {t u : Token} {ts rs : List Token} {e left right : Expr}

/-- A part that opens nothing and is one token. -/
theorem token {m : Part.primary.Meaning} (h : Derives .primary [t] m [0]) :
    Within limit .primary [t] m :=
  ⟨[0], h, by simp⟩

theorem group {k : Nat} (ht : t.kind = .symbol .leftParen) (h : Within limit (.disjunction k) ts e)
    (hu : u.kind = .symbol .rightParen) : Within (limit + 1) .primary (t :: ts ++ [u]) e := by
  obtain ⟨levels, derives, le⟩ := h
  refine ⟨_, .group ht derives hu, List.forall_mem_append.2 ⟨?_, by simp⟩⟩
  exact List.forall_mem_cons.2 ⟨Nat.zero_le _, deeper_le le 1⟩

theorem callEmpty {f : Token} {w : String} (hf : f.kind = .word w) (hw : w ≠ nullWord)
    (ht : t.kind = .symbol .leftParen) (hu : u.kind = .symbol .rightParen) :
    Within (limit + 1) .primary [f, t, u] (.call w []) :=
  ⟨_, .callEmpty hf hw ht hu, by simp⟩

theorem call {f : Token} {w : String} {es : List Expr} (hf : f.kind = .word w) (hw : w ≠ nullWord)
    (ht : t.kind = .symbol .leftParen) (h : Within limit .arguments ts es)
    (hu : u.kind = .symbol .rightParen) :
    Within (limit + 1) .primary (f :: t :: ts ++ [u]) (.call w es) := by
  obtain ⟨levels, derives, le⟩ := h
  refine ⟨_, .call hf hw ht derives hu, List.forall_mem_append.2 ⟨?_, by simp⟩⟩
  refine List.forall_mem_cons.2 ⟨Nat.zero_le _, ?_⟩
  exact List.forall_mem_cons.2 ⟨Nat.zero_le _, deeper_le le 1⟩

theorem primary (h : Within limit .primary ts e) : Within limit .unary ts e :=
  h.imp fun _ ⟨derives, le⟩ => ⟨.primary derives, le⟩

theorem not (ht : t.kind = .symbol .not) (h : Within limit .unary ts e) :
    Within (limit + 1) .unary (t :: ts) (.not e) := by
  obtain ⟨levels, derives, le⟩ := h
  exact ⟨_, .not ht derives, List.forall_mem_cons.2 ⟨Nat.zero_le _, deeper_le le 1⟩⟩

theorem unary (h : Within limit .unary ts e) : Within limit .comparison ts e :=
  h.imp fun _ ⟨derives, le⟩ => ⟨.unary derives, le⟩

theorem compare {c : Comparator} (hl : Within limit .unary ts left)
    (ht : t.kind = .symbol (.compare c)) (hr : Within limit .unary rs right) :
    Within limit .comparison (ts ++ t :: rs) (.binary (.compare c) left right) := by
  obtain ⟨lefts, derivesl, lel⟩ := hl
  obtain ⟨rights, derivesr, ler⟩ := hr
  refine ⟨_, .compare derivesl ht derivesr, List.forall_mem_append.2 ⟨lel, ?_⟩⟩
  exact List.forall_mem_cons.2 ⟨Nat.zero_le _, ler⟩

theorem comparison (h : Within limit .comparison ts e) : Within limit (.conjunction 0) ts e :=
  h.imp fun _ ⟨derives, le⟩ => ⟨.comparison derives, le⟩

/-- The levels of a chain and of a further operand, which stands below all of its operators. -/
theorem operand_le {k : Nat} {lefts rights : List Nat}
    (hl : ∀ l ∈ lefts, l ≤ limit + (k + 1)) (hr : ∀ l ∈ rights, l ≤ limit) :
    ∀ l ∈ lefts ++ k :: deeper (k + 1) rights, l ≤ limit + (k + 1) := by
  refine List.forall_mem_append.2 ⟨hl, List.forall_mem_cons.2 ⟨by omega, ?_⟩⟩
  exact deeper_le hr (k + 1)

theorem and {k : Nat} (hl : Within (limit + (k + 1)) (.conjunction k) ts left)
    (ht : t.kind = .symbol .and) (hr : Within limit .comparison rs right) :
    Within (limit + (k + 1)) (.conjunction (k + 1)) (ts ++ t :: rs) (.binary .and left right) := by
  obtain ⟨lefts, derivesl, lel⟩ := hl
  obtain ⟨rights, derivesr, ler⟩ := hr
  exact ⟨_, .and derivesl ht derivesr, operand_le lel ler⟩

theorem conjunction {k : Nat} (h : Within limit (.conjunction k) ts e) :
    Within limit (.disjunction 0) ts e :=
  h.imp fun _ ⟨derives, le⟩ => ⟨.conjunction derives, le⟩

theorem or {k j : Nat} (hl : Within (limit + (k + 1)) (.disjunction k) ts left)
    (ht : t.kind = .symbol .or) (hr : Within limit (.conjunction j) rs right) :
    Within (limit + (k + 1)) (.disjunction (k + 1)) (ts ++ t :: rs) (.binary .or left right) := by
  obtain ⟨lefts, derivesl, lel⟩ := hl
  obtain ⟨rights, derivesr, ler⟩ := hr
  exact ⟨_, .or derivesl ht derivesr, operand_le lel ler⟩

theorem argument {k : Nat} (h : Within limit (.disjunction k) ts e) :
    Within limit .arguments ts [e] :=
  h.imp fun _ ⟨derives, le⟩ => ⟨.argument derives, le⟩

theorem arguments {k : Nat} {es : List Expr} (hf : Within limit (.disjunction k) ts e)
    (ht : t.kind = .symbol .comma) (h : Within limit .arguments rs es) :
    Within limit .arguments (ts ++ t :: rs) (e :: es) := by
  obtain ⟨firsts, derivesf, lef⟩ := hf
  obtain ⟨levels, derives, le⟩ := h
  refine ⟨_, .arguments derivesf ht derives, List.forall_mem_append.2 ⟨lef, ?_⟩⟩
  exact List.forall_mem_cons.2 ⟨Nat.zero_le _, le⟩

end Within

end Listings.Filter
