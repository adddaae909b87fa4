import Listings.Filter.Grammar
import Listings.Proofs.Outcome

/-!
# What the first token decides

Every reader of filters looks at the first token and goes on behind it, or it leaves it. Here is what it
does in each case, as equations.

* `head_cases`, `comparator_cases`: whether a symbol stands first.
* `primary_leftParen`, `unary_not_eq` and others like them: the token is taken.
* `unary_ne`, `comparisonFrom_ne` and others like them: it is left.
* `Chained`: both for the rest of a chain, whatever its symbol is.
-/

namespace Listings.Filter

variable {t u : Token} {s : Symbol} {c : Comparator} {ts rest : List Token}

/-! ## Tokens at the head -/

theorem takeSymbol?_eq_some_iff :
    takeSymbol? ts = some (s, rest) ↔ ∃ t, t.kind = .symbol s ∧ ts = t :: rest := by
  constructor
  · intro h
    unfold takeSymbol? at h
    split at h
    · cases h
      exact ⟨_, rfl, rfl⟩
    · cases h
  · rintro ⟨⟨kind, offset, text⟩, ht, rfl⟩
    cases ht
    rfl

theorem takeSymbol?_cons (ht : t.kind = .symbol s) (rest : List Token) :
    takeSymbol? (t :: rest) = some (s, rest) :=
  takeSymbol?_eq_some_iff.2 ⟨t, ht, rfl⟩

theorem takeSymbol?_ne_some (h : ∀ t ∈ ts.head?, t.kind ≠ .symbol s) :
    takeSymbol? ts ≠ some (s, rest) := by
  intro found
  obtain ⟨t, ht, rfl⟩ := takeSymbol?_eq_some_iff.1 found
  exact h t rfl ht

theorem head_ne (ht : t.kind ≠ .symbol s) (rest : List Token) :
    ∀ u ∈ (t :: rest).head?, u.kind ≠ .symbol s := by
  rintro _ ⟨⟩
  exact ht

/-- A symbol stands at the head of the tokens, or it does not. -/
theorem head_cases (s : Symbol) (ts : List Token) :
    (∃ t rest, t.kind = .symbol s ∧ ts = t :: rest) ∨ ∀ t ∈ ts.head?, t.kind ≠ .symbol s := by
  cases ts with
  | nil => exact .inr nofun
  | cons t ts =>
    by_cases ht : t.kind = .symbol s
    · exact .inl ⟨t, ts, ht, rfl⟩
    · exact .inr (head_ne ht ts)

theorem takeComparator?_eq_some_iff :
    takeComparator? ts = some (c, rest) ↔ ∃ t, t.kind = .symbol (.compare c) ∧ ts = t :: rest := by
  rw [← takeSymbol?_eq_some_iff]
  unfold takeComparator?
  split
  · next c' rest' found =>
    rw [found]
    simp
  · next other =>
    refine ⟨nofun, fun found => absurd found (other c rest)⟩

/-- A comparator stands at the head of the tokens, or none does. -/
theorem comparator_cases (ts : List Token) :
    (∃ c t rest, t.kind = .symbol (.compare c) ∧ ts = t :: rest) ∨
      ∀ c, ∀ t ∈ ts.head?, t.kind ≠ .symbol (.compare c) := by
  by_cases h : ∃ c, ∃ t ∈ ts.head?, t.kind = .symbol (.compare c)
  · obtain ⟨c, t, first, ht⟩ := h
    obtain ⟨rest, rfl⟩ := List.head?_eq_some_iff.1 first
    exact .inl ⟨c, t, rest, ht, rfl⟩
  · exact .inr fun c t first ht => h ⟨c, t, first, ht⟩

theorem takeComparator?_cons (ht : t.kind = .symbol (.compare c)) (rest : List Token) :
    takeComparator? (t :: rest) = some (c, rest) :=
  takeComparator?_eq_some_iff.2 ⟨t, ht, rfl⟩

theorem takeComparator?_ne (h : ∀ c, ∀ t ∈ ts.head?, t.kind ≠ .symbol (.compare c)) :
    takeComparator? ts = none := by
  cases found : takeComparator? ts with
  | none => rfl
  | some p =>
    obtain ⟨t, ht, rfl⟩ := takeComparator?_eq_some_iff.1 found
    exact absurd ht (h _ t rfl)

theorem expect_eq_ok_iff {what : Expectation} :
    expect s what ts = .ok rest ↔ ∃ t, t.kind = .symbol s ∧ ts = t :: rest := by
  rw [← takeSymbol?_eq_some_iff]
  unfold expect
  split
  · next s' rest' found =>
    rw [found]
    split
    · next same =>
      subst same
      simp
    · next other =>
      refine ⟨nofun, fun h => absurd ?_ other⟩
      cases h
      rfl
  · next none =>
    rw [none]
    exact ⟨nofun, nofun⟩

theorem expect_closing (hu : u.kind = .symbol .rightParen) (what : Expectation) (rest : List Token) :
    expect .rightParen what (u :: rest) = .ok rest :=
  expect_eq_ok_iff.2 ⟨u, hu, rfl⟩

theorem expect_ne (h : ∀ t ∈ ts.head?, t.kind ≠ .symbol s) (what : Expectation) :
    expect s what ts = .error ⟨.expected what, ts⟩ := by
  unfold expect
  split
  · next s' rest found =>
    split
    · next same => exact absurd (same ▸ found) (takeSymbol?_ne_some h)
    · rfl
  · rfl

theorem descend_eq_ok_iff {below : Option Level} {level : Level} :
    descend below rest = .ok level ↔ below = some level := by
  cases below with
  | none => exact ⟨nofun, nofun⟩
  | some l => simp [descend]

/-! ## Parts that open with a token -/

/-- What stands in parentheses, and the closing one. -/
def group (level : Level) : Reads Expr := fun ts => level.disjunction ts >>= fun p =>
  expect .rightParen .closingParen p.2 >>= fun rest => .ok (p.1, rest)

/-- The arguments of a call, and the closing parenthesis. -/
def callOf (w : String) (level : Level) : Reads Expr := fun ts =>
  arguments level.disjunction ts >>= fun p => .ok (.call w p.1, p.2)

/-- What a `!` stands before. -/
def negated (level : Level) : Reads Expr := fun ts =>
  level.unary ts >>= fun p => .ok (.not p.1, p.2)

/-- A comparison whose operands are known: no comparator follows. -/
def compared (c : Comparator) (left right : Expr) : Reads Expr := fun ts =>
  match takeComparator? ts with
  | none => .ok (.binary (.compare c) left right, ts)
  | some _ => .error ⟨.chainedComparison, ts⟩

/-- The rest of a comparison whose first operand is known. -/
def comparisonFrom (below : Option Level) (left : Expr) : Reads Expr := fun ts =>
  match takeComparator? ts with
  | none => .ok (left, ts)
  | some (c, rest) => unary below rest >>= fun p => compared c left p.1 p.2

theorem primary_leftParen (ht : t.kind = .symbol .leftParen) (below : Option Level)
    (rest : List Token) :
    primary below (t :: rest) = descend below rest >>= fun level => group level rest := by
  simp only [primary, ht]
  rfl

theorem primary_other {s : Symbol} (ht : t.kind = .symbol s) (hs : s ≠ .leftParen)
    (below : Option Level) (rest : List Token) :
    primary below (t :: rest) = .error ⟨.unexpected, t :: rest⟩ := by
  simp only [primary, ht]

section Words

variable {w : String} (ht : t.kind = .word w) (hw : w ≠ nullWord)
include ht hw

theorem primary_call_eq (hu : u.kind = .symbol .leftParen) (below : Option Level)
    (rest : List Token) :
    primary below (t :: u :: rest) = descend below rest >>= fun level => callOf w level rest := by
  simp only [primary, ht, if_neg hw, takeSymbol?_cons hu]
  rfl

theorem primary_name_eq (h : ∀ u ∈ rest.head?, u.kind ≠ .symbol .leftParen)
    (below : Option Level) : primary below (t :: rest) = .ok (.name w, rest) := by
  simp only [primary, ht, if_neg hw]
  split
  · next found => exact absurd found (takeSymbol?_ne_some h)
  · rfl

end Words

theorem unary_not_eq (ht : t.kind = .symbol .not) (below : Option Level) (rest : List Token) :
    unary below (t :: rest) = descend below rest >>= fun level => negated level rest := by
  rw [unary, takeSymbol?_cons ht]
  rfl

theorem unary_ne (h : ∀ t ∈ ts.head?, t.kind ≠ .symbol .not) (below : Option Level) :
    unary below ts = primary below ts := by
  unfold unary
  split
  · next found => exact absurd found (takeSymbol?_ne_some h)
  · rfl

theorem compared_ne (h : ∀ c, ∀ t ∈ ts.head?, t.kind ≠ .symbol (.compare c)) (c : Comparator)
    (left right : Expr) : compared c left right ts = .ok (.binary (.compare c) left right, ts) := by
  rw [compared, takeComparator?_ne h]

theorem compared_compare (ht : t.kind = .symbol (.compare c)) (d : Comparator) (left right : Expr)
    (rest : List Token) :
    compared d left right (t :: rest) = .error ⟨.chainedComparison, t :: rest⟩ := by
  rw [compared, takeComparator?_cons ht]

theorem comparisonFrom_ne (h : ∀ c, ∀ t ∈ ts.head?, t.kind ≠ .symbol (.compare c))
    (below : Option Level) (left : Expr) : comparisonFrom below left ts = .ok (left, ts) := by
  rw [comparisonFrom, takeComparator?_ne h]

theorem comparisonFrom_compare (ht : t.kind = .symbol (.compare c)) (below : Option Level)
    (left : Expr) (rest : List Token) :
    comparisonFrom below left (t :: rest) = unary below rest >>= fun p => compared c left p.1 p.2 := by
  rw [comparisonFrom, takeComparator?_cons ht]

/-! ## Chains -/

/-- What stands behind the symbol of a chain, to the end of the chain. -/
def further (op : Operator) (operandOf : Level → Reads Expr) (moreOf : Level → Expr → Reads Expr)
    (left : Expr) (level : Level) : Reads Expr := fun ts =>
  operandOf level ts >>= fun p => moreOf level (.binary op left p.1) p.2

/-- The rest of a chain: operands behind a symbol, each read one level further down. -/
structure Chained (s : Symbol) (op : Operator) (operandOf : Level → Reads Expr)
    (moreOf : Level → Expr → Reads Expr) : Prop where
  opens {t : Token} (ht : t.kind = .symbol s) (below : Option Level) (left : Expr)
    (rest : List Token) : moreOf (.over below) left (t :: rest)
      = descend below rest >>= fun level => further op operandOf moreOf left level rest
  stops {ts : List Token} (h : ∀ t ∈ ts.head?, t.kind ≠ .symbol s) (below : Option Level)
    (left : Expr) : moreOf (.over below) left ts = .ok (left, ts)

theorem chained_and : Chained .and .and Level.comparison Level.conjunctionFrom where
  opens ht below left rest := by
    show conjunctionFrom below left _ = _
    rw [conjunctionFrom, takeSymbol?_cons ht]
    rfl
  stops h below left := by
    show conjunctionFrom below left _ = _
    unfold conjunctionFrom
    split
    · next found => exact absurd found (takeSymbol?_ne_some h)
    · rfl

theorem chained_or : Chained .or .or Level.conjunction Level.disjunctionFrom where
  opens ht below left rest := by
    show disjunctionFrom below left _ = _
    rw [disjunctionFrom, takeSymbol?_cons ht]
    rfl
  stops h below left := by
    show disjunctionFrom below left _ = _
    unfold disjunctionFrom
    split
    · next found => exact absurd found (takeSymbol?_ne_some h)
    · rfl

/-! ## Arguments -/

section Arguments

variable {others : Reads (List Expr)}

theorem arguments_closing (hu : u.kind = .symbol .rightParen) (argument : Reads Expr) :
    arguments argument (u :: rest) = .ok ([], rest) := by
  rw [arguments, takeSymbol?_cons hu]

theorem arguments_ne (h : ∀ t ∈ ts.head?, t.kind ≠ .symbol .rightParen) (argument : Reads Expr) :
    arguments argument ts = argumentsFrom argument ts.length ts := by
  unfold arguments
  split
  · next found => exact absurd found (takeSymbol?_ne_some h)
  · rfl

/-- What follows an argument: a comma and the others, or the closing parenthesis. -/
def argumentsAfter (others : Reads (List Expr)) (first : Expr) : Reads (List Expr) := fun rest =>
  match takeSymbol? rest with
  | some (.comma, rest) => others rest >>= fun p => .ok (first :: p.1, p.2)
  | _ => expect .rightParen .commaOrClosingParen rest >>= fun rest => .ok ([first], rest)

theorem argumentsFrom_succ (argument : Reads Expr) (bound : Nat) (ts : List Token) :
    argumentsFrom argument (bound + 1) ts
      = argument ts >>= fun p => argumentsAfter (argumentsFrom argument bound) p.1 p.2 := rfl

theorem argumentsAfter_comma (ht : t.kind = .symbol .comma) (first : Expr) (rest : List Token) :
    argumentsAfter others first (t :: rest) = others rest >>= fun p => .ok (first :: p.1, p.2) := by
  rw [argumentsAfter, takeSymbol?_cons ht]

theorem argumentsAfter_ne (h : ∀ t ∈ rest.head?, t.kind ≠ .symbol .comma) (first : Expr) :
    argumentsAfter others first rest
      = expect .rightParen .commaOrClosingParen rest >>= fun rest => .ok ([first], rest) := by
  unfold argumentsAfter
  split
  · next found => exact absurd found (takeSymbol?_ne_some h)
  · rfl

end Arguments

end Listings.Filter
