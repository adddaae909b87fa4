import Listings.Proofs.Derivation
import Listings.Proofs.Heads
import Mathlib.Algebra.Order.BigOperators.Group.List
import Mathlib.Algebra.Order.Group.Nat
import Mathlib.Data.Set.Subsingleton

/-!
# Parsing

The readers of filters take exactly what the grammar derives.

* `Level.Sound`: what the readers of a level take is derived within the limit of the level.
* `Taken`: what the readers do with the tokens of a part and with what stands after them.
* `exprOf_eq_ok_iff`: the accepted tokens are those derived within the limit, each in one way.
-/

namespace Listings.Filter

/-! ## What is taken is derived -/

/-- What the readers of a level take is derived within a limit. The rest of a chain is taken after
operators that are behind it already. -/
structure Level.Sound (level : Level) (limit : Nat) : Prop where
  unary {ts rest : List Token} {e : Expr} (h : level.unary ts = .ok (e, rest)) :
    ∃ taken, ts = taken ++ rest ∧ Within limit .unary taken e
  comparison {ts rest : List Token} {e : Expr} (h : level.comparison ts = .ok (e, rest)) :
    ∃ taken, ts = taken ++ rest ∧ Within limit .comparison taken e
  conjunction {ts rest : List Token} {e : Expr} (h : level.conjunction ts = .ok (e, rest)) :
    ∃ taken, ts = taken ++ rest ∧ ∃ k, Within limit (.conjunction k) taken e
  disjunction {ts rest : List Token} {e : Expr} (h : level.disjunction ts = .ok (e, rest)) :
    ∃ taken, ts = taken ++ rest ∧ ∃ k, Within limit (.disjunction k) taken e
  conjunctionFrom {k : Nat} {before ts rest : List Token} {left e : Expr}
    (hl : Within (limit + k) (.conjunction k) before left)
    (h : level.conjunctionFrom left ts = .ok (e, rest)) :
    ∃ taken, ts = taken ++ rest ∧ ∃ k', Within (limit + k) (.conjunction k') (before ++ taken) e
  disjunctionFrom {k : Nat} {before ts rest : List Token} {left e : Expr}
    (hl : Within (limit + k) (.disjunction k) before left)
    (h : level.disjunctionFrom left ts = .ok (e, rest)) :
    ∃ taken, ts = taken ++ rest ∧ ∃ k', Within (limit + k) (.disjunction k') (before ++ taken) e

/-- The arguments up to the closing parenthesis are derived if each of them is. -/
theorem argumentsFrom_sound {argument : Reads Expr} {limit : Nat}
    (ha : ∀ {ts rest e}, argument ts = .ok (e, rest) →
      ∃ taken, ts = taken ++ rest ∧ ∃ k, Within limit (.disjunction k) taken e)
    {bound : Nat} {ts rest : List Token} {es : List Expr}
    (h : argumentsFrom argument bound ts = .ok (es, rest)) :
    ∃ taken u, u.kind = .symbol .rightParen ∧ ts = taken ++ u :: rest ∧
      Within limit .arguments taken es := by
  induction bound generalizing ts es with
  | zero => cases h
  | succ bound ih =>
    obtain ⟨⟨first, after⟩, hf, others⟩ := bind_eq_ok_iff.1 h
    obtain ⟨taken, rfl, k, within⟩ := ha hf
    dsimp only at others
    split at others
    · next comma =>
      obtain ⟨t, ht, rfl⟩ := takeSymbol?_eq_some_iff.1 comma
      obtain ⟨⟨others, after⟩, ho, h⟩ := bind_eq_ok_iff.1 others
      cases h
      obtain ⟨taken', u, hu, rfl, withins⟩ := ih ho
      exact ⟨taken ++ t :: taken', u, hu, by simp, within.arguments ht withins⟩
    · obtain ⟨after, hr, h⟩ := bind_eq_ok_iff.1 others
      cases h
      obtain ⟨u, hu, rfl⟩ := expect_eq_ok_iff.1 hr
      exact ⟨taken, u, hu, rfl, within.argument⟩

section

variable {below : Option Level} {limit : Nat}
  (hb : ∀ level, below = some level → ∃ n, limit = n + 1 ∧ level.Sound n)
include hb

theorem primary_sound {ts rest : List Token} {e : Expr} (h : primary below ts = .ok (e, rest)) :
    ∃ taken, ts = taken ++ rest ∧ Within limit .primary taken e := by
  cases ts with
  | nil => cases h
  | cons t ts =>
    simp only [primary] at h
    split at h
    · next kind =>
      cases h
      exact ⟨[t], rfl, .token (.text kind)⟩
    · next kind =>
      cases h
      exact ⟨[t], rfl, .token (.number kind)⟩
    · next w kind =>
      split at h
      · next null =>
        cases h
        exact ⟨[t], rfl, .token (.null (by rw [kind, null]))⟩
      · next notNull =>
        split at h
        · next opening =>
          obtain ⟨u, hu, rfl⟩ := takeSymbol?_eq_some_iff.1 opening
          obtain ⟨level, hd, h⟩ := bind_eq_ok_iff.1 h
          obtain ⟨n, rfl, sound⟩ := hb level (descend_eq_ok_iff.1 hd)
          obtain ⟨⟨args, after⟩, ha, h⟩ := bind_eq_ok_iff.1 h
          cases h
          unfold arguments at ha
          split at ha
          · next closing =>
            cases ha
            obtain ⟨v, hv, rfl⟩ := takeSymbol?_eq_some_iff.1 closing
            exact ⟨[t, u, v], rfl, .callEmpty kind notNull hu hv⟩
          · obtain ⟨taken, v, hv, rfl, within⟩ := argumentsFrom_sound sound.disjunction ha
            exact ⟨t :: u :: taken ++ [v], by simp, .call kind notNull hu within hv⟩
        · cases h
          exact ⟨[t], rfl, .token (.name kind notNull)⟩
    · next kind =>
      obtain ⟨level, hd, h⟩ := bind_eq_ok_iff.1 h
      obtain ⟨n, rfl, sound⟩ := hb level (descend_eq_ok_iff.1 hd)
      obtain ⟨⟨inner, after⟩, hi, h⟩ := bind_eq_ok_iff.1 h
      obtain ⟨last, hr, h⟩ := bind_eq_ok_iff.1 h
      cases h
      obtain ⟨taken, rfl, k, within⟩ := sound.disjunction hi
      obtain ⟨u, hu, rfl⟩ := expect_eq_ok_iff.1 hr
      exact ⟨t :: taken ++ [u], by simp, .group kind within hu⟩
    · cases h

theorem unary_sound {ts rest : List Token} {e : Expr} (h : unary below ts = .ok (e, rest)) :
    ∃ taken, ts = taken ++ rest ∧ Within limit .unary taken e := by
  unfold unary at h
  split at h
  · next found =>
    obtain ⟨t, ht, rfl⟩ := takeSymbol?_eq_some_iff.1 found
    obtain ⟨level, hd, h⟩ := bind_eq_ok_iff.1 h
    obtain ⟨n, rfl, sound⟩ := hb level (descend_eq_ok_iff.1 hd)
    obtain ⟨⟨inner, after⟩, hi, h⟩ := bind_eq_ok_iff.1 h
    cases h
    obtain ⟨taken, rfl, within⟩ := sound.unary hi
    exact ⟨t :: taken, rfl, .not ht within⟩
  · obtain ⟨taken, rfl, within⟩ := primary_sound hb h
    exact ⟨taken, rfl, within.primary⟩

theorem comparison_sound {ts rest : List Token} {e : Expr}
    (h : comparison below ts = .ok (e, rest)) :
    ∃ taken, ts = taken ++ rest ∧ Within limit .comparison taken e := by
  obtain ⟨⟨left, after⟩, hl, others⟩ := bind_eq_ok_iff.1 h
  obtain ⟨taken, rfl, within⟩ := unary_sound hb hl
  dsimp only at others
  split at others
  · cases others
    exact ⟨taken, rfl, within.unary⟩
  · next found =>
    obtain ⟨t, ht, rfl⟩ := takeComparator?_eq_some_iff.1 found
    obtain ⟨⟨right, after⟩, hr, last⟩ := bind_eq_ok_iff.1 others
    obtain ⟨taken', rfl, within'⟩ := unary_sound hb hr
    split at last
    · cases last
      exact ⟨taken ++ t :: taken', by simp, within.compare ht within'⟩
    · cases last

/-- The rest of a chain is taken with the operands before it. `operand` and `chain` say of what is read
with so many levels what the tokens of an operand and of the beginning of a chain are. -/
theorem Chained.sound {s : Symbol} {op : Operator} {operandOf : Level → Reads Expr}
    {moreOf : Level → Expr → Reads Expr} (chained : Chained s op operandOf moreOf)
    (operand : Nat → List Token → Expr → Prop) (chain : Nat → Nat → List Token → Expr → Prop)
    (joins : ∀ {n k : Nat} {t : Token} {before taken : List Token} {left right : Expr},
      chain (n + (k + 1)) k before left → t.kind = .symbol s → operand n taken right →
        chain (n + (k + 1)) (k + 1) (before ++ t :: taken) (.binary op left right))
    (operands : ∀ {n : Nat} {level : Level}, level.Sound n → ∀ {ts rest : List Token} {e : Expr},
      operandOf level ts = .ok (e, rest) → ∃ taken, ts = taken ++ rest ∧ operand n taken e)
    (chains : ∀ {n : Nat} {level : Level}, level.Sound n →
      ∀ {k : Nat} {before ts rest : List Token} {left e : Expr}, chain (n + k) k before left →
        moreOf level left ts = .ok (e, rest) →
          ∃ taken, ts = taken ++ rest ∧ ∃ k', chain (n + k) k' (before ++ taken) e)
    {k : Nat} {before ts rest : List Token} {left e : Expr} (hl : chain (limit + k) k before left)
    (h : moreOf (.over below) left ts = .ok (e, rest)) :
    ∃ taken, ts = taken ++ rest ∧ ∃ k', chain (limit + k) k' (before ++ taken) e := by
  rcases head_cases s ts with ⟨t, ts, ht, rfl⟩ | other
  · rw [chained.opens ht] at h
    obtain ⟨level, hd, h⟩ := bind_eq_ok_iff.1 h
    obtain ⟨n, rfl, sound⟩ := hb level (descend_eq_ok_iff.1 hd)
    obtain ⟨⟨right, after⟩, hr, others⟩ := bind_eq_ok_iff.1 h
    obtain ⟨taken, rfl, within⟩ := operands sound hr
    have shift : n + 1 + k = n + (k + 1) := by omega
    rw [shift] at hl ⊢
    obtain ⟨taken', rfl, k', longer⟩ := chains sound (joins hl ht within) others
    exact ⟨t :: taken ++ taken', by simp, k', by simpa using longer⟩
  · rw [chained.stops other] at h
    cases h
    exact ⟨[], rfl, k, by simpa using hl⟩

theorem conjunctionFrom_sound {k : Nat} {before ts rest : List Token} {left e : Expr}
    (hl : Within (limit + k) (.conjunction k) before left)
    (h : conjunctionFrom below left ts = .ok (e, rest)) :
    ∃ taken, ts = taken ++ rest ∧
      ∃ k', Within (limit + k) (.conjunction k') (before ++ taken) e :=
  chained_and.sound hb (fun n => Within n .comparison) (fun n k => Within n (.conjunction k))
    Within.and Level.Sound.comparison Level.Sound.conjunctionFrom hl h

theorem disjunctionFrom_sound {k : Nat} {before ts rest : List Token} {left e : Expr}
    (hl : Within (limit + k) (.disjunction k) before left)
    (h : disjunctionFrom below left ts = .ok (e, rest)) :
    ∃ taken, ts = taken ++ rest ∧
      ∃ k', Within (limit + k) (.disjunction k') (before ++ taken) e :=
  chained_or.sound hb (fun n ts e => ∃ j, Within n (.conjunction j) ts e)
    (fun n k => Within n (.disjunction k))
    (fun hl ht hr => hr.elim fun _ within => hl.or ht within)
    Level.Sound.conjunction Level.Sound.disjunctionFrom hl h

theorem conjunction_sound {ts rest : List Token} {e : Expr}
    (h : conjunction below ts = .ok (e, rest)) :
    ∃ taken, ts = taken ++ rest ∧ ∃ k, Within limit (.conjunction k) taken e := by
  obtain ⟨⟨left, after⟩, hl, others⟩ := bind_eq_ok_iff.1 h
  obtain ⟨taken, rfl, within⟩ := comparison_sound hb hl
  obtain ⟨taken', rfl, chain⟩ := conjunctionFrom_sound hb (k := 0) within.comparison others
  exact ⟨taken ++ taken', by simp, chain⟩

theorem disjunction_sound {ts rest : List Token} {e : Expr}
    (h : disjunction below ts = .ok (e, rest)) :
    ∃ taken, ts = taken ++ rest ∧ ∃ k, Within limit (.disjunction k) taken e := by
  obtain ⟨⟨left, after⟩, hl, others⟩ := bind_eq_ok_iff.1 h
  obtain ⟨taken, rfl, k, within⟩ := conjunction_sound hb hl
  obtain ⟨taken', rfl, chain⟩ := disjunctionFrom_sound hb (k := 0) within.conjunction others
  exact ⟨taken ++ taken', by simp, chain⟩

/-- The readers of a level are sound if those of the level below are. -/
theorem Level.over_sound : (Level.over below).Sound limit where
  unary := unary_sound hb
  comparison := comparison_sound hb
  conjunction := conjunction_sound hb
  disjunction := disjunction_sound hb
  conjunctionFrom := conjunctionFrom_sound hb
  disjunctionFrom := disjunctionFrom_sound hb

end

theorem Level.ofDepth_sound (depth : Nat) : (Level.ofDepth depth).Sound depth := by
  induction depth with
  | zero => exact over_sound nofun
  | succ depth ih =>
    refine over_sound fun level below => ?_
    cases below
    exact ⟨depth, rfl, ih⟩

/-! ## What is derived is taken -/

/-- The level below, when there are so many below a reader. -/
def levelBelow : Nat → Option Level
  | 0 => none
  | n + 1 => some (.ofDepth n)

theorem Level.ofDepth_eq (depth : Nat) : Level.ofDepth depth = .over (levelBelow depth) := by
  cases depth <;> rfl

theorem descend_levelBelow (used : Nat) {limit : Nat} (h : used + 1 ≤ limit) (rest : List Token) :
    descend (levelBelow (limit - used)) rest = .ok (.over (levelBelow (limit - (used + 1)))) := by
  obtain ⟨n, hn⟩ : ∃ n, limit - used = n + 1 := ⟨limit - used - 1, by omega⟩
  have same : limit - (used + 1) = n := by omega
  rw [hn, same, ← Level.ofDepth_eq]
  rfl

/-- How loosely a symbol holds on to what stands before it. -/
def Symbol.looseness : Symbol → Nat
  | leftParen => 0
  | compare _ => 1
  | and => 2
  | or => 3
  | not | rightParen | comma => 4

/-- What stands before the tokens does not go on with them, if it holds on to symbols up to some
looseness. -/
def Ends (looseness : Nat) (rest : List Token) : Prop :=
  ∀ s after, takeSymbol? rest = some (s, after) → looseness < s.looseness

theorem Ends.of_le {n m : Nat} {rest : List Token} (h : Ends n rest) (hm : m ≤ n) : Ends m rest :=
  fun s after found => Nat.lt_of_le_of_lt hm (h s after found)

theorem ends_nil (n : Nat) : Ends n [] := nofun

theorem ends_cons {n : Nat} {t : Token} {s : Symbol} (ht : t.kind = .symbol s)
    (hs : n < s.looseness) (rest : List Token) : Ends n (t :: rest) := by
  intro s' after found
  rw [takeSymbol?_cons ht] at found
  cases found
  exact hs

/-- A symbol that would hold on to what stands before does not come first. -/
theorem Ends.ne {n : Nat} {s : Symbol} {rest : List Token} (h : Ends n rest)
    (hs : s.looseness ≤ n) : ∀ t ∈ rest.head?, t.kind ≠ .symbol s := by
  intro t first ht
  obtain ⟨after, rfl⟩ := List.head?_eq_some_iff.1 first
  have := h s after (takeSymbol?_cons ht after)
  omega

theorem takeComparator?_of_ends {rest : List Token} (h : Ends 1 rest) :
    takeComparator? rest = none :=
  takeComparator?_ne fun _ => h.ne (Nat.le_refl 1)

theorem conjunctionFrom_of_ends {rest : List Token} (h : Ends 2 rest) (below : Option Level)
    (left : Expr) : conjunctionFrom below left rest = .ok (left, rest) :=
  chained_and.stops (h.ne (Nat.le_refl 2)) below left

theorem disjunctionFrom_of_ends {rest : List Token} (h : Ends 3 rest) (below : Option Level)
    (left : Expr) : disjunctionFrom below left rest = .ok (left, rest) :=
  chained_or.stops (h.ne (Nat.le_refl 3)) below left

/-- What a reader with enough levels below it does with the tokens of a part. After a chain it goes on
as it does after its operators. -/
def Taken : (part : Part) → List Token → part.Meaning → List Nat → Prop
  | .primary, ts, e, levels => ∀ n rest, (∀ l ∈ levels, l ≤ n) → Ends 0 rest →
    primary (levelBelow n) (ts ++ rest) = .ok (e, rest)
  | .unary, ts, e, levels => ∀ n rest, (∀ l ∈ levels, l ≤ n) → Ends 0 rest →
    unary (levelBelow n) (ts ++ rest) = .ok (e, rest)
  | .comparison, ts, e, levels => ∀ n rest, (∀ l ∈ levels, l ≤ n) → Ends 1 rest →
    comparison (levelBelow n) (ts ++ rest) = .ok (e, rest)
  | .conjunction k, ts, e, levels => ∀ n rest, (∀ l ∈ levels, l ≤ n) → Ends 1 rest →
    conjunction (levelBelow n) (ts ++ rest) = conjunctionFrom (levelBelow (n - k)) e rest
  | .disjunction k, ts, e, levels => ∀ n rest, (∀ l ∈ levels, l ≤ n) → Ends 2 rest →
    disjunction (levelBelow n) (ts ++ rest) = disjunctionFrom (levelBelow (n - k)) e rest
  | .arguments, ts, es, levels => ∀ n bound u rest, (∀ l ∈ levels, l ≤ n) →
    u.kind = .symbol .rightParen → ts.length ≤ bound →
    argumentsFrom (disjunction (levelBelow n)) bound (ts ++ u :: rest) = .ok (es, rest)

section

variable {t u : Token} {n used limit : Nat} {ts rest : List Token} {e left right : Expr}

theorem primary_group (ht : t.kind = .symbol .leftParen) (hu : u.kind = .symbol .rightParen)
    (opens : 1 ≤ n)
    (inner : disjunction (levelBelow (n - 1)) (ts ++ u :: rest) = .ok (e, u :: rest)) :
    primary (levelBelow n) (t :: ts ++ u :: rest) = .ok (e, rest) := by
  rw [List.cons_append, primary_leftParen ht]
  refine bind_eq_ok_iff.2 ⟨_, descend_levelBelow 0 opens _, ?_⟩
  refine bind_eq_ok_iff.2 ⟨_, inner, ?_⟩
  exact bind_eq_ok_iff.2 ⟨_, expect_closing hu _ rest, rfl⟩

theorem primary_call {f : Token} {w : String} {es : List Expr} (hf : f.kind = .word w)
    (hw : w ≠ nullWord) (ht : t.kind = .symbol .leftParen) (opens : 1 ≤ n)
    (args : arguments (disjunction (levelBelow (n - 1))) ts = .ok (es, rest)) :
    primary (levelBelow n) (f :: t :: ts) = .ok (.call w es, rest) := by
  rw [primary_call_eq hf hw ht]
  refine bind_eq_ok_iff.2 ⟨_, descend_levelBelow 0 opens _, ?_⟩
  exact bind_eq_ok_iff.2 ⟨_, args, rfl⟩

theorem unary_not (ht : t.kind = .symbol .not) (opens : 1 ≤ n)
    (inner : unary (levelBelow (n - 1)) ts = .ok (e, rest)) :
    unary (levelBelow n) (t :: ts) = .ok (.not e, rest) := by
  rw [unary_not_eq ht]
  refine bind_eq_ok_iff.2 ⟨_, descend_levelBelow 0 opens _, ?_⟩
  exact bind_eq_ok_iff.2 ⟨_, inner, rfl⟩

theorem comparison_compare {below : Option Level} {c : Comparator} {ls : List Token}
    (first : unary below ls = .ok (left, t :: ts)) (ht : t.kind = .symbol (.compare c))
    (second : unary below ts = .ok (right, rest)) (ends : Ends 1 rest) :
    comparison below ls = .ok (.binary (.compare c) left right, rest) := by
  refine bind_eq_ok_iff.2 ⟨_, first, (comparisonFrom_compare ht below left ts).trans ?_⟩
  refine bind_eq_ok_iff.2 ⟨_, second, compared_ne (fun _ => ends.ne (Nat.le_refl 1)) c left right⟩

/-- A further operand of a chain leaves one level less for those after it. -/
theorem Chained.further_ok {s : Symbol} {op : Operator} {operandOf : Level → Reads Expr}
    {moreOf : Level → Expr → Reads Expr} (chained : Chained s op operandOf moreOf)
    (ht : t.kind = .symbol s) (opens : used + 1 ≤ limit)
    (operand : operandOf (.over (levelBelow (limit - (used + 1)))) ts = .ok (right, rest))
    (left : Expr) :
    moreOf (.over (levelBelow (limit - used))) left (t :: ts)
      = moreOf (.over (levelBelow (limit - (used + 1)))) (.binary op left right) rest := by
  rw [chained.opens ht, descend_levelBelow used opens]
  show (operandOf _ ts >>= _) = _
  rw [operand]
  rfl

theorem argumentsFrom_last {argument : Reads Expr} (first : argument ts = .ok (e, u :: rest))
    (hu : u.kind = .symbol .rightParen) (bound : Nat) :
    argumentsFrom argument (bound + 1) ts = .ok ([e], rest) := by
  refine bind_eq_ok_iff.2 ⟨_, first, (argumentsAfter_ne (head_ne (by simp [hu]) rest) e).trans ?_⟩
  exact bind_eq_ok_iff.2 ⟨_, expect_closing hu _ rest, rfl⟩

theorem argumentsFrom_comma {argument : Reads Expr} {bound : Nat} {es : List Expr}
    {others : List Token} (first : argument ts = .ok (e, t :: others))
    (ht : t.kind = .symbol .comma) (second : argumentsFrom argument bound others = .ok (es, rest)) :
    argumentsFrom argument (bound + 1) ts = .ok (e :: es, rest) := by
  refine bind_eq_ok_iff.2 ⟨_, first, (argumentsAfter_comma ht e others).trans ?_⟩
  exact bind_eq_ok_iff.2 ⟨_, second, rfl⟩

end

/-- A part is taken whole, whatever stands after it that it does not go on with. -/
theorem taken_of_derives {part : Part} {ts : List Token} {m : part.Meaning} {levels : List Nat}
    (h : Derives part ts m levels) : Taken part ts m levels := by
  -- A chain is a disjunction of a level at its first operand and goes on one level further down after
  -- each operator, so its statement is an equation with the reader of its rest.
  induction h with
  | text ht | number ht =>
    intro n rest _ _
    simp only [List.singleton_append, primary, ht]
  | null ht =>
    intro n rest _ _
    simp only [List.singleton_append, primary, ht, if_true]
  | name ht hw =>
    intro n rest _ ends
    exact primary_name_eq ht hw (ends.ne (Nat.le_refl 0)) _
  | @group t u k ts e levels ht h hu ih =>
    intro n rest hl ends
    obtain ⟨opens, inner⟩ := h.le_limit 1 fun l hmem => hl l (by simp [hmem])
    have closing : Ends 3 (u :: rest) := ends_cons hu (by decide) rest
    have body := ih (n - 1) (u :: rest) inner (closing.of_le (by decide))
    rw [disjunctionFrom_of_ends closing] at body
    simpa using primary_group ht hu opens body
  | @callEmpty f t u w hf hw ht hu =>
    intro n rest hl ends
    exact primary_call hf hw ht (hl 1 (by simp)) (arguments_closing hu _)
  | @call f t u w ts es levels hf hw ht h hu ih =>
    intro n rest hl ends
    obtain ⟨opens, inner⟩ := h.le_limit 1 fun l hmem => hl l (by simp [hmem])
    have args := ih (n - 1) (ts ++ u :: rest).length u rest inner hu (by simp)
    obtain ⟨v, vs, _, rfl, -, notClosing⟩ := h.exists_cons
    have taken := primary_call hf hw ht opens ((arguments_ne (head_ne notClosing _) _).trans args)
    simpa using taken
  | @primary ts e levels h ih =>
    intro n rest hl ends
    obtain ⟨t, ts, rfl, notNegation⟩ := h.exists_cons_primary
    exact (unary_ne (head_ne notNegation _) _).trans (ih n rest hl ends)
  | @not t ts e levels ht h ih =>
    intro n rest hl ends
    obtain ⟨opens, inner⟩ := h.le_limit 1 fun l hmem => hl l (by simp [hmem])
    exact unary_not ht opens (ih (n - 1) rest inner ends)
  | @unary ts e levels h ih =>
    intro n rest hl ends
    refine bind_eq_ok_iff.2 ⟨_, ih n rest hl (ends.of_le (by decide)), ?_⟩
    simp only [takeComparator?_of_ends ends]
    rfl
  | @compare t c ls rs left right lefts rights hl ht hr ihl ihr =>
    intro n rest le ends
    obtain ⟨lel, ler⟩ := List.forall_mem_append.1 le
    have first := ihl n (t :: (rs ++ rest)) lel (ends_cons ht (by simp [Symbol.looseness]) _)
    have second := ihr n rest (List.forall_mem_cons.1 ler).2 (ends.of_le (by decide))
    rw [List.append_assoc]
    exact comparison_compare first ht second ends
  | @comparison ts e levels h ih =>
    intro n rest hl ends
    unfold conjunction
    rw [ih n rest hl ends]
    rfl
  | @and t k ls rs left right lefts rights hl ht hr ihl ihr =>
    intro n rest le ends
    obtain ⟨lel, ler⟩ := List.forall_mem_append.1 le
    obtain ⟨opens, inner⟩ := hr.le_limit (k + 1) (List.forall_mem_cons.1 ler).2
    have before := ihl n (t :: (rs ++ rest)) lel (ends_cons ht (by decide) _)
    have operand := ihr (n - (k + 1)) rest inner ends
    rw [List.append_assoc, List.cons_append, before]
    exact chained_and.further_ok ht opens operand left
  | @conjunction k ts e levels h ih =>
    intro n rest hl ends
    unfold disjunction
    rw [ih n rest hl (ends.of_le (by decide)), conjunctionFrom_of_ends ends]
    rfl
  | @or t k j ls rs left right lefts rights hl ht hr ihl ihr =>
    intro n rest le ends
    obtain ⟨lel, ler⟩ := List.forall_mem_append.1 le
    obtain ⟨opens, inner⟩ := hr.le_limit (k + 1) (List.forall_mem_cons.1 ler).2
    have before := ihl n (t :: (rs ++ rest)) lel (ends_cons ht (by decide) _)
    have operand := ihr (n - (k + 1)) rest inner (ends.of_le (by decide))
    rw [conjunctionFrom_of_ends ends] at operand
    rw [List.append_assoc, List.cons_append, before]
    exact chained_or.further_ok ht opens operand left
  | @argument k ts e levels h ih =>
    intro n bound u rest hl hu hb
    obtain ⟨t, ts, _, rfl, -, -⟩ := h.exists_cons
    rw [List.length_cons] at hb
    obtain ⟨bound, rfl⟩ : ∃ b, bound = b + 1 := ⟨bound - 1, by omega⟩
    have closing : Ends 3 (u :: rest) := ends_cons hu (by decide) rest
    have first := ih n (u :: rest) hl (closing.of_le (by decide))
    rw [disjunctionFrom_of_ends closing] at first
    exact argumentsFrom_last first hu _
  | @arguments t k fs ts e es firsts levels hf ht h ihf ih =>
    intro n bound u rest le hu hb
    obtain ⟨lef, le⟩ := List.forall_mem_append.1 le
    rw [List.length_append, List.length_cons] at hb
    obtain ⟨bound, rfl⟩ : ∃ b, bound = b + 1 := ⟨bound - 1, by omega⟩
    have comma : Ends 3 (t :: (ts ++ u :: rest)) := ends_cons ht (by decide) _
    have first := ihf n (t :: (ts ++ u :: rest)) lef (comma.of_le (by decide))
    rw [disjunctionFrom_of_ends comma] at first
    have others := ih n bound u rest (List.forall_mem_cons.1 le).2 hu (by omega)
    rw [List.append_assoc]
    exact argumentsFrom_comma first ht others

/-! ## The filters -/

/-- All of the tokens are taken exactly if they are derived within the limit. -/
theorem disjunction_eq_ok_nil_iff {depth : Nat} {ts : List Token} {e : Expr} :
    (Level.ofDepth depth).disjunction ts = .ok (e, []) ↔
      ∃ k, Within depth (.disjunction k) ts e := by
  constructor
  · intro h
    obtain ⟨taken, rfl, k, within⟩ := (Level.ofDepth_sound depth).disjunction h
    exact ⟨k, by rwa [List.append_nil]⟩
  · rintro ⟨k, levels, derives, le⟩
    have taken := taken_of_derives derives depth [] le (ends_nil 2)
    rw [List.append_nil, disjunctionFrom_of_ends (ends_nil 3)] at taken
    rw [Level.ofDepth_eq]
    exact taken

theorem exprOf_eq_ok_iff_within {ts : List Token} {e : Expr} :
    exprOf ts = .ok e ↔ ∃ k, Within maxDepth (.disjunction k) ts e := by
  rw [← disjunction_eq_ok_nil_iff, exprOf, bind_eq_ok_iff]
  constructor
  · rintro ⟨⟨e', rest⟩, taken, h⟩
    cases rest with
    | nil =>
      cases h
      exact taken
    | cons t rest => cases h
  · intro taken
    exact ⟨_, taken, rfl⟩

/-- Where the tokens stand and how they are written does not count. -/
theorem exprOf_of_kinds {ts us : List Token} {e : Expr} (h : exprOf ts = .ok e)
    (same : us.map Token.kind = ts.map Token.kind) : exprOf us = .ok e := by
  obtain ⟨k, levels, derives, le⟩ := exprOf_eq_ok_iff_within.1 h
  exact exprOf_eq_ok_iff_within.2 ⟨k, levels, derives.of_kinds same, le⟩

/-- Tokens are a filter in at most one way, however deeply they nest. -/
theorem Derives.unique {k k' : Nat} {ts : List Token} {e e' : Expr} {levels levels' : List Nat}
    (h : Derives (.disjunction k) ts e levels) (h' : Derives (.disjunction k') ts e' levels') :
    e = e' := by
  -- Readers with enough levels below them take both.
  obtain ⟨depth, le⟩ : ∃ depth, ∀ l ∈ levels ++ levels', l ≤ depth :=
    ⟨(levels ++ levels').sum, fun l hmem => List.le_sum_of_mem hmem⟩
  obtain ⟨hl, hl'⟩ := List.forall_mem_append.1 le
  have taken := disjunction_eq_ok_nil_iff.2 ⟨k, levels, h, hl⟩
  have taken' := disjunction_eq_ok_nil_iff.2 ⟨k', levels', h', hl'⟩
  rw [taken] at taken'
  cases taken'
  rfl

/-- Tokens are read as an expression exactly if the grammar derives them with it and no token has a
level beyond the greatest; and without any limit the grammar derives them with one expression at
most. -/
theorem exprOf_eq_ok_iff (ts : List Token) :
    (∀ e, exprOf ts = .ok e ↔
      ∃ k levels, Derives (.disjunction k) ts e levels ∧ ∀ l ∈ levels, l ≤ maxDepth) ∧
    {e | ∃ k levels, Derives (.disjunction k) ts e levels}.Subsingleton := by
  refine ⟨fun e => exprOf_eq_ok_iff_within, ?_⟩
  rintro e ⟨k, levels, h⟩ e' ⟨k', levels', h'⟩
  exact h.unique h'

end Listings.Filter
