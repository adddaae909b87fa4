import Mathlib.Data.List.TakeWhile
import Listings.Proofs.Clause
import Listings.Text.Run

/-!
# The order of a statement

What a reader of the text of a statement takes its order to be.

* `ReadsKey`, `ReadsKeys`, `ReadsOrder`: the tokens are a key, a list of keys or an order.
* `ReadsKeys.unique`, `ReadsOrder.unique`: they are no more than one.
* `orderClause`: the tokens from `ORDER` to the window.
* `Statement.readsOrder_iff`: the text of a statement is read to have its order and no other.
-/

namespace Listings.Sql

/-! ## The grammar -/

/-- The direction that a word of a statement stands for. -/
def direction? (w : String) : Option Direction :=
  [("ASC", .ascending), ("DESC", .descending)].lookup w

/-- The tokens are a key, with the nulls at the end. -/
inductive ReadsKey : List Token → SortKey → Prop
  | key {cs : List Token} {path : ColumnPath} {w : String} {direction : Direction}
      (hc : ReadsColumn cs path) (hw : direction? w = some direction) :
      ReadsKey (cs ++ [.word w, .word "NULLS", .word "LAST"]) ⟨path, direction⟩

/-- The tokens are keys with commas between them, at least one. -/
inductive ReadsKeys : List Token → List SortKey → Prop
  | single {ts : List Token} {key : SortKey} (h : ReadsKey ts key) : ReadsKeys ts [key]
  | cons {ts us : List Token} {key : SortKey} {keys : List SortKey} (h : ReadsKey ts key)
      (rest : ReadsKeys us keys) : ReadsKeys (ts ++ .comma :: us) (key :: keys)

/-- The tokens are an order; without tokens there are no keys. -/
inductive ReadsOrder : List Token → SortOrder → Prop
  | nothing : ReadsOrder [] (.byKeys [])
  | random :
      ReadsOrder
        [.word "ORDER", .word "BY", .word "RANDOM", .leftParen, .rightParen, .word "ASC"] .random
  | byKeys {ts : List Token} {keys : List SortKey} (h : ReadsKeys ts keys) :
      ReadsOrder (.word "ORDER" :: .word "BY" :: ts) (.byKeys keys)

/-! ## Taking keys from the left -/

/-- The key at the head of the tokens. -/
def takeKey? (ts : List Token) : Option (SortKey × List Token) := do
  let (path, rest) ← takeColumn? ts
  match rest with
  | .word w :: .word _ :: .word _ :: rest => (direction? w).map fun d => (⟨path, d⟩, rest)
  | _ => none

theorem ReadsKey.takes {ts : List Token} {key : SortKey} (h : ReadsKey ts key)
    (rest : List Token) : takeKey? (ts ++ rest) = some (key, rest) := by
  cases h with
  | @key cs path w direction hc hw =>
    have noDot : NoDot (.word w :: .word "NULLS" :: .word "LAST" :: rest) := nofun
    rw [List.append_assoc, takeKey?]
    simp only [List.cons_append, List.nil_append]
    rw [hc.takes noDot]
    simp [hw]

theorem ReadsKeys.exists_takes {ts : List Token} {keys : List SortKey} (h : ReadsKeys ts keys) :
    ∃ taken, takeKey? ts = some taken := by
  cases h with
  | single first => exact ⟨_, by simpa using first.takes []⟩
  | cons first _ => exact ⟨_, first.takes _⟩

/-- Tokens are no more than one list of keys. -/
theorem ReadsKeys.unique {ts : List Token} {keys keys' : List SortKey} (h : ReadsKeys ts keys)
    (h' : ReadsKeys ts keys') : keys = keys' := by
  -- What follows the first key shows if there are more: a comma, or nothing.
  have ends {ts : List Token} {key : SortKey} (h : ReadsKey ts key) : takeKey? ts = some (key, []) := by
    simpa using h.takes []
  induction h generalizing keys' with
  | single first =>
    cases h' with
    | single first' =>
      cases (ends first).symm.trans (ends first')
      rfl
    | cons first' _ => cases (ends first).symm.trans (first'.takes _)
  | @cons ts us key keys first _ ih =>
    generalize whole : ts ++ .comma :: us = all at h'
    cases h' with
    | single first' =>
      subst whole
      cases (first.takes _).symm.trans (ends first')
    | cons first' rest' =>
      have taken := first.takes (.comma :: us)
      rw [whole, first'.takes] at taken
      cases taken
      rw [ih rest']

/-- Tokens are no more than one order. -/
theorem ReadsOrder.unique {ts : List Token} {order order' : SortOrder} (h : ReadsOrder ts order)
    (h' : ReadsOrder ts order') : order = order' := by
  -- No key begins with the name of a function.
  cases h with
  | nothing =>
    cases h'
    rfl
  | random =>
    cases h' with
    | random => rfl
    | byKeys keys' =>
      obtain ⟨_, taken⟩ := keys'.exists_takes
      cases taken
  | byKeys keys =>
    cases h' with
    | random =>
      obtain ⟨_, taken⟩ := keys.exists_takes
      cases taken
    | byKeys keys' => rw [keys.unique keys']

/-! ## Reading what is written -/

theorem plain_columnTokens (path : ColumnPath) :
    (columnTokens path).map Token.plain = columnTokens path := by
  unfold columnTokens
  split <;> rfl

/-- A key is read from its own tokens. -/
theorem readsKey_tokens (key : SortKey) : ReadsKey ((keyTokens key).map Token.plain) key := by
  obtain ⟨path, direction⟩ := key
  rw [keyTokens, List.map_append, plain_columnTokens]
  cases direction with
  | ascending => exact .key (readsColumn_columnTokens path) rfl
  | descending => exact .key (readsColumn_columnTokens path) rfl

/-- So are several keys. -/
theorem readsKeys_tokens (key : SortKey) (keys : List SortKey) :
    ReadsKeys ((separated .comma ((key :: keys).map keyTokens)).map Token.plain) (key :: keys) := by
  induction keys generalizing key with
  | nil =>
    rw [List.map_singleton, separated_singleton]
    exact .single (readsKey_tokens key)
  | cons next keys ih =>
    rw [List.map_cons, List.map_cons, separated_cons_cons, List.map_append]
    exact .cons (readsKey_tokens key) (ih next)

/-- And so is every order. -/
theorem readsOrder_tokens (order : SortOrder) :
    ReadsOrder ((orderTokens order).map Token.plain) order := by
  cases order with
  | random => exact .random
  | byKeys keys =>
    cases keys with
    | nil => exact .nothing
    | cons key keys => exact .byKeys (readsKeys_tokens key keys)

/-! ## Reading the order of a statement -/

/-- The tokens of the order among those of a statement: from the first `ORDER` to the window. -/
def orderClause (ts : List Token) : List Token :=
  (ts.dropWhile (· ≠ .word "ORDER")).takeWhile (· ≠ .word "LIMIT")

/-- The order that a statement is read to have when its parameters are bound to its placeholders. -/
def Statement.ReadsOrder (s : Statement) (order : SortOrder) : Prop :=
  ∃ ts, readTokens s.params 0 s.text.toList = some ts ∧ Sql.ReadsOrder (orderClause ts) order

/-- In search of a word all tokens are passed over that lack it. -/
theorem Lacks.ne {w : String} {ts : List Token} (h : Lacks [w] ts) :
    ∀ t ∈ ts.map Token.plain, decide (t ≠ .word w) :=
  fun _ ht => decide_eq_true fun same => h w List.mem_cons_self (same ▸ ht)

/-- What stands before the order of a statement has no `ORDER` if no join has one. -/
theorem lacks_front {s : Select} (h : ∀ join ∈ s.joins, Lacks clauseWords join.tokens) :
    Lacks ["ORDER"] (.word "SELECT" :: (s.projection.tokens ++ s.bodyTokens)) := by
  have head : Lacks ["ORDER"] s.headTokens := (lacks_headTokens h).subset (by simp)
  have front : .word "SELECT" :: (s.projection.tokens ++ s.bodyTokens)
      = s.headTokens ++ s.condition.elim [] fun c => .word "WHERE" :: c.tokens := by
    unfold Select.bodyTokens Select.headTokens
    cases s.condition <;> simp
  rw [front, lacks_append]
  refine ⟨head, ?_⟩
  cases s.condition with
  | none => exact lacks_nil
  | some c =>
    have condition : Lacks ["ORDER"] c.tokens := (lacks_condition c).subset (by simp)
    simpa using condition

/-- The order of a statement is found between what is before it and the window. -/
theorem orderClause_eq {front back : List Token} (hf : Lacks ["ORDER"] front)
    (hb : Lacks ["ORDER"] back) (stops : ∀ t ∈ (back.map Token.plain).head?, t = .word "LIMIT")
    (order : SortOrder) :
    orderClause ((front ++ orderTokens order ++ back).map Token.plain)
      = (orderTokens order).map Token.plain := by
  have clause : ((orderTokens order ++ back).map Token.plain).takeWhile
      (fun t => decide (t ≠ .word "LIMIT")) = (orderTokens order).map Token.plain := by
    have inside : Lacks ["LIMIT"] (orderTokens order) := (lacks_order order).subset (by simp)
    rw [List.map_append]
    exact Text.takeWhile_run inside.ne fun t ht => by simp [stops t ht]
  unfold orderClause
  rw [List.append_assoc, List.map_append]
  by_cases none : order = .byKeys []
  · subst none
    rw [orderTokens, List.nil_append, ← List.map_append,
      List.dropWhile_eq_nil_iff.2 (lacks_append.2 ⟨hf, hb⟩).ne]
    rfl
  · have starts : ∃ rest, orderTokens order = .word "ORDER" :: rest := by
      rcases order with _ | _ | ⟨key, keys⟩
      · exact ⟨_, rfl⟩
      · exact absurd rfl none
      · exact ⟨_, rfl⟩
    have first : ∀ t ∈ ((orderTokens order ++ back).map Token.plain).head?,
        decide (t ≠ .word "ORDER") = false := by
      obtain ⟨rest, starts⟩ := starts
      rw [starts]
      rintro _ ⟨⟩
      rfl
    rw [Text.dropWhile_run hf.ne first, clause]

/-- A statement in whose joins no clause begins is read to have its order and no other. -/
theorem Statement.readsOrder_iff {s : Statement}
    (h : ∀ join ∈ s.select.joins, Lacks clauseWords join.tokens) (order : SortOrder) :
    s.ReadsOrder order ↔ order = s.select.order := by
  have read := s.linesUp.binding
  have clause : orderClause (s.select.tokens.map Token.plain)
      = (orderTokens s.select.order).map Token.plain := by
    obtain ⟨select, dialect⟩ := s
    have whole : select.tokens
        = .word "SELECT" :: (select.projection.tokens ++ select.bodyTokens)
          ++ orderTokens select.order ++ select.window.elim [] Window.tokens := by
      unfold Select.tokens
      cases select.window <;> simp
    rw [whole]
    refine orderClause_eq (lacks_front h) ?_ ?_ select.order
    · cases select.window <;> simp [Window.tokens]
    · cases select.window <;> simp [Window.tokens, Token.plain]
  have own := readsOrder_tokens s.select.order
  rw [← clause] at own
  constructor
  · rintro ⟨ts, found, reads⟩
    cases read.symm.trans found
    exact reads.unique own
  · rintro rfl
    exact ⟨_, read, own⟩

end Listings.Sql
