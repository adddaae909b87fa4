import Listings.Proofs.Lexing
import Listings.Sql.Condition

/-!
# Reading conditions

How a condition is read from its tokens: `OR` binds weakest, then `AND`, then `NOT`, then the
operators of a single test. Operators of one kind group from the left, and parentheses group what
they enclose.

* `ReadsTest`: the tokens are a test.
* `Reads`: the tokens are a condition in which nothing outside parentheses binds weaker than a
  level.
* `Reads.unique`: tokens are read in at most one way.
* `reads_tokens`: a condition is read from its own tokens, so no parenthesis is missing where it is
  written.

Uniqueness goes by a machine that takes the tokens from the left: what a reading says, the machine
finds, and it has no choice (`Steps.unique`).
-/

namespace Listings.Sql

/-! ## The grammar -/

/-- The comparator that an operator of a statement stands for. -/
def comparator? (w : String) : Option Comparator :=
  [("=", .equal), ("<>", .notEqual), ("LIKE", .like), (">", .greater), (">=", .greaterEqual),
    ("<", .less), ("<=", .lessEqual)].lookup w

/-- The tokens are a column. -/
inductive ReadsColumn : List Token → ColumnPath → Prop
  | single {path : ColumnPath} {column : String} (h : path.parts = (none, column)) :
      ReadsColumn [.name column] path
  | qualified {path : ColumnPath} {table column : String}
      (h : path.parts = (some table, column)) :
      ReadsColumn [.name table, .dot, .name column] path

/-- The tokens are values with commas between them. -/
inductive ReadsValues : List Token → List Value → Prop
  | nil : ReadsValues [] []
  | single (v : Value) : ReadsValues [.param v] [v]
  | cons (v w : Value) {ts : List Token} {vs : List Value} (h : ReadsValues ts (w :: vs)) :
      ReadsValues (.param v :: .comma :: ts) (v :: w :: vs)

/-- The tokens are a test. -/
inductive ReadsTest : List Token → Test → Prop
  | compare {cs : List Token} {path : ColumnPath} {w : String} {op : Comparator}
      (hc : ReadsColumn cs path) (hw : comparator? w = some op) (v : Value) :
      ReadsTest (cs ++ [.word w, .param v]) (.compare path op v)
  | sameColumns {ls rs : List Token} {left right : ColumnPath} (hl : ReadsColumn ls left)
      (hr : ReadsColumn rs right) :
      ReadsTest (ls ++ .word "=" :: rs) (.sameColumns left right)
  | sameValues (v w : Value) : ReadsTest [.param v, .word "=", .param w] (.sameValues v w)
  | isNull {cs : List Token} {path : ColumnPath} (hc : ReadsColumn cs path) :
      ReadsTest (cs ++ [.word "IS", .word "NULL"]) (.isNull path false)
  | isNotNull {cs : List Token} {path : ColumnPath} (hc : ReadsColumn cs path) :
      ReadsTest (cs ++ [.word "IS", .word "NOT", .word "NULL"]) (.isNull path true)
  | inValues {cs vs : List Token} {path : ColumnPath} {values : List Value}
      (hc : ReadsColumn cs path) (hv : ReadsValues vs values) :
      ReadsTest (cs ++ .word "IN" :: parenthesized vs) (.inValues path values false)
  | notInValues {cs vs : List Token} {path : ColumnPath} {values : List Value}
      (hc : ReadsColumn cs path) (hv : ReadsValues vs values) :
      ReadsTest (cs ++ .word "NOT" :: .word "IN" :: parenthesized vs) (.inValues path values true)
  | inRows {cs ps ws : List Token} {path projection : ColumnPath} {where_ : Test}
      (hc : ReadsColumn cs path) (hp : ReadsColumn ps projection) (table : ColumnPath)
      (hw : ReadsTest ws where_) :
      ReadsTest
        (cs ++ .word "IN" :: parenthesized
          (.word "SELECT" :: ps ++ .word "FROM" :: .name table.text :: .word "WHERE" :: ws))
        (.inRows path projection table where_ false)
  | notInRows {cs ps ws : List Token} {path projection : ColumnPath} {where_ : Test}
      (hc : ReadsColumn cs path) (hp : ReadsColumn ps projection) (table : ColumnPath)
      (hw : ReadsTest ws where_) :
      ReadsTest
        (cs ++ .word "NOT" :: .word "IN" :: parenthesized
          (.word "SELECT" :: ps ++ .word "FROM" :: .name table.text :: .word "WHERE" :: ws))
        (.inRows path projection table where_ true)

/-- What the outermost operator of a condition may be. -/
inductive Binding where
  /-- Nothing: a test, or something in parentheses. -/
  | operand
  /-- `NOT`, or what binds stronger. -/
  | negation
  /-- `AND`, or what binds stronger. -/
  | conjunction
  /-- Any operator. -/
  | disjunction

/-- The tokens are a condition. -/
inductive Reads : Binding → List Token → Condition → Prop
  | test {ts : List Token} {t : Test} (h : ReadsTest ts t) : Reads .operand ts (.test t)
  | group {ts : List Token} {c : Condition} (h : Reads .disjunction ts c) :
      Reads .operand (parenthesized ts) c
  | operand {ts : List Token} {c : Condition} (h : Reads .operand ts c) : Reads .negation ts c
  | not {ts : List Token} {c : Condition} (h : Reads .negation ts c) :
      Reads .negation (.word "NOT" :: ts) (.not c)
  | negation {ts : List Token} {c : Condition} (h : Reads .negation ts c) : Reads .conjunction ts c
  | and {ls rs : List Token} {left right : Condition} (hl : Reads .conjunction ls left)
      (hr : Reads .negation rs right) :
      Reads .conjunction (ls ++ .word "AND" :: rs) (.and left right)
  | conjunction {ts : List Token} {c : Condition} (h : Reads .conjunction ts c) :
      Reads .disjunction ts c
  | or {ls rs : List Token} {left right : Condition} (hl : Reads .disjunction ls left)
      (hr : Reads .conjunction rs right) :
      Reads .disjunction (ls ++ .word "OR" :: rs) (.or left right)

/-! ## Taking a test from the left -/

/-- The column at the head of the tokens. -/
def takeColumn? : List Token → Option (ColumnPath × List Token)
  | .name table :: .dot :: .name column :: rest => some (.ofParts (some table, column), rest)
  | .name column :: rest => some (.ofParts (none, column), rest)
  | _ => none

/-- The values up to a closing parenthesis. -/
def takeValues? : List Token → Option (List Value × List Token)
  | .rightParen :: rest => some ([], rest)
  | .param v :: .comma :: rest => (takeValues? rest).map fun (vs, rest) => (v :: vs, rest)
  | .param v :: .rightParen :: rest => some ([v], rest)
  | _ => none

/-- What reads a test from the head of the tokens. -/
abbrev TakesTest := List Token → Option (Test × List Token)

/-- A subselect up to its closing parenthesis, after its first word. -/
def takeRows? (inner : TakesTest) (path : ColumnPath) (negated : Bool) : TakesTest := fun ts => do
  let (projection, rest) ← takeColumn? ts
  match rest with
  | .word _ :: .name table :: .word _ :: rest =>
    let (where_, rest) ← inner rest
    match rest with
    | .rightParen :: rest => some (.inRows path projection ⟨table⟩ where_ negated, rest)
    | _ => none
  | _ => none

/-- What stands in the parentheses of a membership. -/
def takeMembers? (inner : TakesTest) (path : ColumnPath) (negated : Bool) : TakesTest
  | .word _ :: ts => takeRows? inner path negated ts
  | ts => (takeValues? ts).map fun (vs, rest) => (.inValues path vs negated, rest)

/-- The rest of a test after the column that it begins with. -/
def takeOperator? (inner : TakesTest) (path : ColumnPath) : TakesTest
  | .word w :: .param v :: rest => (comparator? w).map fun op => (.compare path op v, rest)
  | .word _ :: .leftParen :: rest => takeMembers? inner path false rest
  | .word _ :: .word w :: rest =>
    if w = "NULL" then some (.isNull path false, rest)
    else
      match rest with
      | .leftParen :: rest => takeMembers? inner path true rest
      | .word _ :: rest => some (.isNull path true, rest)
      | _ => none
  | .word _ :: ts => (takeColumn? ts).map fun (right, rest) => (.sameColumns path right, rest)
  | _ => none

/-- A test, given what reads the tests of subselects. -/
def takeTestOver? (inner : TakesTest) : TakesTest
  | .param v :: .word _ :: .param w :: rest => some (.sameValues v w, rest)
  | ts => do
    let (path, rest) ← takeColumn? ts
    takeOperator? inner path rest

/-- A test with subselects in one another up to a number. -/
def takeTest? : Nat → TakesTest
  | 0 => takeTestOver? fun _ => none
  | n + 1 => takeTestOver? (takeTest? n)

/-- Tokens that do not go on in the middle of a column. -/
def NoDot (ts : List Token) : Prop := ts.head? ≠ some .dot

theorem ReadsColumn.takes {cs : List Token} {path : ColumnPath} (h : ReadsColumn cs path)
    {rest : List Token} (hr : NoDot rest) : takeColumn? (cs ++ rest) = some (path, rest) := by
  have path_eq := path.ofParts_parts
  cases h with
  | single h =>
    rw [h] at path_eq
    cases rest with
    | nil => simp [takeColumn?, path_eq]
    | cons t rest =>
      have ht : t ≠ .dot := by simpa [NoDot] using hr
      cases t <;> simp_all [takeColumn?]
  | qualified h =>
    rw [h] at path_eq
    simp [takeColumn?, path_eq]

theorem ReadsValues.takes {ts : List Token} {vs : List Value} (h : ReadsValues ts vs)
    (rest : List Token) : takeValues? (ts ++ .rightParen :: rest) = some (vs, rest) := by
  induction h with
  | nil => rfl
  | single v => rfl
  | cons v w _ ih => simp [takeValues?, ih]

/-- A test that begins with a column goes on with its operator. -/
theorem ReadsColumn.takeTestOver? {cs : List Token} {path : ColumnPath} (h : ReadsColumn cs path)
    (inner : TakesTest) {ts : List Token} (hts : NoDot ts) :
    takeTestOver? inner (cs ++ ts) = takeOperator? inner path ts := by
  have column := h.takes hts
  cases h <;> simp_all [Sql.takeTestOver?]

/-- A subselect is read with what reads its test. -/
theorem takeMembers?_rows {inner : TakesTest} {ps ws rest : List Token} {projection : ColumnPath}
    {where_ : Test} (path table : ColumnPath) (negated : Bool) (hp : ReadsColumn ps projection)
    (hw : inner (ws ++ .rightParen :: rest) = some (where_, .rightParen :: rest)) :
    takeMembers? inner path negated
        (.word "SELECT" :: ps ++ .word "FROM" :: .name table.text :: .word "WHERE" :: ws
          ++ .rightParen :: rest)
      = some (.inRows path projection table where_ negated, rest) := by
  have noDot : NoDot
      (.word "FROM" :: .name table.text :: .word "WHERE" :: (ws ++ .rightParen :: rest)) := by
    simp [NoDot]
  have column := hp.takes noDot
  simp [takeMembers?, takeRows?, column, hw]

theorem takeMembers?_values {inner : TakesTest} {ts : List Token} {vs : List Value}
    (path : ColumnPath) (negated : Bool) (h : ReadsValues ts vs) (rest : List Token) :
    takeMembers? inner path negated (ts ++ .rightParen :: rest)
      = some (.inValues path vs negated, rest) := by
  have values := h.takes rest
  cases h <;> simp_all [takeMembers?]

theorem takeTest?_eq (n : Nat) : ∃ inner, takeTest? n = takeTestOver? inner := by
  cases n <;> exact ⟨_, rfl⟩

/-- A test is found at the head of the tokens. -/
theorem ReadsTest.takes {ts : List Token} {t : Test} (h : ReadsTest ts t) {n : Nat}
    (hn : ts.length ≤ n) {rest : List Token} (hr : NoDot rest) :
    takeTest? n (ts ++ rest) = some (t, rest) := by
  -- The depth is spent only on the test of a subselect, which is shorter than the whole.
  induction h generalizing n rest with
  | inRows hc hp table _ ih | notInRows hc hp table _ ih =>
    obtain ⟨m, rfl⟩ : ∃ m, n = m + 1 := by
      refine ⟨n - 1, ?_⟩
      simp only [List.length_append, List.length_cons, parenthesized] at hn
      omega
    have noDot : NoDot (.rightParen :: rest) := by simp [NoDot]
    have inner := ih (n := m)
      (by simp only [List.length_append, List.length_cons, parenthesized] at hn; omega) noDot
    have members := fun negated path => takeMembers?_rows path table negated hp inner
    simp only [List.append_assoc, List.cons_append] at members
    rw [takeTest?, List.append_assoc, hc.takeTestOver? _ (by simp [NoDot])]
    simp [takeOperator?, parenthesized, members]
  | compare hc hw v =>
    obtain ⟨inner, e⟩ := takeTest?_eq n
    rw [e, List.append_assoc, hc.takeTestOver? _ (by simp [NoDot])]
    simp [takeOperator?, hw]
  | sameColumns hl hr' =>
    obtain ⟨inner, e⟩ := takeTest?_eq n
    rw [e, List.append_assoc, hl.takeTestOver? _ (by simp [NoDot])]
    have right := hr'.takes hr
    cases hr' <;> simp_all [takeOperator?]
  | sameValues v w => cases n <;> rfl
  | isNull hc | isNotNull hc =>
    obtain ⟨inner, e⟩ := takeTest?_eq n
    rw [e, List.append_assoc, hc.takeTestOver? _ (by simp [NoDot])]
    simp [takeOperator?]
  | inValues hc hv | notInValues hc hv =>
    obtain ⟨inner, e⟩ := takeTest?_eq n
    rw [e, List.append_assoc, hc.takeTestOver? _ (by simp [NoDot])]
    simp [takeOperator?, parenthesized, takeMembers?_values _ _ hv]

/-! ## Taking a condition from the left -/

/-- What has been read since the last open parenthesis. -/
structure Pending where
  /-- What stands before the last `OR`. -/
  disjuncts : Option Condition := none
  /-- What stands before the last `AND`, or all since the last `OR`. -/
  conjuncts : Option Condition := none
  /-- The negations that wait for their operand. -/
  wrap : Condition → Condition := id

/-- A condition behind those before it. -/
def joined (op : Condition → Condition → Condition) : Option Condition → Condition → Condition
  | none, c => c
  | some before, c => op before c

namespace Pending

/-- After a further operand. -/
def operand (f : Pending) (c : Condition) : Pending where
  disjuncts := f.disjuncts
  conjuncts := some (joined .and f.conjuncts (f.wrap c))

/-- After `NOT`. -/
def negated (f : Pending) : Pending := { f with wrap := f.wrap ∘ .not }

/-- The condition that has been read. -/
def condition? (f : Pending) : Option Condition := f.conjuncts.map (joined .or f.disjuncts)

end Pending

/-- The tokens that are left, and what has been read in each open parenthesis, the last one first. -/
abbrev State := List Token × List Pending

/-- What the next token, or the next test, adds. -/
def step? : State → Option State
  | (.word "NOT" :: ts, f :: s) => some (ts, f.negated :: s)
  | (.word "AND" :: ts, s) => some (ts, s)
  | (.word "OR" :: ts, f :: s) => f.condition?.map fun c => (ts, { disjuncts := some c } :: s)
  | (.leftParen :: ts, s) => some (ts, {} :: s)
  | (.rightParen :: ts, f :: g :: s) => f.condition?.map fun c => (ts, g.operand c :: s)
  | (ts, f :: s) =>
    (takeTest? ts.length ts).map fun (t, rest) => (rest, f.operand (.test t) :: s)
  | _ => none

/-- Any number of steps. -/
inductive Steps : State → State → Prop
  | refl (x : State) : Steps x x
  | head {x y z : State} (h : step? x = some y) (hs : Steps y z) : Steps x z

theorem Steps.single {x y : State} (h : step? x = some y) : Steps x y := .head h (.refl y)

theorem Steps.trans {x y z : State} (h : Steps x y) (h' : Steps y z) : Steps x z := by
  induction h with
  | refl => exact h'
  | head hstep _ ih => exact .head hstep (ih h')

/-- The machine has no choice: it can stop in one state only. -/
theorem Steps.unique {x y z : State} (hy : Steps x y) (hz : Steps x z) (stopy : step? y = none)
    (stopz : step? z = none) : y = z := by
  induction hy with
  | refl x =>
    cases hz with
    | refl => rfl
    | head h _ => rw [stopy] at h; cases h
  | head h _ ih =>
    cases hz with
    | refl => rw [stopz] at h; cases h
    | head h' hs =>
      rw [h] at h'
      cases h'
      exact ih hs stopy

/-- What the machine does with the tokens of a condition. -/
def Runs : Binding → List Token → Condition → Prop
  | .operand, ts, c | .negation, ts, c =>
    ∀ f s rest, NoDot rest → Steps (ts ++ rest, f :: s) (rest, f.operand c :: s)
  | .conjunction, ts, c =>
    ∀ d s rest, NoDot rest →
      Steps (ts ++ rest, { disjuncts := d } :: s) (rest, ⟨d, some c, id⟩ :: s)
  | .disjunction, ts, c =>
    ∀ s rest, NoDot rest →
      ∃ f : Pending, f.condition? = some c ∧ Steps (ts ++ rest, {} :: s) (rest, f :: s)

/-- A test does not begin like anything else. -/
theorem ReadsTest.step? {ts : List Token} {t : Test} (h : ReadsTest ts t) (f : Pending)
    (s : List Pending) {rest : List Token} (hr : NoDot rest) :
    step? (ts ++ rest, f :: s) = some (rest, f.operand (.test t) :: s) := by
  have found := h.takes (n := (ts ++ rest).length)
    (by simp only [List.length_append]; omega) hr
  have head : ∃ u us, ts ++ rest = u :: us ∧ ((∃ s, u = .name s) ∨ ∃ v, u = .param v) := by
    cases h with
    | sameValues v w => exact ⟨_, _, rfl, .inr ⟨v, rfl⟩⟩
    | compare hc | sameColumns hc | isNull hc | isNotNull hc | inValues hc | notInValues hc
    | inRows hc | notInRows hc => cases hc <;> exact ⟨_, _, rfl, .inl ⟨_, rfl⟩⟩
  obtain ⟨u, us, e, hu⟩ := head
  rw [e] at found ⊢
  rcases hu with ⟨name, rfl⟩ | ⟨v, rfl⟩ <;> simp only [Sql.step?, found, Option.map_some]

/-- What a reading says, the machine finds. -/
theorem Reads.runs {b : Binding} {ts : List Token} {c : Condition} (h : Reads b ts c) :
    Runs b ts c := by
  induction h with
  | test h => exact fun f s rest hr => .single (h.step? f s hr)
  | @group ts c _ ih =>
    intro f s rest hr
    obtain ⟨g, hg, steps⟩ := ih (f :: s) (.rightParen :: rest) (by simp [NoDot])
    have closing : step? (.rightParen :: rest, g :: f :: s) = some (rest, f.operand c :: s) := by
      simp only [step?, hg, Option.map_some]
    simp only [parenthesized, List.cons_append, List.append_assoc]
    exact .head rfl (steps.trans (.single closing))
  | operand _ ih => exact ih
  | not _ ih => exact fun f s rest hr => .head rfl (ih f.negated s rest hr)
  | negation _ ih => exact fun d s rest hr => ih { disjuncts := d } s rest hr
  | @and ls rs left right _ _ ihl ihr =>
    intro d s rest hr
    rw [List.append_assoc, List.cons_append]
    have before := ihl d s (.word "AND" :: (rs ++ rest)) (by simp [NoDot])
    exact before.trans (.head rfl (ihr ⟨d, some left, id⟩ s rest hr))
  | conjunction _ ih => exact fun s rest hr => ⟨_, rfl, ih none s rest hr⟩
  | @or ls rs left right _ _ ihl ihr =>
    intro s rest hr
    rw [List.append_assoc, List.cons_append]
    obtain ⟨f, hf, before⟩ := ihl s (.word "OR" :: (rs ++ rest)) (by simp [NoDot])
    have operator : step? (.word "OR" :: (rs ++ rest), f :: s)
        = some (rs ++ rest, { disjuncts := some left } :: s) := by
      simp only [step?, hf, Option.map_some]
    exact ⟨_, rfl, before.trans (.head operator (ihr (some left) s rest hr))⟩

/-- Tokens are read in at most one way. -/
theorem Reads.unique {ts : List Token} {c c' : Condition} (h : Reads .disjunction ts c)
    (h' : Reads .disjunction ts c') : c = c' := by
  obtain ⟨f, hf, steps⟩ := h.runs [] [] (by simp [NoDot])
  obtain ⟨f', hf', steps'⟩ := h'.runs [] [] (by simp [NoDot])
  have stop : ∀ f : Pending, step? ([], [f]) = none := fun f => rfl
  have same := steps.unique steps' (stop f) (stop f')
  simp only [Prod.mk.injEq, List.cons.injEq, true_and, and_true] at same
  rw [same, hf'] at hf
  exact (Option.some.inj hf).symm

/-! ## Reading what is written -/

theorem comparator?_sql (op : Comparator) : comparator? op.sql = some op := by
  cases op <;> rfl

theorem readsColumn_columnTokens (path : ColumnPath) : ReadsColumn (columnTokens path) path := by
  unfold columnTokens
  split
  · next h => exact .qualified h
  · next h => exact .single h

theorem readsValues_separated (vs : List Value) :
    ReadsValues (separated .comma (vs.map fun v => [.param v])) vs := by
  induction vs with
  | nil => exact .nil
  | cons v vs ih =>
    cases vs with
    | nil => simpa using ReadsValues.single v
    | cons w vs => simpa using ReadsValues.cons v w ih

/-- A test is read from its own tokens. -/
theorem readsTest_tokens (t : Test) : ReadsTest t.tokens t := by
  induction t with
  | compare path op value =>
    exact .compare (readsColumn_columnTokens path) (comparator?_sql op) value
  | sameColumns left right =>
    exact .sameColumns (readsColumn_columnTokens left) (readsColumn_columnTokens right)
  | sameValues left right => exact .sameValues left right
  | isNull path negated =>
    cases negated with
    | true => exact .isNotNull (readsColumn_columnTokens path)
    | false => exact .isNull (readsColumn_columnTokens path)
  | inValues path values negated =>
    have column := readsColumn_columnTokens path
    have list := readsValues_separated values
    cases negated with
    | true => simpa [Test.tokens, inWords] using ReadsTest.notInValues column list
    | false => simpa [Test.tokens, inWords] using ReadsTest.inValues column list
  | inRows path projection source where_ negated ih =>
    have column := readsColumn_columnTokens path
    have selected := readsColumn_columnTokens projection
    cases negated with
    | true =>
      simpa [Test.tokens, inWords, tableTokens] using
        ReadsTest.notInRows column selected source ih
    | false =>
      simpa [Test.tokens, inWords, tableTokens] using ReadsTest.inRows column selected source ih

/-- The tokens of a condition as an operand, in parentheses if it is given them. -/
theorem Reads.bracketed {c : Condition} (h : Reads .disjunction c.tokens c) :
    Reads .operand (Condition.bracketed true c.tokens) c := .group h

/-- A condition is read from its own tokens. Beside operators, parentheses stand where it would be
read otherwise. -/
theorem reads_tokens (c : Condition) :
    Reads .disjunction c.tokens c ∧
      Reads .disjunction (Condition.bracketed c.bracketsBeforeOr c.tokens) c ∧
      Reads .conjunction (Condition.bracketed c.bracketsBeforeAnd c.tokens) c ∧
      Reads .operand (Condition.bracketed c.bracketsAfter c.tokens) c := by
  induction c with
  | test t =>
    have operand := Reads.test (readsTest_tokens t)
    have conjunction := Reads.negation (.operand operand)
    exact ⟨.conjunction conjunction, .conjunction conjunction, conjunction, operand⟩
  | not inner ih =>
    obtain ⟨-, -, -, operand⟩ := ih
    have whole : Reads .disjunction (Condition.not inner).tokens (.not inner) :=
      .conjunction (.negation (.not (.operand operand)))
    have group := whole.bracketed
    exact ⟨whole, .conjunction (.negation (.operand group)), .negation (.operand group), group⟩
  | and left right ihl ihr =>
    obtain ⟨-, -, before, -⟩ := ihl
    obtain ⟨-, -, -, after⟩ := ihr
    have conjunction : Reads .conjunction (left.and right).tokens (.and left right) :=
      .and before (.operand after)
    have group := (Reads.conjunction conjunction).bracketed
    exact ⟨.conjunction conjunction, .conjunction (.negation (.operand group)), conjunction, group⟩
  | or left right ihl ihr =>
    obtain ⟨-, before, -, -⟩ := ihl
    obtain ⟨-, -, -, after⟩ := ihr
    have whole : Reads .disjunction (left.or right).tokens (.or left right) :=
      .or before (.negation (.operand after))
    have group := whole.bracketed
    exact ⟨whole, whole, .negation (.operand group), group⟩

/-! ## Reading a text -/

theorem spelled_param_list (vs : List Value) :
    Spelled (separated .comma (vs.map fun v => [.param v])) := by
  refine spelled_separated fun ts hts => ?_
  obtain ⟨v, _, rfl⟩ := List.mem_map.1 hts
  exact .param .nil

theorem spelled_inWords (negated : Bool) : Spelled (inWords negated) := by
  cases negated with
  | true => exact .word (by decide) (.word (by decide) .nil)
  | false => exact .word (by decide) .nil

theorem spelled_test (t : Test) : Spelled t.tokens := by
  induction t with
  | compare path op value =>
    have operator : IsSpelled op.sql := by cases op <;> decide
    exact (spelled_columnTokens path).append (.word operator (.param .nil))
  | sameColumns left right =>
    exact (spelled_columnTokens left).append (.word (by decide) (spelled_columnTokens right))
  | sameValues left right => exact .param (.word (by decide) (.param .nil))
  | isNull path negated =>
    refine (spelled_columnTokens path).append ?_
    cases negated with
    | true => exact .word (by decide) (.word (by decide) (.word (by decide) .nil))
    | false => exact .word (by decide) (.word (by decide) .nil)
  | inValues path values negated =>
    have column := (spelled_columnTokens path).append (spelled_inWords negated)
    exact column.append (spelled_parenthesized (spelled_param_list values))
  | inRows path projection source where_ negated ih =>
    have column := (spelled_columnTokens path).append (spelled_inWords negated)
    have tail := Spelled.word (w := "FROM") (by decide)
      ((spelled_tableTokens source).append (.word (w := "WHERE") (by decide) ih))
    have inner := Spelled.word (w := "SELECT") (by decide)
      ((spelled_columnTokens projection).append tail)
    simpa [Test.tokens] using column.append (spelled_parenthesized inner)

theorem Spelled.bracketed {ts : List Token} (h : Spelled ts) (needed : Bool) :
    Spelled (Condition.bracketed needed ts) := by
  cases needed with
  | true => exact spelled_parenthesized h
  | false => exact h

theorem spelled_condition (c : Condition) : Spelled c.tokens := by
  induction c with
  | test t => exact spelled_test t
  | not inner ih => exact .word (by decide) (ih.bracketed _)
  | and left right ihl ihr | or left right ihl ihr =>
    exact (ihl.bracketed _).append (.word (by decide) (ihr.bracketed _))

end Listings.Sql
