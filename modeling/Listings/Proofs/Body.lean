import Listings.Proofs.Meaning
import Listings.Proofs.Parameters
import Listings.Proofs.Tiling

/-!
# The body of two statements

The statement that counts the rows of a request and the one that gives a page of them are written
apart from each other. Their tables and their condition are the same text, so that they are about the
same rows.

* `Shut`, `Shows`: how the text of a clause goes on and what it is.
* `Statement.text_eq`: the text of a statement clause by clause.
* `SameRows`: a statement that counts and one that gives a page have one body.
* `sameRows`: those of every request do, and the number is that of the rows on a page without an end.
-/

namespace Listings

open Store

namespace Sql

/-! ## The text of a clause -/

/-- What follows the token stands directly after it. -/
def Token.opens : Token → Bool
  | leftParen | dot | function _ => true
  | word _ | name _ | comma | rightParen | param _ => false

theorem Token.joins_word (t : Token) (w : String) : t.joins (.word w) = t.opens := by
  cases t <;> rfl

theorem Token.joins_name (t : Token) (s : String) : t.joins (.name s) = t.opens := by
  cases t <;> rfl

/-- A space stands between the last of the tokens and a word after them. -/
def Shut (ts : List Token) : Prop := ∀ before, (ts.getLastD before).opens = false

section Shut

variable {a b : List Token}

theorem shut_singleton {t : Token} (h : t.opens = false) : Shut [t] := fun _ => h

theorem Shut.cons (h : Shut a) (t : Token) : Shut (t :: a) := by
  intro before
  rw [List.getLastD_cons]
  exact h t

theorem Shut.append (h : Shut b) (a : List Token) : Shut (a ++ b) := by
  induction a with
  | nil => exact h
  | cons t a ih => exact ih.cons t

theorem shut_parenthesized (ts : List Token) : Shut (parenthesized ts) :=
  (shut_singleton rfl).append _

theorem shut_columnTokens (path : ColumnPath) : Shut (columnTokens path) := by
  unfold columnTokens
  split <;> exact fun _ => rfl

theorem shut_test (t : Test) : Shut t.tokens := by
  cases t with
  | compare path op value => exact ((shut_singleton rfl).cons _).append _
  | sameColumns left right => exact ((shut_columnTokens right).cons _).append _
  | sameValues left right => exact fun _ => rfl
  | isNull path negated =>
    refine Shut.append ?_ _
    cases negated <;> exact fun _ => rfl
  | inValues path values negated => exact (shut_parenthesized _).append _
  | inRows path projection table where_ negated => exact (shut_parenthesized _).append _

theorem Shut.bracketed (h : Shut a) (needed : Bool) : Shut (Condition.bracketed needed a) := by
  cases needed with
  | true => exact shut_parenthesized a
  | false => exact h

theorem shut_condition (c : Condition) : Shut c.tokens := by
  induction c with
  | test t => exact shut_test t
  | not inner ih => exact (ih.bracketed _).cons _
  | and left right ihl ihr | or left right ihl ihr => exact ((ihr.bracketed _).cons _).append _

theorem shut_leftJoin (join : LeftJoin) : Shut join.tokens := by
  obtain ⟨table, on⟩ := join
  refine (Shut.append ?_ _ : Shut ((.word "LEFT" :: .word "JOIN" :: tableTokens table) ++ _))
  cases on with
  | none => exact fun _ => rfl
  | some c => exact (shut_condition c).cons _

theorem Shut.flatMap {α : Type} {f : α → List Token} (h : Shut a) (hf : ∀ item, Shut (f item))
    (items : List α) : Shut (a ++ items.flatMap f) := by
  induction items generalizing a with
  | nil => rwa [List.flatMap_nil, List.append_nil]
  | cons item items ih =>
    rw [List.flatMap_cons, ← List.append_assoc]
    exact ih ((hf item).append a)

theorem shut_body (s : Select) : Shut s.bodyTokens := by
  have tables : Shut (.word "FROM" :: tableTokens s.source) := fun _ => rfl
  unfold Select.bodyTokens
  cases s.condition with
  | none =>
    rw [List.append_nil]
    exact tables.flatMap shut_leftJoin s.joins
  | some c => exact ((shut_condition c).cons _).append _

end Shut

/-- The text of tokens that hold no values, wherever a space stands before them. -/
structure Shows (ts : List Token) (text : String) : Prop where
  shut : Shut ts
  params : params ts = []
  render : ∀ dialect number before, before.opens = false →
    renderFrom dialect number before ts = ' ' :: text.toList

namespace Shows

variable {a b : List Token} {x y : String}

theorem append (ha : Shows a x) (hb : Shows b y) : Shows (a ++ b) (x ++ " " ++ y) := by
  refine ⟨hb.shut.append a, ?_, fun dialect number before h => ?_⟩
  · rw [params_append, ha.params, hb.params, List.append_nil]
  · rw [renderFrom_append, ha.render dialect number before h, hb.render dialect _ _ (ha.shut before)]
    simp

theorem comma (ha : Shows a x) (hb : Shows b y) : Shows (a ++ .comma :: b) (x ++ ", " ++ y) := by
  refine ⟨(hb.shut.cons _).append a, ?_, fun dialect number before h => ?_⟩
  · rw [params_append, ha.params, params_comma, hb.params, List.append_nil]
  · have after : ∀ number t, renderFrom dialect number t (.comma :: b) = ',' :: ' ' :: y.toList := by
      intro number t
      have joined : t.joins .comma = true := by cases t <;> rfl
      rw [renderFrom, if_pos joined, hb.render dialect _ .comma rfl]
      rfl
    rw [renderFrom_append, ha.render dialect number before h, after]
    simp

theorem word (w : String) : Shows [.word w] w := by
  refine ⟨shut_singleton rfl, rfl, fun dialect number before h => ?_⟩
  rw [renderFrom, Token.joins_word, h]
  exact List.append_nil _

/-- A list with commas between its items. -/
theorem separated {α : Type} {tokens : α → List Token} {text : α → String}
    (h : ∀ item, Shows (tokens item) (text item)) {items : List α} (ne : items ≠ []) :
    Shows (separated .comma (items.map tokens)) (", ".intercalate (items.map text)) := by
  induction items with
  | nil => exact absurd rfl ne
  | cons first rest ih =>
    cases rest with
    | nil => simpa using h first
    | cons second others =>
      rw [List.map_cons, List.map_cons, separated_cons_cons, List.map_cons, List.map_cons,
        String.intercalate_cons_cons]
      exact (h first).comma (ih (List.cons_ne_nil _ _))

end Shows

/-! ## The text of a statement -/

/-- A column in a text. -/
def columnText (path : ColumnPath) : String :=
  match path.parts with
  | (some table, column) => .ofList (Token.quoteName table ++ '.' :: Token.quoteName column)
  | (none, column) => .ofList (Token.quoteName column)

/-- What a select statement gives, in a text. -/
def Projection.text : Projection → String
  | count => "COUNT(*)"
  | everything => "*"
  | columns paths => ", ".intercalate (paths.map columnText)

/-- A sort key in a text. -/
def keyText (key : SortKey) : String :=
  columnText key.column ++ " "
    ++ (match key.direction with
        | .ascending => "ASC"
        | .descending => "DESC")
    ++ " NULLS LAST"

/-- The end of a text that an order makes up. -/
def orderText : SortOrder → String
  | .random => " ORDER BY RANDOM() ASC"
  | .byKeys [] => ""
  | .byKeys keys => " ORDER BY " ++ ", ".intercalate (keys.map keyText)

/-- The end of a text that a window makes up, after a number of placeholders. -/
def windowText (dialect : Dialect) (used : Nat) : String :=
  " LIMIT " ++ .ofList (Token.placeholder dialect (used + 1)) ++ " OFFSET "
    ++ .ofList (Token.placeholder dialect (used + 2))

/-- The text of the tables and the condition. -/
def Select.bodyText (s : Select) (dialect : Dialect) : String := .ofList (render dialect s.bodyTokens)

theorem shows_column (path : ColumnPath) : Shows (columnTokens path) (columnText path) := by
  refine ⟨shut_columnTokens path, params_columnTokens path, fun dialect number before h => ?_⟩
  unfold columnTokens columnText
  generalize path.parts = parts
  obtain ⟨_ | table, column⟩ := parts
  · dsimp only
    rw [renderFrom, Token.joins_name, h, String.toList_ofList]
    simp [renderFrom, Token.chars]
  · dsimp only
    rw [renderFrom, Token.joins_name, h, String.toList_ofList]
    simp [renderFrom, Token.joins, Token.chars]

theorem shows_projection {p : Projection} (h : p ≠ .columns []) : Shows p.tokens p.text := by
  cases p with
  | count =>
    refine ⟨(shut_parenthesized _).cons _, rfl, fun dialect number before h => ?_⟩
    have joined : before.joins (.function "COUNT") = before.opens := by cases before <;> rfl
    rw [Projection.tokens, renderFrom, joined, h]
    rfl
  | everything => exact .word "*"
  | columns paths => exact .separated shows_column fun nil => h (by rw [nil])

theorem shows_key (key : SortKey) : Shows (keyTokens key) (keyText key) := by
  have words (w : String) := (((shows_column key.column).append (.word w)).append
    (.word "NULLS")).append (.word "LAST")
  unfold keyTokens keyText
  cases key.direction with
  | ascending => simpa [String.append_assoc] using words "ASC"
  | descending => simpa [String.append_assoc] using words "DESC"

/-- The text of an order, if there is one. -/
theorem shows_order {order : SortOrder} (h : order ≠ .byKeys []) :
    ∃ text, Shows (orderTokens order) text ∧ orderText order = " " ++ text := by
  have words := (Shows.word "ORDER").append (.word "BY")
  cases order with
  | random =>
    refine ⟨"ORDER BY RANDOM() ASC", ⟨fun _ => rfl, rfl, fun dialect number before h => ?_⟩, rfl⟩
    simp only [orderTokens, orderWords, List.cons_append, renderFrom, Token.joins_word, h]
    rfl
  | byKeys keys =>
    cases keys with
    | nil => exact absurd rfl h
    | cons key keys =>
      refine ⟨_, words.append (.separated shows_key (List.cons_ne_nil key keys)), ?_⟩
      simp [orderText, ← String.append_assoc]

/-- An order is written, and then what follows it. -/
theorem renderFrom_order (order : SortOrder) (dialect : Dialect) (number : Nat) {before : Token}
    (h : before.opens = false) :
    ∃ after : Token, after.opens = false ∧ ∀ ts,
      renderFrom dialect number before (orderTokens order ++ ts)
        = (orderText order).toList ++ renderFrom dialect number after ts := by
  by_cases none : order = .byKeys []
  · subst none
    exact ⟨before, h, fun ts => rfl⟩
  · obtain ⟨text, clause, same⟩ := shows_order none
    refine ⟨_, clause.shut before, fun ts => ?_⟩
    rw [renderFrom_append, clause.render _ _ _ h, clause.params, same, String.toList_append]
    rfl

/-- What follows the body of a statement, after a number of placeholders. -/
theorem renderFrom_tail (s : Select) (dialect : Dialect) (used : Nat) {before : Token}
    (h : before.opens = false) :
    renderFrom dialect (used + 1) before s.tailTokens
      = (orderText s.order ++ s.window.elim "" fun _ => windowText dialect used).toList := by
  obtain ⟨after, shut, order⟩ := renderFrom_order s.order dialect (used + 1) h
  unfold Select.tailTokens
  rw [order, String.toList_append]
  congr 1
  cases s.window with
  | none => rfl
  | some w =>
    show renderFrom dialect (used + 1) after w.tokens = _
    rw [Window.tokens, renderFrom, Token.joins_word, shut]
    simp [windowText, renderFrom, Token.joins, Token.param?, Token.chars]

theorem Select.tokens_eq (s : Select) :
    s.tokens = .word "SELECT" :: (s.projection.tokens ++ (s.bodyTokens ++ s.tailTokens)) := by
  obtain ⟨projection, source, joins, condition, order, window⟩ := s
  cases window <;> simp [tokens, tailTokens]

/-- The parameters of a statement are those of its body and those of its window. -/
theorem Select.params_tokens (s : Select) :
    params s.tokens = params s.bodyTokens ++ s.window.elim [] Window.values := by
  have tail : params s.tailTokens = s.window.elim [] Window.values := by
    unfold tailTokens
    rw [params_append, params_order]
    cases s.window <;> rfl
  rw [tokens_eq, params_word, params_append, params_projection, params_append, tail]
  rfl

/-- The text of a statement, clause by clause. -/
theorem Statement.text_eq (s : Statement) (h : s.select.projection ≠ .columns []) :
    s.text = "SELECT " ++ s.select.projection.text ++ " " ++ s.select.bodyText s.dialect
      ++ orderText s.select.order
      ++ s.select.window.elim "" fun _ =>
          windowText s.dialect (Sql.params s.select.bodyTokens).length := by
  obtain ⟨select, dialect⟩ := s
  have projection := shows_projection h
  have body {before : Token} (shut : before.opens = false) :
      renderFrom dialect 1 before select.bodyTokens = ' ' :: render dialect select.bodyTokens := by
    rw [Select.bodyTokens, List.cons_append, List.cons_append, renderFrom, Token.joins_word, shut]
    rfl
  have head {ts : List Token} : render dialect (.word "SELECT" :: ts)
      = "SELECT".toList ++ renderFrom dialect 1 (.word "SELECT") ts := rfl
  rw [← String.toList_inj, text, String.toList_ofList, Select.tokens_eq, head, renderFrom_append,
    projection.render _ _ _ rfl, projection.params, List.length_nil, renderFrom_append,
    body (projection.shut _), Nat.add_zero, Nat.add_comm 1,
    renderFrom_tail select dialect _ (shut_body select _)]
  simp [Select.bodyText]

end Sql

/-! ## The statements of a request -/

/-- The body of the statements of a base query and a filter: `FROM`, the joins and `WHERE`. -/
def BaseQuery.bodyText (base : BaseQuery) (filter : Option Predicate) (dialect : Sql.Dialect) :
    String :=
  (base.select filter base.projection).bodyText dialect

/-- Two statements are about the same rows: one counts them, and one gives a page of them. -/
structure SameRows (base : BaseQuery) (filter : Option Predicate) (order : SortOrder)
    (request : PageRequest) (dialect : Sql.Dialect) (s : Statements) : Prop where
  /-- The number is selected from the body. -/
  count_text : s.count.text = "SELECT COUNT(*) " ++ base.bodyText filter dialect
  /-- The columns are selected from the same body, in order, and up to a limit if a page has one. -/
  page_text : s.page.text
    = "SELECT " ++ base.projection.text ++ " " ++ base.bodyText filter dialect
      ++ Sql.orderText order
      ++ if 0 < request.perPage then Sql.windowText dialect s.count.params.length else ""
  /-- The parameters of the page begin with those of the count. -/
  params : s.page.params
    = s.count.params
      ++ if 0 < request.perPage then [.integer request.perPage, .integer request.offset] else []
  /-- The count depends on the tables and the condition only. -/
  count_eq : ∀ selected order' request',
    (statements { base with selected } filter order' request' dialect).count = s.count
  /-- It counts the rows that a page without a size holds. -/
  rows : ∀ (db : Database) (page size : Int64), size ≤ 0 → ∀ records,
    db.MayAnswer (statements base filter order ⟨page, size⟩ dialect).page.select records →
      db.count s.count.select = .ofNat records.length

/-- An answer without a window has as many rows as match. -/
theorem Store.Database.MayAnswer.length_eq {db : Database} {s : Sql.Select} {records : List Record}
    (h : db.MayAnswer s records) (unlimited : s.window = none) :
    records.length = (db.matching s).length := by
  obtain ⟨frames, arranged, rfl⟩ := h
  rw [List.length_map, unlimited]
  exact arranged.1.length_eq

theorem BaseQuery.projection_ne (base : BaseQuery) : base.projection ≠ .columns [] := by
  unfold projection
  split
  · nofun
  · next named =>
    intro nil
    rw [Sql.Projection.columns.injEq] at nil
    exact named (List.isEmpty_iff.2 nil)

/-- The two statements of a request are about the same rows. -/
theorem sameRows (base : BaseQuery) (filter : Option Predicate) (order : SortOrder)
    (request : PageRequest) (dialect : Sql.Dialect) :
    SameRows base filter order request dialect
      (statements base filter order request dialect) := by
  let s := statements base filter order request dialect
  let body := (base.select filter base.projection).bodyTokens
  have count : s.count.params = Sql.params body :=
    (Sql.Select.params_tokens s.count.select).trans (List.append_nil _)
  have window : request.window?.elim [] Sql.Window.values
      = if 0 < request.perPage then [.integer request.perPage, .integer request.offset] else [] := by
    unfold PageRequest.window?
    split <;> rfl
  refine ⟨?_, ?_, ?_, fun _ _ _ => rfl, ?_⟩
  · have text : s.count.text
        = "SELECT " ++ "COUNT(*)" ++ " " ++ base.bodyText filter dialect ++ "" ++ "" :=
      s.count.text_eq nofun
    simpa using text
  · have text := s.page.text_eq base.projection_ne
    rw [count]
    refine text.trans (congrArg _ ?_)
    show request.window?.elim "" _ = _
    unfold PageRequest.window?
    split <;> rfl
  · rw [← window, count]
    exact Sql.Select.params_tokens s.page.select
  · intro db page size unlimited records answer
    have none : PageRequest.window? ⟨page, size⟩ = none := if_neg (Int64.not_lt.2 unlimited)
    rw [answer.length_eq none]
    rfl

end Listings
