import Listings.Proofs.Conditions
import Listings.Proofs.Parsing
import Listings.Proofs.Placeholders
import Listings.Proofs.Tokenizing
import Listings.Request

/-!
# Constants and parameters

What becomes of the constants of a filter from its text to the parameters of a statement. Null is a
test of its own and is not bound.

* `Filter.Spells`: the constant that a token text spells.
* `Filter.constants_of_derives`: the constants of an expression are those of its tokens.
* `Expr.uses`: the constants of an accepted expression, each with the place where it stands.
* `Sql.Condition.bindings`: the parameters of a condition, each with the column beside it.
* `Entity.Binds`: the parameter that a constant becomes, of which there is one.
* `compileFilter_bindsAll`: the constants of a filter become its parameters, one by one and in order.
-/

namespace Listings

/-! ## From the text to the tokens -/

namespace Filter

/-- The constant that a token of a kind stands for. -/
def TokenKind.constant? : TokenKind → Option Literal
  | text s => some (.text s)
  | number n => some (.number n)
  | word _ | symbol _ => none

/-- The constant that a token stands for. -/
def Token.constant? (t : Token) : Option Literal := t.kind.constant?

/-- A token text spells a constant: text in double quotes, its escapes replaced, text in back quotes as
it stands, or a number. -/
inductive Spells : List Char → Literal → Prop
  | quoted {body s : List Char} (h : unescape body = .ok s) :
      Spells ('"' :: body ++ ['"']) (.text (.ofList s))
  | raw (body : List Char) : Spells (backQuote :: body ++ [backQuote]) (.text (.ofList body))
  | number {text : List Char} {n : Number} (h : numberOf text = .ok n) : Spells text (.number n)

/-- A lexeme spells the constant that it stands for. -/
theorem Means.spells {shape : Shape} {text : List Char} {kind : TokenKind} {l : Literal}
    (h : Means shape text kind) (constant : kind.constant? = some l) : Spells text l := by
  have decoded := h.decode
  cases h with
  | word | symbol => cases constant
  | quoted escapes =>
    cases constant
    exact .quoted escapes.unescape
  | raw body =>
    cases constant
    exact .raw body
  | integer | real =>
    cases constant
    obtain ⟨n, read, same⟩ := map_eq_ok_iff.1 decoded
    cases same
    exact .number read

/-- The tokens of a filter spell the constants that they stand for. -/
theorem spells_of_tokensFrom {offset : Nat} {cs : List Char} {ts : List Token}
    (h : tokensFrom offset cs = .ok ts) :
    ∀ t ∈ ts, ∀ l, t.constant? = some l → Spells t.text.toList l := by
  intro t ht l constant
  obtain ⟨before, rest, shape, -, -, -, means⟩ := (tokensFrom_eq_ok_iff.1 h).of_mem t ht
  exact means.spells constant

/-! ## From the tokens to the expression -/

end Filter

mutual

/-- The constants of an expression but for null, from left to right. -/
def Expr.constants : Expr → List Literal
  | .binary _ left right => left.constants ++ right.constants
  | .not inner => inner.constants
  | .call _ args => Expr.constantsOf args
  | .name _ | .literal .null => []
  | .literal l => [l]

/-- The constants of several expressions. -/
def Expr.constantsOf : List Expr → List Literal
  | [] => []
  | e :: es => e.constants ++ constantsOf es

end

namespace Filter

/-- The constants of what a part stands for. -/
def Part.constants : (part : Part) → part.Meaning → List Literal
  | .arguments, es => Expr.constantsOf es
  | .primary, e | .unary, e | .comparison, e | .conjunction _, e | .disjunction _, e => e.constants

theorem constant?_word {t : Token} {w : String} (ht : t.kind = .word w) : t.constant? = none := by
  rw [Token.constant?, ht, TokenKind.constant?]

theorem constant?_symbol {t : Token} {s : Symbol} (ht : t.kind = .symbol s) :
    t.constant? = none := by
  rw [Token.constant?, ht, TokenKind.constant?]

/-- The constants of a part are those of its tokens, in their order. -/
theorem constants_of_derives {part : Part} {ts : List Token} {m : part.Meaning}
    {levels : List Nat} (h : Derives part ts m levels) :
    ts.filterMap Token.constant? = part.constants m := by
  -- The parts of a part follow each other in its tokens as they do in what it stands for; the words
  -- and symbols between them are no constants.
  induction h with
  | text ht | number ht | null ht | name ht =>
    simp [Token.constant?, TokenKind.constant?, ht, Part.constants, Expr.constants]
  | group ht _ hu ih =>
    simp only [Part.constants] at ih ⊢
    simp [constant?_symbol ht, constant?_symbol hu, ih]
  | callEmpty hf _ ht hu =>
    simp [constant?_word hf, constant?_symbol ht, constant?_symbol hu, Part.constants,
      Expr.constants, Expr.constantsOf]
  | call hf _ ht _ hu ih =>
    simp only [Part.constants] at ih ⊢
    simp [constant?_word hf, constant?_symbol ht, constant?_symbol hu, ih, Expr.constants]
  | primary _ ih | unary _ ih | comparison _ ih | conjunction _ ih => exact ih
  | not ht _ ih =>
    simp only [Part.constants] at ih ⊢
    simp [constant?_symbol ht, ih, Expr.constants]
  | compare _ ht _ ihl ihr | and _ ht _ ihl ihr | or _ ht _ ihl ihr =>
    simp only [Part.constants] at ihl ihr ⊢
    simp [constant?_symbol ht, ihl, ihr, Expr.constants]
  | argument _ ih =>
    simp only [Part.constants] at ih ⊢
    simp [ih, Expr.constantsOf]
  | arguments _ ht _ ihf ih =>
    simp only [Part.constants] at ihf ih ⊢
    simp [constant?_symbol ht, ihf, ih, Expr.constantsOf]

end Filter

/-! ## From the expression to its conditions -/

/-- Where a constant stands in a filter. -/
inductive Place where
  /-- After a field, with a comparator between them. -/
  | compared (op : Comparator) (field : String)
  /-- Among the constants that a field is looked for in. -/
  | listed (field : String)
  /-- Among the arguments of a function of the entity. -/
  | argument (function : String)

/-- The constants of an accepted expression but for null, from left to right, with their places. -/
def Expr.uses : Expr → List (Place × Literal)
  | .binary .and left right | .binary .or left right => left.uses ++ right.uses
  | .not inner => inner.uses
  | .binary (.compare op) (.name field) right => right.constants.map (.compared op field, ·)
  | .call function args =>
    if function = Entity.membershipFunction then
      match args with
      | .name field :: others => (Expr.constantsOf others).map (.listed field, ·)
      | _ => []
    else (Expr.constantsOf args).map (.argument function, ·)
  | _ => []

theorem Expr.uses_call {function : String} (hf : function ≠ Entity.membershipFunction)
    (args : List Expr) :
    (call function args).uses = (Expr.constantsOf args).map (.argument function, ·) := by
  unfold uses
  exact if_neg hf

theorem Expr.uses_eq (e : Expr) : e.uses = e.conditions.flatMap Expr.uses :=
  Expr.eq_flatMap_conditions (fun _ _ => rfl) (fun _ _ => rfl) (fun _ => rfl) e

/-- No constant of an accepted expression is left out. -/
theorem Resolves.constants_eq {entity : Entity} {e : Expr} {p : Predicate}
    (h : Resolves entity e p) : e.constants = e.uses.map Prod.snd := by
  induction h with
  | and _ _ ihl ihr | or _ _ ihl ihr =>
    rw [Expr.constants, Expr.uses, ihl, ihr, List.map_append]
  | not _ ih => rw [Expr.constants, Expr.uses, ih]
  | isNull => rfl
  | compare => simp [Expr.constants, Expr.uses]
  | member => simp [Expr.constants, Expr.uses, Expr.constantsOf]
  | inColumn hf | inTable hf => simp [Expr.constants, Expr.uses_call hf]

/-! ## From a condition to its parameters -/

namespace Sql

/-- The values in a test, each with the column that it is compared with, if it is compared with one. -/
def Test.bindings : Test → List (Option ColumnPath × Value)
  | compare path _ v => [(some path, v)]
  | sameColumns _ _ | isNull _ _ => []
  | sameValues v w => [(none, v), (none, w)]
  | inValues path vs _ => vs.map (some path, ·)
  | inRows _ _ _ where_ _ => where_.bindings

/-- The values in a condition, each with the column that it is compared with. -/
def Condition.bindings : Condition → List (Option ColumnPath × Value)
  | test t => t.bindings
  | not inner => inner.bindings
  | and left right | or left right => left.bindings ++ right.bindings

theorem Test.values_eq_bindings (t : Test) : t.values = t.bindings.map Prod.snd := by
  induction t with
  | inValues path vs negated => simp [values, bindings]
  | inRows path projection table where_ negated ih => exact ih
  | _ => rfl

/-- The parameters of a condition are the values in it. -/
theorem params_eq_bindings (c : Condition) : params c.tokens = c.bindings.map Prod.snd := by
  rw [params_condition]
  induction c with
  | test t => exact t.values_eq_bindings
  | not inner ih => exact ih
  | and left right ihl ihr | or left right ihl ihr =>
    rw [Condition.values, Condition.bindings, ihl, ihr, List.map_append]

theorem bindings_memberTest {vs : List Value} (ne : vs ≠ []) (path : ColumnPath) (negated : Bool) :
    (memberTest path vs negated).bindings = vs.map (some path, ·) := by
  rw [memberTest, if_neg (by simpa using ne), Test.bindings]

end Sql

namespace Entity

/-- The parameter that a constant of a filter becomes, with the column that it is compared with. -/
inductive Binds (entity : Entity) : Place × Literal → Option ColumnPath × Value → Prop
  /-- A field is compared with the value that the constant stands for. -/
  | compared {op : Comparator} {field : String} {column : Column} {l : Literal} {v : Value}
      (hc : entity.column? field = some column) (ho : op ∈ entity.operators column)
      (hv : column.kind.Denotes l v) (plain : op ≠ .like ∨ column.kind ≠ .number) :
      Binds entity (.compared op field, l) (some column.path, v)
  /-- A field that holds numbers is matched with the number as it is shown. -/
  | pattern {field : String} {column : Column} {l : Literal} {v : Value}
      (hc : entity.column? field = some column) (ho : .like ∈ entity.operators column)
      (hv : column.kind.Denotes l v) (number : column.kind = .number) :
      Binds entity (.compared .like field, l) (some column.path, .text v.write)
  | listed {field : String} {column : Column} {l : Literal} {v : Value}
      (hc : entity.column? field = some column) (hv : column.kind.Denotes l v) :
      Binds entity (.listed field, l) (some column.path, v)
  | inColumn {function field : String} {column : Column} {l : Literal} {v : Value}
      (found : entity.function? function = some (.inColumn field))
      (hc : entity.column? field = some column) (hv : column.kind.Denotes l v) :
      Binds entity (.argument function, l) (some column.path, v)
  /-- A member of an association is looked for by its id. -/
  | inTable {function association name stored : String} {id : ColumnPath} {table : Association}
      (found : entity.function? function = some (.inTable association id))
      (ht : entity.association? association = some table)
      (hs : entity.Stores association name stored) :
      Binds entity (.argument function, .text name) (some table.member, .text stored)

variable {entity : Entity}

/-- A constant in a place becomes no more than one parameter. -/
theorem Binds.unique {use : Place × Literal} {binding binding' : Option ColumnPath × Value}
    (h : entity.Binds use binding) (h' : entity.Binds use binding') : binding = binding' := by
  have same {field : String} {column column' : Column} (hc : entity.column? field = some column)
      (hc' : entity.column? field = some column') : column = column' :=
    Option.some.inj (hc.symm.trans hc')
  cases h with
  | compared hc _ hv plain =>
    cases h' with
    | compared hc' _ hv' =>
      cases same hc hc'
      rw [hv.unique hv']
    | pattern hc' _ _ number =>
      cases same hc hc'
      exact absurd number (plain.resolve_left (absurd rfl))
  | pattern hc _ hv number =>
    cases h' with
    | compared hc' _ _ plain =>
      cases same hc hc'
      exact absurd number (plain.resolve_left (absurd rfl))
    | pattern hc' _ hv' =>
      cases same hc hc'
      rw [hv.unique hv']
  | listed hc hv =>
    cases h' with
    | listed hc' hv' =>
      cases same hc hc'
      rw [hv.unique hv']
  | inColumn found hc hv =>
    cases h' with
    | inColumn found' hc' hv' =>
      cases found.symm.trans found'
      cases same hc hc'
      rw [hv.unique hv']
    | inTable found' => cases found.symm.trans found'
  | inTable found ht hs =>
    cases h' with
    | inColumn found' => cases found.symm.trans found'
    | inTable found' ht' hs' =>
      cases found.symm.trans found'
      cases ht.symm.trans ht'
      cases hs.1.symm.trans hs'.1
      rfl

theorem constantsOf_of_denotes {kind : Kind} {ls : List Literal} {vs : List Value}
    (h : List.Forall₂ kind.Denotes ls vs) : Expr.constantsOf (ls.map .literal) = ls := by
  induction h with
  | nil => rfl
  | cons denotes _ ih =>
    rw [List.map_cons, Expr.constantsOf, ih]
    cases denotes <;> rfl

theorem constantsOf_texts (names : List String) :
    Expr.constantsOf (names.map fun s => .literal (.text s)) = names.map .text := by
  induction names with
  | nil => rfl
  | cons name names ih => rw [List.map_cons, Expr.constantsOf, ih]; rfl

/-- The constant of a comparison becomes its operand. -/
theorem binds_operand {op : Comparator} {field : String} {column : Column} {l : Literal} {v : Value}
    (hc : entity.column? field = some column) (ho : op ∈ entity.operators column)
    (hv : column.kind.Denotes l v) :
    entity.Binds (.compared op field, l) (some column.path, Sql.operand op v) := by
  by_cases like : op = .like
  · subst like
    by_cases number : column.kind = .number
    · have shown : v.pattern = .text v.write := by
        rw [number] at hv
        cases hv <;> rfl
      rw [Sql.operand, shown]
      exact .pattern hc ho hv number
    · have text : v.pattern = v := by
        generalize column.kind = kind at hv number
        cases hv with
        | text | date => rfl
        | integer | real => exact absurd rfl number
      rw [Sql.operand, text]
      exact .compared hc ho hv (.inr number)
  · have same : Sql.operand op v = v := by
      cases op <;> first | rfl | exact absurd rfl like
    rw [same]
    exact .compared hc ho hv (.inl like)

/-- A column is looked for among the values that constants stand for. -/
theorem binds_memberTest {place : Place} {path : ColumnPath} {ls : List Literal} {vs : List Value}
    (h : List.Forall₂ (fun l v => entity.Binds (place, l) (some path, v)) ls vs) (ne : ls ≠ [])
    (negated : Bool) :
    List.Forall₂ entity.Binds (ls.map (place, ·)) (Sql.memberTest path vs negated).bindings := by
  rw [Sql.bindings_memberTest (ne_nil_of_forall₂ h ne)]
  exact List.forall₂_map_left_iff.2 (List.forall₂_map_right_iff.2 h)

/-- The constants of conditions become the parameters of a predicate that consists of their tests. -/
theorem binds_tests (p : Predicate) {cs : List Expr} (h : List.Forall₂ entity.Tests cs p.tests) :
    List.Forall₂ entity.Binds (cs.flatMap Expr.uses) p.condition.bindings := by
  -- Not on the expression: its negations are pushed into the tests, whose bindings stay the same.
  induction p generalizing cs with
  | and left right ihl ihr | or left right ihl ihr =>
    rw [← List.take_append_drop left.tests.length cs, List.flatMap_append]
    exact List.rel_append (ihl (List.forall₂_take_append cs _ _ h))
      (ihr (List.forall₂_drop_append cs _ _ h))
  | not inner ih => exact ih h
  | isNull column negated =>
    obtain _ | ⟨test, ⟨⟩⟩ := h
    cases test
    exact .nil
  | compare op column v =>
    obtain _ | ⟨test, ⟨⟩⟩ := h
    rw [List.flatMap_singleton]
    cases test with
    | @compare _ field _ l _ hc ho hv =>
      have constants := constantsOf_of_denotes (.cons hv .nil)
      simp only [List.map_cons, List.map_nil, Expr.constantsOf, List.append_nil] at constants
      rw [Expr.uses, constants]
      exact .cons (binds_operand hc ho hv) .nil
  | oneOf column vs negated =>
    obtain _ | ⟨test, ⟨⟩⟩ := h
    rw [List.flatMap_singleton]
    cases test with
    | member ne hc hv =>
      rw [Expr.uses, if_pos rfl, constantsOf_of_denotes hv]
      exact binds_memberTest (hv.imp fun _ _ => .listed hc) ne negated
    | inColumn hf found ne hc hv =>
      rw [Expr.uses_call hf, constantsOf_of_denotes hv]
      exact binds_memberTest (hv.imp fun _ _ => .inColumn found hc) ne negated
  | linked association id members negated =>
    obtain _ | ⟨test, ⟨⟩⟩ := h
    rw [List.flatMap_singleton]
    cases test with
    | @inTable function _ _ _ names _ hf found ne ht hm =>
      rw [Expr.uses_call hf, constantsOf_texts]
      have bound := hm.imp fun _ _ => Binds.inTable found ht
      refine binds_memberTest ?_ (by simpa using ne) false
      exact List.forall₂_map_left_iff.2 (List.forall₂_map_right_iff.2 bound)

end Entity

/-! ## The whole way -/

/-- The constants of a filter with these tokens and this expression are the parameters of the condition
of a predicate, each once and in the order of the text. -/
structure Entity.BindsAll (entity : Entity) (ts : List Filter.Token) (e : Expr) (p : Predicate) :
    Prop where
  spelled : ∀ t ∈ ts, ∀ l, t.constant? = some l → Filter.Spells t.text.toList l
  uses : ts.filterMap Filter.Token.constant? = e.uses.map Prod.snd
  binds : List.Forall₂ entity.Binds e.uses p.condition.bindings
  params : Sql.params p.condition.tokens = p.condition.bindings.map Prod.snd

/-- The parameters of the condition of a filter are the texts and the numbers in it. -/
theorem compileFilter_bindsAll {entity : Entity} (plain : entity.TestsMembership) {filter : String}
    {p : Predicate} (h : entity.compileFilter filter = .ok (some p)) :
    ∃ ts e, Filter.tokens filter = .ok ts ∧ Expr.parse filter = .ok e ∧ entity.BindsAll ts e p := by
  unfold Entity.compileFilter at h
  split at h
  · cases h
  · obtain ⟨p, understood, same⟩ := map_eq_ok_iff.1 (mapError_eq_ok_iff.1 h)
    cases same
    obtain ⟨e, parsed, resolved⟩ := bind_eq_ok_iff.1 understood
    have parsed := mapError_eq_ok_iff.1 parsed
    have resolves := (Entity.resolve_eq_ok_iff plain).1 (mapError_eq_ok_iff.1 resolved)
    obtain ⟨ts, read, located⟩ := bind_eq_ok_iff.1 parsed
    obtain ⟨k, levels, derives, -⟩ :=
      Filter.exprOf_eq_ok_iff_within.1 (mapError_eq_ok_iff.1 located)
    refine ⟨ts, e, read, parsed, ?_⟩
    constructor
    case spelled => exact Filter.spells_of_tokensFrom read
    case uses => exact (Filter.constants_of_derives derives).trans resolves.constants_eq
    case binds =>
      rw [e.uses_eq]
      exact Entity.binds_tests p resolves.tests
    case params => exact Sql.params_eq_bindings p.condition

namespace Catalog

/-- Media, where everything can be matched with a pattern. -/
def mediaByPattern : Entity :=
  { media with operators := fun column => .like :: Comparator.ofKind column.kind }

/-- A filter with a constant in every place. -/
def mixedFilter : String :=
  "score % 8 && !(title == \"\\\"\" || malId != null) && endDate > \" 2024-1-5\" && "
    ++ "in(score, -9) && !hasTag(\x60A B\x60, \"C\")"

/-- The predicate of the filter. -/
def mixedPredicate : Predicate :=
  .and
    (.and
      (.and
        (.and
          (.compare .like (.optional .number "media.score") (.integer 8))
          (.not (.or
            (.compare .equal (.required .string "media.title") (.text "\""))
            (.isNull (.optional .string "media.mal_id") true))))
        (.compare .greater (.optional .date "media.end_date") (.text "2024-01-05")))
      (.oneOf (.optional .number "media.score") [.integer (-9)] false))
    (.linked ⟨⟨"media_tags"⟩, ⟨"media_id"⟩, ⟨"tag_slug"⟩⟩ ⟨"media.id"⟩ ["a-b", "c"] true)

example :
    mixedPredicate.condition.bindings =
      [(some ⟨"media.score"⟩, .text "8"), (some ⟨"media.title"⟩, .text "\""),
        (some ⟨"media.end_date"⟩, .text "2024-01-05"), (some ⟨"media.score"⟩, .integer (-9)),
        (some ⟨"tag_slug"⟩, .text "a-b"), (some ⟨"tag_slug"⟩, .text "c")] := by
  decide +kernel

theorem compileFilter_bindsAll_mixedFilter :
    mediaByPattern.TestsMembership ∧
      mediaByPattern.compileFilter mixedFilter = .ok (some mixedPredicate) ∧
      ∃ ts e, Filter.tokens mixedFilter = .ok ts ∧ Expr.parse mixedFilter = .ok e ∧
        mediaByPattern.BindsAll ts e mixedPredicate := by
  have plain : mediaByPattern.TestsMembership :=
    testsMembership_of_table [hasTag "media.id", hasType, hasStatus] rfl
      (by simp [hasTag, hasType, hasStatus])
  have compiled : mediaByPattern.compileFilter mixedFilter = .ok (some mixedPredicate) :=
    toOption_eq_some_iff.1 (by decide +kernel)
  exact ⟨plain, compiled, compileFilter_bindsAll plain compiled⟩

end Catalog

end Listings
