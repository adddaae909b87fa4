import Listings.Proofs.Acceptance
import Listings.Proofs.Parsing
import Listings.Proofs.SortGrammar
import Listings.Proofs.Tokenizing
import Listings.Request

/-!
# Reserved words

An entity is asked only about the words of a request. Some words it is never asked about, so that it
cannot give them a meaning.

* `Expr.words`: the names and the functions in an expression.
* `Filter.nullWord_notMem_of_derives`: null is neither of them.
* `SortRequest.field_ne_randomWord`: no field to sort by has the name that asks for a random order.
* `Entity.AgreesBut`: entities that differ in their answers to some words only.
* `Entity.AgreesBut.resolve_eq`: an expression without these words has one meaning.
* `Entity.compile_ignores_reserved`: what an entity has under a reserved word makes no difference.
-/

namespace Listings

/-! ## The words of a request -/

mutual

/-- The names and the functions in an expression, from left to right. -/
def Expr.words : Expr → List String
  | .binary _ left right => left.words ++ right.words
  | .not inner => inner.words
  | .call function args => function :: Expr.wordsOf args
  | .name word => [word]
  | .literal _ => []

/-- The names and the functions in several expressions. -/
def Expr.wordsOf : List Expr → List String
  | [] => []
  | e :: es => e.words ++ wordsOf es

end

namespace Filter

/-- The names and the functions in what a part stands for. -/
def Part.words : (part : Part) → part.Meaning → List String
  | .arguments, es => Expr.wordsOf es
  | .primary, e | .unary, e | .comparison, e | .conjunction _, e | .disjunction _, e => e.words

/-- Null is no name and no function: wherever it stands, it is the constant. -/
theorem nullWord_notMem_of_derives {part : Part} {ts : List Token} {m : part.Meaning}
    {levels : List Nat} (h : Derives part ts m levels) : nullWord ∉ part.words m := by
  -- Words come in as names and as functions only, where the grammar asks for another word.
  induction h with
  | text | number | null => exact List.not_mem_nil
  | name _ hw => simpa [Part.words, Expr.words] using hw.symm
  | callEmpty _ hw => simpa [Part.words, Expr.words, Expr.wordsOf] using hw.symm
  | call _ hw _ _ _ ih =>
    simp only [Part.words, Expr.words, List.mem_cons, not_or] at ih ⊢
    exact ⟨hw.symm, ih⟩
  | group _ _ _ ih | primary _ ih | not _ _ ih | unary _ ih | comparison _ ih
  | conjunction _ ih => exact ih
  | compare _ _ _ ihl ihr | and _ _ _ ihl ihr | or _ _ _ ihl ihr =>
    simp only [Part.words, Expr.words, List.mem_append, not_or] at ihl ihr ⊢
    exact ⟨ihl, ihr⟩
  | argument _ ih => simpa [Part.words, Expr.wordsOf] using ih
  | arguments _ _ _ ihf ih =>
    simp only [Part.words, Expr.wordsOf, List.mem_append, not_or] at ihf ih ⊢
    exact ⟨ihf, ih⟩

end Filter

/-- No filter is read as an expression with null as a name or as a function. -/
theorem Expr.nullWord_notMem_of_parse {filter : String} {e : Expr} (h : Expr.parse filter = .ok e) :
    Filter.nullWord ∉ e.words := by
  obtain ⟨ts, -, located⟩ := bind_eq_ok_iff.1 h
  obtain ⟨k, levels, derives, -⟩ := Filter.exprOf_eq_ok_iff_within.1 (mapError_eq_ok_iff.1 located)
  exact Filter.nullWord_notMem_of_derives derives

/-- No field to sort by has the name that asks for a random order. -/
theorem SortRequest.field_ne_randomWord {text : String} {items : List SortField}
    (h : parse text = .ok (.fields items)) : ∀ f ∈ items, f.field ≠ randomWord := by
  obtain ⟨body, -, asks⟩ := parse_eq_ok_iff.1 h
  cases asks with
  | fields listed divided wished =>
    clear h listed divided
    induction wished with
    | nil => nofun
    | cons first _ ih =>
      cases first with
      | field _ _ other => exact List.forall_mem_cons.2 ⟨other, ih⟩

namespace Entity

/-! ## Entities that agree -/

/-- Two entities have the same answers, but for what is under some names of fields and under some
names of functions. -/
structure AgreesBut (fields functions : List String) (a b : Entity) : Prop where
  defaultSort : a.defaultSort = b.defaultSort
  column : ∀ field ∉ fields, a.column? field = b.column? field
  operators : a.operators = b.operators
  id : a.id? = b.id?
  association : a.association? = b.association?
  function : ∀ function ∉ functions, a.function? function = b.function? function

/-- The functions of an entity, but for those with some names, test none of some fields. -/
def Avoids (fields functions : List String) (entity : Entity) : Prop :=
  ∀ function ∉ functions, ∀ field ∈ fields, entity.function? function ≠ some (.inColumn field)

/-- The words are not among the fields and functions, but for the general membership function, which
is no function of an entity. -/
def Spares (fields functions words : List String) : Prop :=
  ∀ word ∈ words, word ∉ fields ∧ (word ≠ membershipFunction → word ∉ functions)

theorem spares_append_iff {fields functions words words' : List String} :
    Spares fields functions (words ++ words') ↔
      Spares fields functions words ∧ Spares fields functions words' :=
  List.forall_mem_append

theorem spares_cons_iff {fields functions words : List String} {word : String} :
    Spares fields functions (word :: words) ↔
      (word ∉ fields ∧ (word ≠ membershipFunction → word ∉ functions)) ∧
        Spares fields functions words :=
  List.forall_mem_cons

namespace AgreesBut

variable {fields functions : List String} {a b : Entity} (h : AgreesBut fields functions a b)
include h

theorem column_eq {field : String} (other : field ∉ fields) : a.column field = b.column field := by
  rw [Entity.column, Entity.column, h.column field other]

theorem inColumn_eq {field : String} (other : field ∉ fields) (function : String)
    (args : List Expr) : a.inColumn function field args = b.inColumn function field args := by
  rw [inColumn, inColumn, h.column_eq other]

/-- Associations have nothing to do with fields and functions. -/
theorem inTable_eq : a.inTable = b.inTable := by
  have members : a.member = b.member := by
    funext function association arg
    rw [member, member, h.id]
  funext function association id args
  rw [inTable, inTable, members, h.association]

/-- A comparison asks for the name on its left. -/
theorem comparison_eq {left : Expr} (spares : Spares fields functions left.words) (op : Comparator)
    (right : Expr) : a.comparison op left right = b.comparison op left right := by
  cases left with
  | name field =>
    obtain ⟨⟨other, -⟩, -⟩ := spares_cons_iff.1 spares
    show (do let column ← a.column field; _) = (do let column ← b.column field; _)
    rw [h.column_eq other, h.operators]
  | _ => rfl

/-- A call asks for its function or, if that is the general membership function, for its first
argument. -/
theorem call_eq (avoids : b.Avoids fields functions) {function : String} {args : List Expr}
    (spares : Spares fields functions (.call function args : Expr).words) :
    a.call function args = b.call function args := by
  rw [Expr.words] at spares
  obtain ⟨⟨-, other⟩, rest⟩ := spares_cons_iff.1 spares
  by_cases hf : function = membershipFunction
  · simp only [call, if_pos hf]
    cases args with
    | nil => rfl
    | cons first values =>
      cases first with
      | name field =>
        rw [Expr.wordsOf, Expr.words] at rest
        obtain ⟨⟨other, -⟩, -⟩ := spares_cons_iff.1 rest
        exact h.inColumn_eq other function values
      | _ => rfl
  · simp only [call, if_neg hf, h.function function (other hf)]
    split
    · rfl
    · rw [h.inTable_eq]
    · next field found =>
      have other : field ∉ fields := fun mem => avoids function (other hf) field mem found
      exact h.inColumn_eq other function args
    · rfl

/-- An expression without the words in whose answers two entities differ means the same for both. -/
theorem resolve_eq (avoids : b.Avoids fields functions) (e : Expr)
    (spares : Spares fields functions e.words) : a.resolve e = b.resolve e := by
  fun_induction a.resolve e with
  | case1 left right ihl ihr | case2 left right ihl ihr =>
    obtain ⟨onLeft, onRight⟩ := spares_append_iff.1 (by rwa [Expr.words] at spares)
    rw [ihl onLeft, ihr onRight, resolve]
  | case3 op left right =>
    obtain ⟨onLeft, -⟩ := spares_append_iff.1 (by rwa [Expr.words] at spares)
    exact h.comparison_eq onLeft op right
  | case4 inner ih =>
    rw [ih (by rwa [Expr.words] at spares), resolve]
  | case5 function args => exact h.call_eq avoids spares
  | case6 | case7 => rfl

/-- So does a filter that is read as such an expression, and one that is not read. -/
theorem compileFilter_eq (avoids : b.Avoids fields functions) {filter : String}
    (spares : ∀ e, Expr.parse filter = .ok e → Spares fields functions e.words) :
    a.compileFilter filter = b.compileFilter filter := by
  have understood : a.understand filter = b.understand filter := by
    unfold understand
    cases parsed : Expr.parse filter with
    | error e => rfl
    | ok e =>
      show (a.resolve e).mapError _ = (b.resolve e).mapError _
      rw [h.resolve_eq avoids e (spares e parsed)]
  rw [compileFilter, compileFilter, understood]

/-- A list of other fields gives the same keys. -/
theorem resolveSort_eq {request : SortRequest}
    (other : ∀ items, request = .fields items → ∀ f ∈ items, f.field ∉ fields) :
    a.resolveSort request = b.resolveSort request := by
  cases request with
  | default => rw [resolveSort, resolveSort, h.defaultSort]
  | random => rfl
  | fields items =>
    have keys : items.mapM a.sortKey = items.mapM b.sortKey := by
      refine mapM_congr fun f mem => ?_
      rw [sortKey, sortKey, h.column f.field (other items rfl f mem)]
    rw [resolveSort, resolveSort, keys]

/-- So does a sort that is read as such a list, and one that is not read. -/
theorem compileSort_eq {sort : String}
    (other : ∀ items, SortRequest.parse sort = .ok (.fields items) → ∀ f ∈ items, f.field ∉ fields) :
    a.compileSort sort = b.compileSort sort := by
  unfold compileSort
  cases parsed : SortRequest.parse sort with
  | error e => rfl
  | ok request =>
    show (a.resolveSort request).mapError _ = (b.resolveSort request).mapError _
    rw [h.resolveSort_eq fun items same => other items (same ▸ parsed)]

end AgreesBut

/-! ## Further answers -/

/-- An entity with further fields and functions, which come before those that it has. -/
def shadow (fields : FieldTable) (functions : List (String × Function)) (entity : Entity) : Entity :=
  { entity with
    column? := fun field => (fields.find? field).or (entity.column? field)
    function? := fun function => (functions.lookup function).or (entity.function? function) }

variable (fields : FieldTable) (functions : List (String × Function)) (entity : Entity)

theorem shadow_column? (field : String) :
    (entity.shadow fields functions).column? field
      = (fields.find? field).or (entity.column? field) := rfl

theorem shadow_function? (function : String) :
    (entity.shadow fields functions).function? function
      = (functions.lookup function).or (entity.function? function) := rfl

/-- It differs from the entity in these only. -/
theorem agreesBut_shadow :
    AgreesBut fields.names (functions.map Prod.fst) (entity.shadow fields functions) entity where
  defaultSort := rfl
  operators := rfl
  id := rfl
  association := rfl
  column field other := by
    have unknown : fields.find? field = none := by
      rwa [← FieldTable.find?_isSome_iff, Option.not_isSome_iff_eq_none] at other
    rw [shadow_column?, unknown, Option.none_or]
  function function other := by
    have unknown : functions.lookup function = none := by
      rw [List.lookup_eq_none_iff]
      intro entry mem
      simpa using fun same : function = entry.1 => other (same ▸ List.mem_map_of_mem mem)
    rw [shadow_function?, unknown, Option.none_or]

end Entity

namespace Catalog

/-- An entity with a table of functions avoids the fields that no function in it tests. -/
theorem avoids_of_table {fields names : List String} {entity : Entity}
    (table : List (String × Function)) (hf : entity.function? = functions table)
    (avoids : ∀ entry ∈ table, ∀ field ∈ fields, entry.2 ≠ .inColumn field) :
    entity.Avoids fields names := by
  intro name _ field mem found
  rw [hf] at found
  exact avoids _ (mem_of_functions found) field mem rfl

/-- A field with the name of null. -/
def nullField : FieldTable := [(Filter.nullWord, .required .string "media.rating")]

/-- A function with the name of null and another membership function. -/
def nullFunctions : List (String × Function) :=
  [(Entity.membershipFunction, .own fun _ => .error (.own "taken")),
    (Filter.nullWord, .inColumn Filter.nullWord)]

/-- A field that is called like a random order. -/
def randomField : FieldTable := [(SortRequest.randomWord, .optional .number "media.score")]

end Catalog

/-! ## Reserved words -/

namespace Entity

/-- Whatever an entity has under the name of null, as a field or as a function, and under that of the
general membership function, every filter is understood or refused as without it. Whatever it has
under the name that asks for a random order, so is every sort. What the other functions are is left
open, but that none tests the field with the name of null. -/
theorem compile_ignores_reserved {a b : Entity} :
    (AgreesBut [Filter.nullWord] [membershipFunction, Filter.nullWord] a b →
      b.Avoids [Filter.nullWord] [membershipFunction, Filter.nullWord] →
        ∀ filter, a.compileFilter filter = b.compileFilter filter) ∧
    (AgreesBut [SortRequest.randomWord] [] a b →
      ∀ sort, a.compileSort sort = b.compileSort sort) := by
  constructor
  · intro agree avoids filter
    refine agree.compileFilter_eq avoids fun e parsed word mem => ?_
    have other : word ≠ Filter.nullWord :=
      ne_of_mem_of_not_mem mem (Expr.nullWord_notMem_of_parse parsed)
    simp [other]
  · intro agree sort
    refine agree.compileSort_eq fun items parsed f mem => ?_
    simpa using SortRequest.field_ne_randomWord parsed f mem

end Entity

namespace Catalog

theorem compile_ignores_reserved_media :
    Entity.AgreesBut [Filter.nullWord] [Entity.membershipFunction, Filter.nullWord]
      (media.shadow nullField nullFunctions) media ∧
    media.Avoids [Filter.nullWord] [Entity.membershipFunction, Filter.nullWord] ∧
    Entity.AgreesBut [SortRequest.randomWord] [] (media.shadow randomField []) media ∧
    (∀ filter, (media.shadow nullField nullFunctions).compileFilter filter
      = media.compileFilter filter) ∧
    ∀ sort, (media.shadow randomField []).compileSort sort = media.compileSort sort := by
  have agree := Entity.agreesBut_shadow nullField nullFunctions media
  have avoids : media.Avoids [Filter.nullWord] [Entity.membershipFunction, Filter.nullWord] :=
    avoids_of_table [hasTag "media.id", hasType, hasStatus] rfl
      (by simp [hasTag, hasType, hasStatus, Filter.nullWord])
  have agree' := Entity.agreesBut_shadow randomField [] media
  refine ⟨agree, avoids, agree', ?_, ?_⟩
  · exact Entity.compile_ignores_reserved.1 agree avoids
  · exact Entity.compile_ignores_reserved.2 agree'

end Catalog

end Listings
