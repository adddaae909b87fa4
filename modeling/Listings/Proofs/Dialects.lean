import Listings.Proofs.Parameters

/-!
# Dialects

The two dialects write a statement with the same tokens and the same parameters. Only the text of a
placeholder is another one, and that can be put right in the finished text.

* `unnumbered?`: the text with question marks for its numbered placeholders.
* `unnumbered?_renderFrom`: it is what the other dialect writes.
* `statements_dialects`: the statements of every request differ in their placeholders only.
-/

namespace Listings

namespace Sql

/-- The text with a question mark for every placeholder, of which the first has to have the given number
and each of the others the next one. A dollar sign in a name in double quotes is no placeholder. -/
def unnumbered? (number : Nat) (inName : Bool) : List Char → Option (List Char)
  | [] => some []
  | c :: cs =>
    if c = '"' then (unnumbered? number (!inName) cs).map ('"' :: ·)
    else if c = '$' ∧ inName = false then
      if cs.takeWhile Char.isDigit = Nat.toDigits 10 number then
        (unnumbered? (number + 1) false (cs.dropWhile Char.isDigit)).map ('?' :: ·)
      else none
    else (unnumbered? number inName cs).map (c :: ·)
termination_by cs => cs.length
decreasing_by
  · exact Nat.lt_succ_self _
  · exact Nat.lt_succ_of_le (List.dropWhile_suffix _).length_le
  · exact Nat.lt_succ_self _

/-! ## The text of one token -/

section

variable {number : Nat} {rest : List Char}

/-- A character that opens neither a name nor a placeholder stays. -/
theorem unnumbered?_cons_of_ne {c : Char} (quote : c ≠ '"') (dollar : c ≠ '$') (inName : Bool) :
    unnumbered? number inName (c :: rest) = (unnumbered? number inName rest).map (c :: ·) := by
  rw [unnumbered?, if_neg quote, if_neg fun h => dollar h.1]

theorem unnumbered?_append {text : List Char} (h : ∀ c ∈ text, c ≠ '"' ∧ c ≠ '$') :
    unnumbered? number false (text ++ rest) = (unnumbered? number false rest).map (text ++ ·) := by
  induction text with
  | nil => simp
  | cons c text ih =>
    obtain ⟨⟨quote, dollar⟩, others⟩ := List.forall_mem_cons.1 h
    rw [List.cons_append, unnumbered?_cons_of_ne quote dollar, ih others, Option.map_map]
    rfl

/-- A quote turns the inside of a name into its outside and the other way round, so a doubled one
changes nothing. -/
theorem unnumbered?_quote (inName : Bool) :
    unnumbered? number inName ('"' :: rest)
      = (unnumbered? number (!inName) rest).map ('"' :: ·) := by
  rw [unnumbered?, if_pos rfl]

theorem unnumbered?_inName (s : List Char) :
    unnumbered? number true
        (s.flatMap (fun c => if c = '"' then ['"', '"'] else [c]) ++ '"' :: rest)
      = (unnumbered? number false rest).map
          (s.flatMap (fun c => if c = '"' then ['"', '"'] else [c]) ++ '"' :: ·) := by
  induction s with
  | nil => exact unnumbered?_quote true
  | cons c s ih =>
    rw [List.flatMap_cons, List.append_assoc]
    by_cases hc : c = '"'
    · rw [if_pos hc, List.cons_append, List.cons_append, unnumbered?_quote, Bool.not_true,
        unnumbered?_quote, Bool.not_false, List.nil_append, ih, Option.map_map, Option.map_map]
      rfl
    · have stays : unnumbered? number true (c :: (s.flatMap
            (fun c => if c = '"' then ['"', '"'] else [c]) ++ '"' :: rest))
          = (unnumbered? number true (s.flatMap
            (fun c => if c = '"' then ['"', '"'] else [c]) ++ '"' :: rest)).map (c :: ·) := by
        rw [unnumbered?, if_neg hc, if_neg (by simp)]
      rw [if_neg hc, List.singleton_append, stays, ih, Option.map_map]
      rfl

theorem unnumbered?_quoteName (s : String) :
    unnumbered? number false (Token.quoteName s ++ rest)
      = (unnumbered? number false rest).map (Token.quoteName s ++ ·) := by
  have shape (t : List Char) : Token.quoteName s ++ t
      = '"' :: (s.toList.flatMap (fun c => if c = '"' then ['"', '"'] else [c]) ++ '"' :: t) := by
    simp [Token.quoteName]
  rw [shape, unnumbered?_quote, Bool.not_false, unnumbered?_inName, Option.map_map]
  exact congrArg (Option.map · _) (funext fun t => (shape t).symm)

theorem unnumbered?_placeholder (h : Breaks rest) (marked : Nat) :
    unnumbered? number false (Token.placeholder .postgres number ++ rest)
      = (unnumbered? (number + 1) false rest).map (Token.placeholder .sqlite marked ++ ·) := by
  have digits : ∀ c ∈ Nat.toDigits 10 number, c.isDigit :=
    fun c hc => Nat.isDigit_of_mem_toDigits (by decide) (by decide) hc
  have ends := h.not_head (p := Char.isDigit) (by decide)
  have taken := Text.takeWhile_run digits ends
  have left := Text.dropWhile_run digits ends
  show unnumbered? number false ('$' :: (Nat.toDigits 10 number ++ rest)) = _
  rw [unnumbered?, if_neg (by decide), if_pos ⟨rfl, rfl⟩, if_pos taken, left]
  rfl

/-- A word has neither quotes nor dollar signs in it. -/
theorem IsSpelled.ne {w : String} (hw : IsSpelled w) : ∀ c ∈ w.toList, c ≠ '"' ∧ c ≠ '$' := by
  intro c hc
  have inside : c.isAlpha ∨ isSign c :=
    hw.2.imp (fun h => List.all_eq_true.1 h c hc) (fun h => List.all_eq_true.1 h c hc)
  constructor
  · rintro rfl
    exact absurd inside (by decide)
  · rintro rfl
    exact absurd inside (by decide)

/-- Of a token only the text of a placeholder is another one. -/
theorem unnumbered?_chars {t : Token} (ht : ∀ w, t = .word w ∨ t = .function w → IsSpelled w)
    (h : t.isMark ∨ Breaks rest) (marked : Nat) :
    unnumbered? number false (t.chars .postgres number ++ rest)
      = (unnumbered? (if t.param?.isSome then number + 1 else number) false rest).map
          (t.chars .sqlite marked ++ ·) := by
  cases t with
  | word w | function w => exact unnumbered?_append (ht w (by simp)).ne
  | name s => exact unnumbered?_quoteName s
  | dot | comma | leftParen | rightParen =>
    exact unnumbered?_cons_of_ne (by decide) (by decide) false
  | param v => exact unnumbered?_placeholder (by simpa [Token.isMark] using h) marked

/-! ## The text of a statement -/

/-- The blank before a token stays. -/
theorem unnumbered?_renderFrom_cons {before t : Token} {ts : List Token} {marked : Nat}
    (ht : ∀ w, t = .word w ∨ t = .function w → IsSpelled w)
    (h : t.isMark ∨ ∀ next, Breaks (renderFrom .postgres next t ts))
    (later : ∀ next next', unnumbered? next false (renderFrom .postgres next t ts)
      = some (renderFrom .sqlite next' t ts)) :
    unnumbered? number false (renderFrom .postgres number before (t :: ts))
      = some (renderFrom .sqlite marked before (t :: ts)) := by
  let next := if t.param?.isSome then number + 1 else number
  let next' := if t.param?.isSome then marked + 1 else marked
  have token : unnumbered? number false
        (t.chars .postgres number ++ renderFrom .postgres next t ts)
      = some (t.chars .sqlite marked ++ renderFrom .sqlite next' t ts) := by
    rw [unnumbered?_chars ht (h.imp_right fun breaks => breaks next) marked, later next next']
    rfl
  rw [renderFrom, renderFrom]
  by_cases joined : before.joins t
  · rw [if_pos joined]
    exact token
  · rw [if_neg joined, List.append_assoc, List.append_assoc, List.singleton_append,
      unnumbered?_cons_of_ne (by decide) (by decide), token]
    rfl

end

/-- What one dialect writes is what the other one writes, but for the numbers of its placeholders. -/
theorem unnumbered?_renderFrom {ts : List Token} (h : Spelled ts) (number marked : Nat)
    (before : Token) :
    unnumbered? number false (renderFrom .postgres number before ts)
      = some (renderFrom .sqlite marked before ts) := by
  -- After a placeholder the text must not go on with a digit, and no token begins with one where no
  -- blank stands before it.
  induction h generalizing number marked before with
  | nil => simp [renderFrom, unnumbered?]
  | word hw _ ih =>
    refine unnumbered?_renderFrom_cons (by simpa using hw) (.inr fun next => ?_) (ih · · _)
    exact breaks_renderFrom .postgres next rfl (by simp)
  | call hw _ ih =>
    refine unnumbered?_renderFrom_cons (by simpa using hw) (.inr fun next => ?_) fun next next' => ?_
    · exact breaks_renderFrom .postgres next rfl (by simp)
    · exact unnumbered?_renderFrom_cons (by simp) (.inl rfl) (ih · · _)
  | name _ ih | param _ ih =>
    refine unnumbered?_renderFrom_cons (by simp) (.inr fun next => ?_) (ih · · _)
    exact breaks_renderFrom .postgres next rfl (by simp)
  | dot _ ih | comma _ ih | leftParen _ ih | rightParen _ ih =>
    exact unnumbered?_renderFrom_cons (by simp) (.inl rfl) (ih · · _)

/-- The first statement has the parameters of the second, and its text becomes that of the second when
its placeholders, which are numbered from 1 on, give way to question marks. -/
structure Statement.DiffersInPlaceholders (numbered marked : Statement) : Prop where
  params : numbered.params = marked.params
  text : unnumbered? 1 false numbered.text.toList = some marked.text.toList

theorem Select.differsInPlaceholders (s : Select) :
    Statement.DiffersInPlaceholders ⟨s, .postgres⟩ ⟨s, .sqlite⟩ := by
  refine ⟨rfl, ?_⟩
  rw [Statement.text, Statement.text, String.toList_ofList, String.toList_ofList]
  exact unnumbered?_renderFrom (spelled_select s) 1 1 .leftParen

end Sql

/-- The statements of a request in the two dialects have the same parameters and differ in the text of
their placeholders only. -/
theorem statements_dialects (base : BaseQuery) (filter : Option Predicate) (order : SortOrder)
    (request : PageRequest) :
    let numbered := statements base filter order request .postgres
    let marked := statements base filter order request .sqlite
    numbered.count.DiffersInPlaceholders marked.count ∧
      numbered.page.DiffersInPlaceholders marked.page :=
  ⟨Sql.Select.differsInPlaceholders _, Sql.Select.differsInPlaceholders _⟩

end Listings
