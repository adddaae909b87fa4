import Listings.Sql.Token
import Listings.Text.Run

/-!
# Reading the text of statements

What the text of a statement says to a reader who knows nothing of how it was written: names in
double quotes, words, signs, punctuation and placeholders. Blanks only keep them apart.

* `lex`: the lexemes of a text, in whichever dialect its placeholders are written.
* `bindValues`: the tokens of a statement when every placeholder gives way to its value.
* `Spelled`: tokens whose text can be told apart again.
* `lex_renderFrom`: the lexemes of a rendered text are those of its tokens.
* `bindValues_lexemesFrom`: binding the parameters puts every value back in its place.
-/

namespace Listings.Sql

/-- What a statement text is made of. -/
inductive Lexeme where
  /-- A keyword, the name of a function, an operator or a star. -/
  | word (w : String)
  /-- An identifier, without its quotes. -/
  | name (s : String)
  | dot
  | comma
  | leftParen
  | rightParen
  /-- A placeholder, with its number if one is written. -/
  | placeholder (number : Option Nat)
deriving DecidableEq

/-! ## Lexemes of a text -/

/-- A character of an operator. -/
def isSign (c : Char) : Bool := c = '=' || c = '<' || c = '>' || c = '*'

/-- The name up to its closing quote, and the text after it. Two quotes stand for one in it. -/
def takeName? : List Char → Option (List Char × List Char)
  | [] => none
  | '"' :: '"' :: cs => (takeName? cs).map fun (s, rest) => ('"' :: s, rest)
  | '"' :: cs => some ([], cs)
  | c :: cs => (takeName? cs).map fun (s, rest) => (c :: s, rest)

/-- The word or the operator at the head of a text. -/
def takeWord? (cs : List Char) : Option (Lexeme × List Char) :=
  if !(cs.takeWhile Char.isAlpha).isEmpty then
    some (.word (.ofList (cs.takeWhile Char.isAlpha)), cs.dropWhile Char.isAlpha)
  else if !(cs.takeWhile isSign).isEmpty then
    some (.word (.ofList (cs.takeWhile isSign)), cs.dropWhile isSign)
  else none

/-- The number of a placeholder. -/
def takeNumber? (cs : List Char) : Option (Lexeme × List Char) :=
  let digits := cs.takeWhile Char.isDigit
  if digits.isEmpty then none
  else some (.placeholder (some (Nat.ofDigitChars 10 digits 0)), cs.dropWhile Char.isDigit)

/-- The lexeme at the head of a text, and the text after it. -/
def lexeme? : List Char → Option (Lexeme × List Char)
  | '"' :: cs => (takeName? cs).map fun (s, rest) => (.name (.ofList s), rest)
  | '.' :: cs => some (.dot, cs)
  | ',' :: cs => some (.comma, cs)
  | '(' :: cs => some (.leftParen, cs)
  | ')' :: cs => some (.rightParen, cs)
  | '?' :: cs => some (.placeholder none, cs)
  | '$' :: cs => takeNumber? cs
  | cs => takeWord? cs

theorem takeName?_length {cs s rest : List Char} (h : takeName? cs = some (s, rest)) :
    rest.length < cs.length := by
  fun_induction takeName? cs generalizing s with
  | case1 => contradiction
  | case2 cs ih =>
    obtain ⟨⟨s', rest'⟩, found, e⟩ := Option.map_eq_some_iff.1 h
    cases e
    have := ih found
    simp only [List.length_cons]
    omega
  | case3 cs =>
    cases h
    simp
  | case4 c cs _ _ ih =>
    obtain ⟨⟨s', rest'⟩, found, e⟩ := Option.map_eq_some_iff.1 h
    cases e
    have := ih found
    simp only [List.length_cons]
    omega

/-- What is left after a run is shorter than the text, if the run is not empty. -/
private theorem length_dropWhile_lt {p : Char → Bool} {cs : List Char}
    (h : (cs.takeWhile p).isEmpty = false) : (cs.dropWhile p).length < cs.length := by
  have whole : (cs.takeWhile p).length + (cs.dropWhile p).length = cs.length := by
    rw [← List.length_append, List.takeWhile_append_dropWhile]
  have nonempty : 0 < (cs.takeWhile p).length := by
    rw [List.length_pos_iff]
    simpa using h
  omega

theorem takeWord?_length {cs rest : List Char} {l : Lexeme} (h : takeWord? cs = some (l, rest)) :
    rest.length < cs.length := by
  unfold takeWord? at h
  split at h
  · next letters =>
    cases h
    exact length_dropWhile_lt (by simpa using letters)
  · split at h
    · next signs =>
      cases h
      exact length_dropWhile_lt (by simpa using signs)
    · contradiction

theorem takeNumber?_length {cs rest : List Char} {l : Lexeme}
    (h : takeNumber? cs = some (l, rest)) : rest.length < cs.length := by
  unfold takeNumber? at h
  simp only at h
  split at h
  · contradiction
  · next digits =>
    cases h
    exact length_dropWhile_lt (by simpa using digits)

theorem lexeme?_length {cs rest : List Char} {l : Lexeme} (h : lexeme? cs = some (l, rest)) :
    rest.length < cs.length := by
  unfold lexeme? at h
  split at h
  case h_1 cs =>
    obtain ⟨⟨s, rest'⟩, found, e⟩ := Option.map_eq_some_iff.1 h
    cases e
    have := takeName?_length found
    simp only [List.length_cons]
    omega
  case h_7 cs =>
    have := takeNumber?_length h
    simp only [List.length_cons]
    omega
  case h_8 => exact takeWord?_length h
  all_goals
    cases h
    simp

/-- The lexemes of a text. -/
def lex : List Char → Option (List Lexeme)
  | [] => some []
  | ' ' :: cs => lex cs
  | c :: cs =>
    match _found : lexeme? (c :: cs) with
    | none => none
    | some (l, rest) => (lex rest).map (l :: ·)
termination_by cs => cs.length
decreasing_by
  · simp
  · exact lexeme?_length _found

/-! ## Tokens that can be told apart again -/

/-- A word that reads as one: letters only, or signs only. -/
def IsSpelled (w : String) : Prop :=
  w.toList ≠ [] ∧ (w.toList.all Char.isAlpha ∨ w.toList.all isSign)

instance (w : String) : Decidable (IsSpelled w) := inferInstanceAs (Decidable (_ ∧ (_ ∨ _)))

/-- Tokens whose text can be told apart again: every word reads as one, and a parenthesis follows
the name of a function. -/
inductive Spelled : List Token → Prop
  | nil : Spelled []
  | word {w : String} {ts : List Token} (hw : IsSpelled w) : Spelled ts → Spelled (.word w :: ts)
  | call {w : String} {ts : List Token} (hw : IsSpelled w) :
      Spelled ts → Spelled (.function w :: .leftParen :: ts)
  | name {s : String} {ts : List Token} : Spelled ts → Spelled (.name s :: ts)
  | dot {ts : List Token} : Spelled ts → Spelled (.dot :: ts)
  | comma {ts : List Token} : Spelled ts → Spelled (.comma :: ts)
  | leftParen {ts : List Token} : Spelled ts → Spelled (.leftParen :: ts)
  | rightParen {ts : List Token} : Spelled ts → Spelled (.rightParen :: ts)
  | param {v : Value} {ts : List Token} : Spelled ts → Spelled (.param v :: ts)

theorem Spelled.append {a b : List Token} (ha : Spelled a) (hb : Spelled b) : Spelled (a ++ b) := by
  induction ha with
  | nil => exact hb
  | word hw _ ih => exact .word hw ih
  | call hw _ ih => exact .call hw ih
  | name _ ih => exact .name ih
  | dot _ ih => exact .dot ih
  | comma _ ih => exact .comma ih
  | leftParen _ ih => exact .leftParen ih
  | rightParen _ ih => exact .rightParen ih
  | param _ ih => exact .param ih

theorem spelled_parenthesized {ts : List Token} (h : Spelled ts) : Spelled (parenthesized ts) :=
  .leftParen (h.append (.rightParen .nil))

theorem spelled_columnTokens (path : ColumnPath) : Spelled (columnTokens path) := by
  unfold columnTokens
  split
  · exact .name (.dot (.name .nil))
  · exact .name .nil

theorem spelled_tableTokens (path : ColumnPath) : Spelled (tableTokens path) := .name .nil

theorem spelled_separated {items : List (List Token)} (h : ∀ ts ∈ items, Spelled ts) :
    Spelled (separated .comma items) := by
  induction items with
  | nil => exact .nil
  | cons first rest ih =>
    have hfirst := h first List.mem_cons_self
    have hrest := ih fun ts hts => h ts (List.mem_cons_of_mem _ hts)
    cases rest with
    | nil => rwa [separated_singleton]
    | cons second others =>
      rw [separated_cons_cons]
      exact hfirst.append (.comma hrest)

/-! ## Lexing what was rendered -/

/-- The lexeme that a token is in a text, where a placeholder has the given number. -/
def Token.lexeme (dialect : Dialect) (number : Nat) : Token → Lexeme
  | word w | function w => .word w
  | name s => .name s
  | dot => .dot
  | comma => .comma
  | leftParen => .leftParen
  | rightParen => .rightParen
  | param _ =>
    .placeholder (match dialect with
      | .sqlite => none
      | .postgres => some number)

/-- The lexemes of tokens of which the next placeholder has the given number. -/
def lexemesFrom (dialect : Dialect) (number : Nat) : List Token → List Lexeme
  | [] => []
  | t :: ts =>
    t.lexeme dialect number
      :: lexemesFrom dialect (if t.param?.isSome then number + 1 else number) ts

/-- The text does not go on in the middle of a word, a number or a name. -/
def Breaks (cs : List Char) : Prop := ∀ c ∈ cs.head?, c ∈ [' ', '(', ')', ',', '.']

theorem Breaks.not_head {cs : List Char} (h : Breaks cs) {p : Char → Bool}
    (hp : [' ', '(', ')', ',', '.'].all fun c => !p c) : ∀ c ∈ cs.head?, p c = false := by
  intro c first
  have other := List.all_eq_true.1 hp c (h c first)
  rwa [Bool.not_eq_true'] at other

theorem takeName?_quoteName (s rest : List Char) (h : Breaks rest) :
    takeName? (s.flatMap (fun c => if c = '"' then ['"', '"'] else [c]) ++ '"' :: rest)
      = some (s, rest) := by
  induction s with
  | nil =>
    cases rest with
    | nil => rfl
    | cons c rest =>
      have hc : c ≠ '"' := fun e => absurd (h c rfl) (e ▸ by decide)
      simp [takeName?, hc]
  | cons c s ih =>
    rw [List.flatMap_cons, List.append_assoc]
    by_cases hc : c = '"'
    · subst hc
      simp [takeName?, ih]
    · simp [takeName?, hc, ih]

theorem IsSpelled.takeWord? {w : String} (hw : IsSpelled w) {rest : List Char} (h : Breaks rest) :
    takeWord? (w.toList ++ rest) = some (.word w, rest) := by
  obtain ⟨nonempty, letters | signs⟩ := hw
  · have inside := List.all_eq_true.1 letters
    have ends := h.not_head (p := Char.isAlpha) (by decide)
    have taken := Text.takeWhile_run inside ends
    have left := Text.dropWhile_run inside ends
    simp [Sql.takeWord?, taken, left, nonempty, String.ofList_toList]
  · have inside := List.all_eq_true.1 signs
    have ends := h.not_head (p := isSign) (by decide)
    have taken := Text.takeWhile_run inside ends
    have left := Text.dropWhile_run inside ends
    have noLetters : (w.toList ++ rest).takeWhile Char.isAlpha = [] := by
      obtain ⟨c, cs, e⟩ := List.exists_cons_of_ne_nil nonempty
      rw [e] at signs ⊢
      have hc : isSign c := by simp_all
      simp only [isSign, Bool.or_eq_true, decide_eq_true_eq] at hc
      rcases hc with ((rfl | rfl) | rfl) | rfl <;> rfl
    simp [Sql.takeWord?, noLetters, taken, left, nonempty, String.ofList_toList]

/-- The first character of a word starts nothing else. -/
theorem IsSpelled.head {w : String} (hw : IsSpelled w) :
    ∃ c cs, w.toList = c :: cs ∧ c ∉ ['"', '.', ',', '(', ')', '?', '$', ' '] := by
  obtain ⟨nonempty, chars⟩ := hw
  obtain ⟨c, cs, e⟩ := List.exists_cons_of_ne_nil nonempty
  refine ⟨c, cs, e, fun special => ?_⟩
  have hc : c.isAlpha ∨ isSign c := by
    rw [e] at chars
    simp only [List.all_cons, Bool.and_eq_true] at chars
    exact chars.imp And.left And.left
  have none : ['"', '.', ',', '(', ')', '?', '$', ' '].all fun c => !(c.isAlpha || isSign c) := by
    decide
  have other := List.all_eq_true.1 none c special
  rw [Bool.not_eq_true', Bool.or_eq_false_iff] at other
  rcases hc with letter | sign
  · rw [letter] at other
    cases other.1
  · rw [sign] at other
    cases other.2

theorem IsSpelled.lexeme? {w : String} (hw : IsSpelled w) {rest : List Char} (h : Breaks rest) :
    lexeme? (w.toList ++ rest) = some (.word w, rest) := by
  obtain ⟨c, cs, e, hc⟩ := hw.head
  have word := hw.takeWord? h
  rw [e, List.cons_append] at word ⊢
  simp only [List.mem_cons, List.not_mem_nil, or_false, not_or] at hc
  obtain ⟨_, _, _, _, _, _, _, _⟩ := hc
  unfold Sql.lexeme?
  split <;> simp_all

/-- The lexeme of a placeholder. -/
theorem lexeme?_placeholder (dialect : Dialect) (number : Nat) (v : Value) {rest : List Char}
    (h : Breaks rest) :
    lexeme? (Token.placeholder dialect number ++ rest)
      = some ((Token.param v).lexeme dialect number, rest) := by
  cases dialect with
  | sqlite => rfl
  | postgres =>
    have inside : ∀ c ∈ Nat.toDigits 10 number, c.isDigit :=
      fun c hc => Nat.isDigit_of_mem_toDigits (by decide) (by decide) hc
    have ends := h.not_head (p := Char.isDigit) (by decide)
    have taken := Text.takeWhile_run inside ends
    have left := Text.dropWhile_run inside ends
    simp [Token.placeholder, lexeme?, takeNumber?, taken, left, Nat.toDigits_ne_nil, Token.lexeme]

theorem lex_of_lexeme? {cs rest : List Char} {l : Lexeme} (h : lexeme? cs = some (l, rest))
    (hb : cs.head? ≠ some ' ') : lex cs = (lex rest).map (l :: ·) := by
  cases cs with
  | nil => simp [lexeme?, takeWord?] at h
  | cons c cs =>
    have hc : c ≠ ' ' := by simpa using hb
    rw [lex]
    · split
      · next e => rw [h] at e; cases e
      · next e => rw [h] at e; cases e; rfl
    · exact hc

/-- A token after which the text may go on with anything. -/
def Token.isMark : Token → Bool
  | dot | comma | leftParen | rightParen => true
  | _ => false

/-- The text of a token is read as its lexeme. -/
theorem lex_chars (dialect : Dialect) (number : Nat) {t : Token} {rest : List Char}
    (ht : ∀ w, t = .word w ∨ t = .function w → IsSpelled w) (h : t.isMark ∨ Breaks rest) :
    lex (t.chars dialect number ++ rest) = (lex rest).map (t.lexeme dialect number :: ·) := by
  cases t with
  | dot | comma | leftParen | rightParen =>
    exact lex_of_lexeme? rfl (by simp [Token.chars])
  | word w | function w =>
    have hw : IsSpelled w := ht w (by simp)
    have hrest : Breaks rest := by simpa [Token.isMark] using h
    refine lex_of_lexeme? (hw.lexeme? hrest) ?_
    obtain ⟨c, cs, e, hc⟩ := hw.head
    simp only [Token.chars, e, List.cons_append, List.head?_cons, ne_eq, Option.some.injEq]
    rintro rfl
    simp at hc
  | name s =>
    have hrest : Breaks rest := by simpa [Token.isMark] using h
    refine lex_of_lexeme? ?_ (by simp [Token.chars, Token.quoteName])
    have found := takeName?_quoteName s.toList rest hrest
    simp only [Token.chars, Token.quoteName, List.cons_append, List.append_assoc, lexeme?,
      List.nil_append, found, Option.map_some, String.ofList_toList, Token.lexeme]
  | param v =>
    have hrest : Breaks rest := by simpa [Token.isMark] using h
    refine lex_of_lexeme? (lexeme?_placeholder dialect number v hrest) ?_
    cases dialect <;> simp [Token.chars, Token.placeholder]

/-- After a token that is no mark, and after the name of a function, the text breaks. -/
theorem breaks_renderFrom (dialect : Dialect) (number : Nat) {before : Token} {ts : List Token}
    (h : before.isMark = false)
    (hf : ∀ w, before = .function w → ts.head? = some .leftParen) :
    Breaks (renderFrom dialect number before ts) := by
  intro c hc
  cases ts with
  | nil => simp [renderFrom] at hc
  | cons t ts =>
    cases before with
    | dot | comma | leftParen | rightParen => cases h
    | function w =>
      obtain rfl : t = .leftParen := by simpa using hf w rfl
      simp only [renderFrom, Token.joins, Token.chars] at hc
      cases hc
      decide
    | _ =>
      cases t <;>
        · simp only [renderFrom, Token.joins, Token.chars] at hc
          cases hc
          decide

theorem lex_blank (cs : List Char) : lex (' ' :: cs) = lex cs := by rw [lex]

/-- The blank before a token is not seen. -/
theorem lex_renderFrom_cons (dialect : Dialect) (number : Nat) (before t : Token)
    (ts : List Token) :
    lex (renderFrom dialect number before (t :: ts))
      = lex (t.chars dialect number
          ++ renderFrom dialect (if t.param?.isSome then number + 1 else number) t ts) := by
  rw [renderFrom]
  split
  · rw [List.nil_append]
  · rw [List.singleton_append, List.cons_append, lex_blank]

/-- The lexemes of a rendered text are those of its tokens. -/
theorem lex_renderFrom (dialect : Dialect) (number : Nat) (before : Token) {ts : List Token}
    (h : Spelled ts) :
    lex (renderFrom dialect number before ts) = some (lexemesFrom dialect number ts) := by
  induction h generalizing number before with
  | nil => rw [renderFrom, lex, lexemesFrom]
  | word hw _ ih =>
    rw [lex_renderFrom_cons, lex_chars dialect number (by simpa using hw), ih]
    · rfl
    · exact .inr (breaks_renderFrom dialect _ rfl (by simp))
  | call hw _ ih =>
    rw [lex_renderFrom_cons, lex_chars dialect number (by simpa using hw), lex_renderFrom_cons,
      lex_chars dialect _ (by simp) (.inl rfl), ih]
    · rfl
    · exact .inr (breaks_renderFrom dialect _ rfl (by simp))
  | name _ ih =>
    rw [lex_renderFrom_cons, lex_chars dialect number (by simp), ih]
    · rfl
    · exact .inr (breaks_renderFrom dialect _ rfl (by simp))
  | param _ ih =>
    rw [lex_renderFrom_cons, lex_chars dialect number (by simp), ih]
    · rfl
    · exact .inr (breaks_renderFrom dialect _ rfl (by simp))
  | dot _ ih | comma _ ih | leftParen _ ih | rightParen _ ih =>
    rw [lex_renderFrom_cons, lex_chars dialect number (by simp) (.inl rfl), ih]
    rfl

/-! ## Binding values -/

/-- The token of a lexeme, with a value in the place of a placeholder: the next value, or the one
whose number is written. `used` values have been bound before. -/
def Lexeme.token? (values : List Value) (used : Nat) : Lexeme → Option Token
  | word w => some (.word w)
  | name s => some (.name s)
  | dot => some .dot
  | comma => some .comma
  | leftParen => some .leftParen
  | rightParen => some .rightParen
  | placeholder none => values[used]?.map .param
  | placeholder (some number) => if number = 0 then none else values[number - 1]?.map .param

/-- The tokens of lexemes when every placeholder gives way to its value. -/
def bindValues (values : List Value) (used : Nat) : List Lexeme → Option (List Token)
  | [] => some []
  | l :: ls => do
    let t ← l.token? values used
    let ts ← bindValues values (if t.param?.isSome then used + 1 else used) ls
    return t :: ts

/-- The token as it is read: the name of a function is a word like any other. -/
def Token.plain : Token → Token
  | function w => .word w
  | other => other

theorem bindValues_cons {values : List Value} {used : Nat} {l : Lexeme} {t : Token}
    (h : l.token? values used = some t) (ls : List Lexeme) :
    bindValues values used (l :: ls)
      = (bindValues values (if t.param?.isSome then used + 1 else used) ls).map (t :: ·) := by
  rw [bindValues, h, Option.map_eq_bind]
  rfl

/-- Every value returns to its place when the parameters are bound in order. -/
theorem bindValues_lexemesFrom (dialect : Dialect) (earlier later : List Value) (ts : List Token) :
    bindValues (earlier ++ params ts ++ later) earlier.length
        (lexemesFrom dialect (earlier.length + 1) ts)
      = some (ts.map Token.plain) := by
  induction ts generalizing earlier with
  | nil => rfl
  | cons t ts ih =>
    cases t with
    | param v =>
      have values : earlier ++ params (.param v :: ts) ++ later
          = earlier ++ [v] ++ params ts ++ later := by simp [params, Token.param?]
      have token : ((Token.param v).lexeme dialect (earlier.length + 1)).token?
          (earlier ++ [v] ++ params ts ++ later) earlier.length = some (.param v) := by
        cases dialect <;> simp [Token.lexeme, Lexeme.token?]
      have next := ih (earlier ++ [v])
      rw [List.length_append, List.length_singleton] at next
      rw [values, lexemesFrom, bindValues_cons token]
      simp only [Token.param?, Option.isSome_some, if_true, next]
      rfl
    | _ =>
      rw [lexemesFrom, bindValues_cons rfl]
      exact congrArg _ (ih earlier)

/-- The tokens of a text when its placeholders give way to values; `used` values have been bound
before it. -/
def readTokens (values : List Value) (used : Nat) (text : List Char) : Option (List Token) :=
  (lex text).bind (bindValues values used)

/-- What is read from a rendered text with its parameters, among those of a longer statement, are
the tokens that were rendered. -/
theorem readTokens_renderFrom (dialect : Dialect) (before : Token) (earlier later : List Value)
    {ts : List Token} (h : Spelled ts) :
    readTokens (earlier ++ params ts ++ later) earlier.length
        (renderFrom dialect (earlier.length + 1) before ts)
      = some (ts.map Token.plain) := by
  rw [readTokens, lex_renderFrom dialect _ before h, Option.bind_some,
    bindValues_lexemesFrom dialect]

end Listings.Sql
