import Listings.Proofs.Parsing
import Listings.Proofs.Tokenizing

/-!
# Written tokens

Every text, every 64-bit number, every word and every symbol can be written so that it is read back, also
next to other tokens.

* `Writes`: the ways to write a token.
* `Writes.lexeme`: what is written is a lexeme and stands for the token.
* `IsLexeme.isLongest`: before a blank, or at the end, no longer lexeme is found.
* `Joined`: tokens are written one after the other with blanks between them.
* `joined_readBack`: they are read back, and every constant but null and the numbers with a point is a
  filter.
-/

namespace Listings.Filter

/-! ## How tokens are written -/

/-- A symbol as it stands in a filter. -/
def Symbol.written : Symbol → String
  | .or => "||"
  | .and => "&&"
  | .compare c => c.symbol
  | .not => "!"
  | .leftParen => "("
  | .rightParen => ")"
  | .comma => ","

/-- What stands after the backslash for a character that is written with one. -/
def escape? : Char → Option Char
  | '"' => some '"'
  | '\\' => some '\\'
  | '\n' => some 'n'
  | '\r' => some 'r'
  | '\t' => some 't'
  | _ => none

/-- A character between double quotes. -/
def escapeChar (c : Char) : List Char :=
  match escape? c with
  | some e => ['\\', e]
  | none => [c]

/-- A text between double quotes. -/
def escape (s : List Char) : List Char := s.flatMap escapeChar

/-- The ways to write a token: a text in double quotes, or in back quotes if it has none, and a whole
number in decimal. -/
inductive Writes : TokenKind → List Char → Prop
  | word {w : String} (h : Text.isWord w.toList) : Writes (.word w) w.toList
  | quoted (s : String) : Writes (.text s) ('"' :: escape s.toList ++ ['"'])
  | raw {s : String} (h : backQuote ∉ s.toList) :
      Writes (.text s) (backQuote :: s.toList ++ [backQuote])
  | integer (n : Int64) : Writes (.number (.integer n)) (toString n.toInt).toList
  | symbol (s : Symbol) : Writes (.symbol s) s.written.toList

/-- Tokens are written one after the other, with blanks between any two of them. -/
inductive Joined : List TokenKind → List Char → Prop
  | nil : Joined [] []
  | cons {kind : TokenKind} {kinds : List TokenKind} {text blanks rest : List Char}
      (h : Writes kind text) (hb : ∀ c ∈ blanks, Text.isBlank c) (gap : blanks ≠ [] ∨ kinds = [])
      (more : Joined kinds rest) : Joined (kind :: kinds) (text ++ (blanks ++ rest))

/-- Whether a token is among those that can be written: only a word that is none and a number with a
point are not. -/
def TokenKind.isWritable : TokenKind → Bool
  | .word w => Text.isWord w.toList
  | .number (.real _) => false
  | _ => true

theorem exists_writes {kind : TokenKind} (h : kind.isWritable) : ∃ text, Writes kind text := by
  cases kind with
  | word w => exact ⟨_, .word h⟩
  | text s => exact ⟨_, .quoted s⟩
  | number n =>
    cases n with
    | integer n => exact ⟨_, .integer n⟩
    | real x => cases h
  | symbol s => exact ⟨_, .symbol s⟩

theorem exists_joined {kinds : List TokenKind} (h : ∀ kind ∈ kinds, kind.isWritable) :
    ∃ text, Joined kinds text := by
  induction kinds with
  | nil => exact ⟨[], .nil⟩
  | cons kind kinds ih =>
    obtain ⟨here, others⟩ := List.forall_mem_cons.1 h
    obtain ⟨text, writes⟩ := exists_writes here
    obtain ⟨rest, joined⟩ := ih others
    have blank : ∀ c ∈ [' '], Text.isBlank c := List.forall_mem_singleton.2 (by decide)
    exact ⟨_, .cons writes blank (.inl (List.cons_ne_nil _ _)) joined⟩

/-- Written tokens with one blank between any two of them. -/
theorem joined_intercalate {kinds : List TokenKind} {texts : List (List Char)}
    (h : List.Forall₂ Writes kinds texts) : Joined kinds ([' '].intercalate texts) := by
  have blank : ∀ c ∈ [' '], Text.isBlank c := List.forall_mem_singleton.2 (by decide)
  induction h with
  | nil => exact .nil
  | @cons kind text kinds texts writes more ih =>
    cases more with
    | nil => simpa using Joined.cons writes (List.forall_mem_nil _) (.inr rfl) .nil
    | cons =>
      rw [List.intercalate_cons_cons, List.append_assoc]
      exact .cons writes blank (.inl (List.cons_ne_nil _ _)) ih

/-! ## What is written is a lexeme that stands for the token -/

theorem Symbol.written_mem (s : Symbol) : (s.written.toList, s) ∈ symbols := by
  cases s with
  | compare c => cases c <;> decide
  | _ => decide

/-- An escape is undone, and does not go across the end of a line. -/
theorem escaped?_of_escape? {c e : Char} (h : escape? c = some e) : escaped? e = some c ∧ e ≠ '\n' := by
  unfold escape? at h
  split at h <;> cases h <;> decide

theorem ne_of_escape?_eq_none {c : Char} (h : escape? c = none) : c ≠ '"' ∧ c ≠ '\\' := by
  constructor <;> rintro rfl <;> cases h

theorem quotable_escape (s : List Char) : Quotable (escape s) ∧ Escapes (escape s) s := by
  induction s with
  | nil => exact ⟨.nil, .nil⟩
  | cons c s ih =>
    rw [escape, List.flatMap_cons, escapeChar]
    cases found : escape? c with
    | some e =>
      obtain ⟨undone, line⟩ := escaped?_of_escape? found
      exact ⟨.escape line ih.1, .escape undone ih.2⟩
    | none =>
      obtain ⟨quote, backslash⟩ := ne_of_escape?_eq_none found
      exact ⟨.plain quote backslash ih.1, .plain backslash ih.2⟩

theorem toList_toString (i : Int) :
    (toString i).toList = sign (decide (i < 0)) ++ Nat.toDigits 10 i.natAbs := by
  rw [Int.toString_eq_repr, Int.repr_eq_if]
  by_cases h : 0 ≤ i
  · have digits : i.toNat = i.natAbs := by omega
    simp [h, sign, digits]
  · have digits : (-i).toNat = i.natAbs := by omega
    have negative : i < 0 := by omega
    simp [h, sign, digits, negative]

theorem signed_natAbs (i : Int) : signed (decide (i < 0)) i.natAbs = i := by
  by_cases h : i < 0
  · rw [signed, decide_eq_true h, if_pos rfl]
    omega
  · rw [signed, decide_eq_false h, if_neg (by decide)]
    omega

/-- What is written is a lexeme, and the lexeme stands for the token. -/
theorem Writes.lexeme {kind : TokenKind} {text : List Char} (h : Writes kind text) :
    ∃ shape, IsLexeme shape text ∧ Means shape text kind := by
  cases h with
  | @word w h =>
    have means := Means.word w.toList
    rw [String.ofList_toList] at means
    exact ⟨.word, .word h, means⟩
  | quoted s =>
    obtain ⟨quotable, escapes⟩ := quotable_escape s.toList
    have means := Means.quoted escapes
    rw [String.ofList_toList] at means
    exact ⟨.quoted, .quoted quotable, means⟩
  | @raw s h =>
    have means := Means.raw s.toList
    rw [String.ofList_toList] at means
    exact ⟨.raw, .raw h, means⟩
  | integer n =>
    have numeral := numeral_toDigits n.toInt.natAbs
    have lexeme := @IsLexeme.number (decide (n.toInt < 0)) _ _ _ numeral .none
    rw [List.append_nil, ← toList_toString] at lexeme
    refine ⟨.number, lexeme, ?_⟩
    rw [toList_toString]
    refine .integer numeral.ne_nil numeral.isDigit ?_
    rw [Nat.ofDigitChars_ten_toDigits, signed_natAbs]
  | symbol s => exact ⟨.symbol s, .symbol s.written_mem, .symbol _ s⟩

/-! ## Tokens do not run into each other -/

/-- Only texts in quotes have blanks in them. -/
theorem IsLexeme.quotes_of_isBlank {shape : Shape} {text : List Char} (h : IsLexeme shape text)
    {c : Char} (mem : c ∈ text) (blank : Text.isBlank c) : shape = .quoted ∨ shape = .raw := by
  have digits {ds : List Char} {n : Nat} (numeral : Numeral ds n) : c ∉ ds := fun hc => by
    rw [Text.isBlank_of_isDigit (numeral.isDigit c hc)] at blank
    cases blank
  cases h with
  | @number negative whole fraction n hw hf =>
    have before : c ∉ sign negative := by
      cases negative with
      | true =>
        rintro (_ | ⟨_, ⟨⟩⟩)
        exact absurd blank (by decide)
      | false => exact List.not_mem_nil
    have after : c ∉ fraction := by
      cases hf with
      | none => exact List.not_mem_nil
      | digits h =>
        rintro (_ | ⟨_, hc⟩)
        · exact absurd blank (by decide)
        · exact digits h hc
    simp [before, digits hw, after] at mem
  | word h =>
    rw [Text.isBlank_of_isWordPart (Text.isWordPart_of_isWord h c mem)] at blank
    cases blank
  | quoted => exact .inl rfl
  | raw => exact .inr rfl
  | symbol h =>
    have table : ∀ entry ∈ symbols, entry.1.all fun c => !Text.isBlank c := by decide
    have visible := List.all_eq_true.1 (table _ h) c mem
    simp [blank] at visible

/-- Before a blank, or at the end, a lexeme is the longest one where it stands. -/
theorem IsLexeme.isLongest {shape : Shape} {text : List Char} (h : IsLexeme shape text)
    {rest : List Char} (ends : ∀ c ∈ rest.head?, Text.isBlank c) :
    IsLongest shape text (text ++ rest) := by
  obtain ⟨shape', more, taken, same, closed⟩ := h.lexeme?_append rest
  obtain ⟨start, lexeme⟩ := lexeme?_sound taken
  have whole : more = [] := by
    cases more with
    | nil => rfl
    | cons c more =>
      obtain ⟨after, rfl⟩ := (List.prefix_append_right_inj text).1 start
      exact closed (lexeme.quotes_of_isBlank (c := c) (by simp) (ends c rfl))
  rw [same whole, whole, List.append_nil] at taken
  exact lexeme?_eq_some_iff.1 taken

theorem Joined.tokenized {kinds : List TokenKind} {text : List Char} (h : Joined kinds text) :
    ∀ (offset : Nat) (blanks : List Char), (∀ c ∈ blanks, Text.isBlank c) →
      ∃ ts, Tokenized offset (blanks ++ text) ts ∧ ts.map Token.kind = kinds := by
  induction h with
  | nil => exact fun offset blanks hb => ⟨[], .done (by simpa using hb), rfl⟩
  | @cons kind kinds text gap rest writes hg separated more ih =>
    intro offset blanks hb
    obtain ⟨shape, lexeme, means⟩ := writes.lexeme
    obtain ⟨ts, others, same⟩ := ih (offset + Text.byteLength blanks + Text.byteLength text) gap hg
    have ends : ∀ c ∈ (gap ++ rest).head?, Text.isBlank c := by
      cases gap with
      | cons c gap =>
        rintro _ ⟨⟩
        exact hg c List.mem_cons_self
      | nil =>
        obtain rfl := separated.resolve_left (absurd rfl)
        cases more
        nofun
    exact ⟨_, .token hb (lexeme.isLongest ends) means others, by rw [List.map_cons, same]⟩

theorem Joined.tokens {kinds : List TokenKind} {filter : String} (h : Joined kinds filter.toList) :
    ∃ ts, tokens filter = .ok ts ∧ ts.map Token.kind = kinds := by
  obtain ⟨ts, lie, same⟩ := h.tokenized 0 [] (by simp)
  exact ⟨ts, lie.tokensFrom, same⟩

/-- What tokens are read as is what a filter in which they are written is read as. -/
theorem Joined.parse {kinds : List TokenKind} {filter : String} (h : Joined kinds filter.toList)
    {e : Expr} (reads : exprOf (kinds.map (⟨·, 0, ""⟩)) = .ok e) : Expr.parse filter = .ok e := by
  obtain ⟨ts, cut, same⟩ := h.tokens
  rw [Expr.parse, cut]
  refine mapError_eq_ok_iff.2 (exprOf_of_kinds reads ?_)
  rw [same, List.map_map]
  exact (List.map_id kinds).symm

/-- A constant that is written alone is a filter. -/
theorem Writes.parse {kind : TokenKind} {text : List Char} (h : Writes kind text) {l : Literal}
    (constant : exprOf [⟨kind, 0, ""⟩] = .ok (.literal l)) :
    Expr.parse (.ofList text) = .ok (.literal l) := by
  have alone : Joined [kind] (String.ofList text).toList := by
    have nothing : ∀ c ∈ [], Text.isBlank c := nofun
    simpa using Joined.cons h nothing (.inr rfl) .nil
  exact alone.parse constant

/-- Tokens that are written with blanks between them are read back; all tokens can be written so but words
that are none and numbers with a point; and every text and every 64-bit number is a filter. -/
theorem joined_readBack :
    (∀ (kinds : List TokenKind) (filter : String), Joined kinds filter.toList →
      ∃ ts, tokens filter = .ok ts ∧ ts.map Token.kind = kinds) ∧
      (∀ kinds : List TokenKind, (∀ kind ∈ kinds, kind.isWritable) →
        ∃ filter : String, Joined kinds filter.toList) ∧
      (∀ s : String, ∃ filter, Expr.parse filter = .ok (.literal (.text s))) ∧
      ∀ n : Int64, ∃ filter, Expr.parse filter = .ok (.literal (.number (.integer n))) := by
  refine ⟨fun kinds filter joined => joined.tokens, fun kinds writable => ?_, fun s => ?_, fun n => ?_⟩
  · obtain ⟨text, joined⟩ := exists_joined writable
    exact ⟨.ofList text, by simpa using joined⟩
  · exact ⟨_, (Writes.quoted s).parse rfl⟩
  · exact ⟨_, (Writes.integer n).parse rfl⟩

/-- The characters that are escaped, the least number, and a backslash in back quotes. -/
def extremes : List TokenKind :=
  [.text "\"\\\n\r\t", .number (.integer Int64.minValue), .text "\\"]

/-- A way to write them, with an ideographic space between the first two. -/
def extremesFilter : String :=
  "\"\\\"\\\\\\n\\r\\t\"\u3000-9223372036854775808 \x60\\\x60"

theorem joined_readBack_extremes :
    (∀ kind ∈ extremes, kind.isWritable) ∧ (∃ filter : String, Joined extremes filter.toList) ∧
      Joined extremes extremesFilter.toList ∧
      ∃ ts, tokens extremesFilter = .ok ts ∧ ts.map Token.kind = extremes := by
  have writable : ∀ kind ∈ extremes, kind.isWritable := by decide
  have wide : ∀ c ∈ ['\u3000'], Text.isBlank c := List.forall_mem_singleton.2 (by decide)
  have narrow : ∀ c ∈ [' '], Text.isBlank c := List.forall_mem_singleton.2 (by decide)
  have joined : Joined extremes _ :=
    .cons (.quoted _) wide (.inl (by decide)) (.cons (.integer _) narrow (.inl (by decide))
      (.cons (.raw (by decide)) (List.forall_mem_nil _) (.inr rfl) .nil))
  have joined : Joined extremes extremesFilter.toList := by
    convert joined using 1
    decide +kernel
  exact ⟨writable, joined_readBack.2.1 extremes writable, joined,
    joined_readBack.1 extremes extremesFilter joined⟩

end Listings.Filter
