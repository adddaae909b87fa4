import Listings.Filter.Token
import Listings.Proofs.Dates
import Listings.Proofs.Outcome

/-!
# Lexemes

What the texts of tokens look like and what they stand for, told without anything that reads them.

* `IsLexeme`: the texts of every shape.
* `IsLongest`: the longest lexeme that a text begins with.
* `lexeme?_eq_some_iff`: it is what is taken from the head of a filter.
* `Means`: what a lexeme stands for.
* `decode_eq_ok_iff`: it is what the text of a token is decoded to.
-/

namespace Listings.Filter

/-! ## The texts of every shape -/

/-- Text that may stand in double quotes: no quote is left alone, and every backslash has a character
after it on the same line. -/
inductive Quotable : List Char → Prop
  | nil : Quotable []
  | plain {c : Char} {body : List Char} (quote : c ≠ '"') (backslash : c ≠ '\\')
      (h : Quotable body) : Quotable (c :: body)
  | escape {c : Char} {body : List Char} (hc : c ≠ '\n') (h : Quotable body) :
      Quotable ('\\' :: c :: body)

/-- The sign before a number. -/
def sign (negative : Bool) : List Char := if negative then ['-'] else []

/-- The end of a number: nothing, or a point and digits. -/
inductive IsFraction : List Char → Prop
  | none : IsFraction []
  | digits {ds : List Char} {n : Nat} (h : Numeral ds n) : IsFraction ('.' :: ds)

/-- A text is a lexeme of a shape, wherever it stands. -/
inductive IsLexeme : Shape → List Char → Prop
  | number {negative : Bool} {whole fraction : List Char} {n : Nat} (hw : Numeral whole n)
      (hf : IsFraction fraction) : IsLexeme .number (sign negative ++ whole ++ fraction)
  | word {text : List Char} (h : Text.isWord text) : IsLexeme .word text
  | quoted {body : List Char} (h : Quotable body) : IsLexeme .quoted ('"' :: body ++ ['"'])
  | raw {body : List Char} (h : backQuote ∉ body) :
      IsLexeme .raw (backQuote :: body ++ [backQuote])
  | symbol {text : List Char} {s : Symbol} (h : (text, s) ∈ symbols) : IsLexeme (.symbol s) text

/-- A text is a lexeme, another text begins with it, and with no longer one. -/
structure IsLongest (shape : Shape) (text cs : List Char) : Prop where
  lexeme : IsLexeme shape text
  start : text <+: cs
  longest : ∀ shape' text', IsLexeme shape' text' → text' <+: cs → text'.length ≤ text.length

/-- The characters that a lexeme of a shape may begin with. -/
def Shape.starts : Shape → Char → Bool
  | number, c => c = '-' || c.isDigit
  | word, c => Text.isWordStart c
  | quoted, c => c = '"'
  | raw, c => c = backQuote
  | symbol _, c => ['&', '|', '=', '!', '<', '>', '%', '(', ')', ','].contains c

/-- A lexeme is not empty. -/
theorem IsLexeme.exists_cons {shape : Shape} {text : List Char} (h : IsLexeme shape text) :
    ∃ c cs, text = c :: cs ∧ shape.starts c := by
  cases h with
  | @number negative whole fraction n hw hf =>
    cases negative with
    | true => exact ⟨'-', whole ++ fraction, rfl, rfl⟩
    | false =>
      obtain ⟨c, cs, rfl, digit⟩ := hw.exists_cons
      exact ⟨c, cs ++ fraction, rfl, by simp [Shape.starts, digit]⟩
  | word h =>
    cases text with
    | nil => cases h
    | cons c cs => exact ⟨c, cs, rfl, (Bool.and_eq_true_iff.1 h).1⟩
  | quoted h => exact ⟨_, _, rfl, rfl⟩
  | raw h => exact ⟨_, _, rfl, rfl⟩
  | @symbol text s h =>
    have table : ∀ entry ∈ symbols, entry.1.head?.any (Shape.symbol entry.2).starts := by decide
    obtain ⟨c, first, starts⟩ := (Option.any_eq_true _ _).1 (table _ h)
    obtain ⟨cs, rfl⟩ := List.head?_eq_some_iff.1 first
    exact ⟨c, cs, rfl, starts⟩

/-! ## Numbers -/

section Numbers

variable {whole fraction rest : List Char} {n : Nat}

theorem digitRun_append (hw : Numeral whole n) (rest : List Char) :
    digitRun (whole ++ rest) = whole ++ digitRun rest :=
  List.takeWhile_append_of_pos hw.isDigit

theorem numeral_digitRun {cs : List Char} (h : ¬(digitRun cs).isEmpty) :
    ∃ n, Numeral (digitRun cs) n :=
  ⟨_, Date.numeral_takeWhile h⟩

theorem isFraction_fractionText (cs : List Char) :
    IsFraction (fractionText cs) ∧ fractionText cs <+: cs := by
  unfold fractionText
  split
  · next cs =>
    by_cases none : (digitRun cs).isEmpty
    · rw [if_pos none]
      exact ⟨.none, List.nil_prefix⟩
    · obtain ⟨n, numeral⟩ := numeral_digitRun none
      rw [if_neg none]
      exact ⟨.digits numeral, (List.prefix_cons_inj _).2 (List.takeWhile_prefix _)⟩
  · exact ⟨.none, List.nil_prefix⟩

theorem magnitudeText?_sound {cs text : List Char} (h : magnitudeText? cs = some text) :
    text <+: cs ∧ ∃ whole fraction n, text = whole ++ fraction ∧ Numeral whole n ∧
      IsFraction fraction := by
  simp only [magnitudeText?] at h
  split at h
  · cases h
  · next digits =>
    cases h
    obtain ⟨n, numeral⟩ := numeral_digitRun digits
    have initial : digitRun cs <+: cs := List.takeWhile_prefix _
    obtain ⟨fraction, start⟩ := isFraction_fractionText (cs.drop (digitRun cs).length)
    refine ⟨?_, _, _, n, rfl, numeral, fraction⟩
    have whole := List.prefix_iff_eq_append.1 initial
    conv => rhs; rw [← whole]
    exact (List.prefix_append_right_inj _).2 start

theorem magnitudeText?_eq {cs run : List Char} (digits : digitRun cs = run) (ne : run ≠ []) :
    magnitudeText? cs = some (run ++ fractionText (cs.drop run.length)) := by
  subst digits
  simp [magnitudeText?, ne]

theorem magnitudeText?_append (hw : Numeral whole n) (hf : IsFraction fraction)
    (rest : List Char) :
    ∃ more, magnitudeText? (whole ++ fraction ++ rest) = some (whole ++ fraction ++ more) := by
  cases hf with
  | none =>
    have nonempty : whole ++ digitRun rest ≠ [] := by simp [hw.ne_nil]
    rw [List.append_nil, magnitudeText?_eq (digitRun_append hw rest) nonempty, List.append_assoc]
    exact ⟨_, rfl⟩
  | @digits ds m h =>
    have run : digitRun (whole ++ '.' :: (ds ++ rest)) = whole :=
      (digitRun_append hw _).trans (List.append_nil whole)
    have nonempty : digitRun (ds ++ rest) ≠ [] := by simp [digitRun_append h, h.ne_nil]
    have point : fractionText ('.' :: (ds ++ rest)) = '.' :: (ds ++ digitRun rest) := by
      rw [fractionText, if_neg (by simpa using nonempty), digitRun_append h]
    refine ⟨digitRun rest, ?_⟩
    rw [List.append_assoc, List.cons_append, magnitudeText?_eq run hw.ne_nil, List.drop_left, point,
      List.append_assoc, List.cons_append]

theorem numberText?_sound {cs text : List Char} (h : numberText? cs = some text) :
    text <+: cs ∧ IsLexeme .number text := by
  unfold numberText? at h
  split at h
  · obtain ⟨text, found, rfl⟩ := Option.map_eq_some_iff.1 h
    obtain ⟨start, whole, fraction, n, rfl, hw, hf⟩ := magnitudeText?_sound found
    exact ⟨(List.prefix_cons_inj _).2 start, @IsLexeme.number true _ _ _ hw hf⟩
  · obtain ⟨start, whole, fraction, n, rfl, hw, hf⟩ := magnitudeText?_sound h
    exact ⟨start, @IsLexeme.number false _ _ _ hw hf⟩

theorem numberText?_append (negative : Bool) (hw : Numeral whole n) (hf : IsFraction fraction)
    (rest : List Char) :
    ∃ more, numberText? (sign negative ++ whole ++ fraction ++ rest)
      = some (sign negative ++ whole ++ fraction ++ more) := by
  obtain ⟨more, found⟩ := magnitudeText?_append hw hf rest
  refine ⟨more, ?_⟩
  cases negative with
  | true => simpa [numberText?, sign] using found
  | false =>
    obtain ⟨c, cs, rfl, digit⟩ := hw.exists_cons
    have unsigned : numberText? (c :: cs ++ fraction ++ rest)
        = magnitudeText? (c :: cs ++ fraction ++ rest) := by
      unfold numberText?
      split
      · next same =>
        cases same
        cases digit
      · rfl
    exact unsigned.trans found

theorem numberText?_eq_none {c : Char} (h : Shape.number.starts c = false) (cs : List Char) :
    numberText? (c :: cs) = none := by
  simp only [Shape.starts, Bool.or_eq_false_iff, decide_eq_false_iff_not] at h
  unfold numberText?
  split
  · next same =>
    cases same
    exact absurd rfl h.1
  · simp [magnitudeText?, digitRun, h.2]

end Numbers

/-! ## Texts in quotes -/

theorem quotedRest?_append {body : List Char} (h : Quotable body) (rest : List Char) :
    quotedRest? (body ++ '"' :: rest) = some (body ++ ['"']) := by
  induction h with
  | nil => rfl
  | @plain c body quote backslash h ih =>
    rw [List.cons_append, quotedRest?, if_neg backslash, ih]
    · rfl
    · exact fun same => quote same
    · exact fun _ _ same => absurd same backslash
  | @escape c body hc h ih =>
    rw [List.cons_append, List.cons_append, quotedRest?, if_neg hc, ih]
    rfl

theorem quotedRest?_sound {cs text : List Char} (h : quotedRest? cs = some text) :
    text <+: cs ∧ ∃ body, Quotable body ∧ text = body ++ ['"'] := by
  fun_induction quotedRest? cs generalizing text with
  | case1 | case3 | case5 => cases h
  | case2 cs =>
    cases h
    exact ⟨⟨cs, rfl⟩, [], .nil, rfl⟩
  | case4 c cs hc ih =>
    obtain ⟨text, found, rfl⟩ := Option.map_eq_some_iff.1 h
    obtain ⟨start, body, quotable, rfl⟩ := ih found
    refine ⟨?_, '\\' :: c :: body, .escape hc quotable, rfl⟩
    exact (List.prefix_cons_inj _).2 ((List.prefix_cons_inj _).2 start)
  | case6 c cs quote _ backslash ih =>
    obtain ⟨text, found, rfl⟩ := Option.map_eq_some_iff.1 h
    obtain ⟨start, body, quotable, rfl⟩ := ih found
    exact ⟨(List.prefix_cons_inj _).2 start, c :: body, .plain quote backslash quotable, rfl⟩

theorem rawRest?_append {body : List Char} (h : backQuote ∉ body) (rest : List Char) :
    rawRest? (body ++ backQuote :: rest) = some (body ++ [backQuote]) := by
  induction body with
  | nil => rfl
  | cons c body ih =>
    rw [List.mem_cons, not_or] at h
    rw [List.cons_append, rawRest?, if_neg (Ne.symm h.1), ih h.2]
    rfl

theorem rawRest?_sound {cs text : List Char} (h : rawRest? cs = some text) :
    text <+: cs ∧ ∃ body, backQuote ∉ body ∧ text = body ++ [backQuote] := by
  induction cs generalizing text with
  | nil => cases h
  | cons c cs ih =>
    unfold rawRest? at h
    by_cases hc : c = backQuote
    · rw [if_pos hc] at h
      cases h
      exact ⟨⟨cs, rfl⟩, [], List.not_mem_nil, by rw [hc]; rfl⟩
    · rw [if_neg hc] at h
      obtain ⟨text, found, rfl⟩ := Option.map_eq_some_iff.1 h
      obtain ⟨start, body, lacks, rfl⟩ := ih found
      refine ⟨(List.prefix_cons_inj _).2 start, c :: body, ?_, rfl⟩
      exact List.not_mem_cons_of_ne_of_not_mem (Ne.symm hc) lacks

/-! ## What is taken from the head of a filter -/

theorem wordText?_sound {cs text : List Char} (h : wordText? cs = some text) :
    text <+: cs ∧ IsLexeme .word text := by
  unfold wordText? at h
  split at h
  · cases h
  · next c cs =>
    split at h
    · next start =>
      cases h
      refine ⟨(List.prefix_cons_inj _).2 (List.takeWhile_prefix _), .word ?_⟩
      exact Bool.and_eq_true_iff.2 ⟨start, List.all_takeWhile⟩
    · cases h

theorem wordText?_append {word : List Char} (h : Text.isWord word) (rest : List Char) :
    wordText? (word ++ rest) = some (word ++ rest.takeWhile Text.isWordPart) := by
  cases word with
  | nil => cases h
  | cons c cs =>
    obtain ⟨start, parts⟩ := Bool.and_eq_true_iff.1 h
    rw [List.cons_append, wordText?, if_pos start,
      List.takeWhile_append_of_pos (List.all_eq_true.1 parts), List.cons_append]

theorem wordText?_eq_none {c : Char} (h : Shape.word.starts c = false) (cs : List Char) :
    wordText? (c :: cs) = none :=
  if_neg (by simpa [Shape.starts] using h)

theorem quotedText?_sound {cs text : List Char} {shape : Shape}
    (h : quotedText? cs = some (shape, text)) : text <+: cs ∧ IsLexeme shape text := by
  unfold quotedText? at h
  split at h
  · cases h
  · next c cs =>
    by_cases quote : c = '"'
    · rw [if_pos quote] at h
      obtain ⟨text, found, same⟩ := Option.map_eq_some_iff.1 h
      cases same
      obtain ⟨start, body, quotable, rfl⟩ := quotedRest?_sound found
      exact ⟨(List.prefix_cons_inj _).2 start, quote ▸ .quoted quotable⟩
    · rw [if_neg quote] at h
      by_cases back : c = backQuote
      · rw [if_pos back] at h
        obtain ⟨text, found, same⟩ := Option.map_eq_some_iff.1 h
        cases same
        obtain ⟨start, body, lacks, rfl⟩ := rawRest?_sound found
        exact ⟨(List.prefix_cons_inj _).2 start, back ▸ .raw lacks⟩
      · rw [if_neg back] at h
        cases h

theorem quotedText?_eq_none {c : Char} (quoted : Shape.quoted.starts c = false)
    (raw : Shape.raw.starts c = false) (cs : List Char) : quotedText? (c :: cs) = none := by
  simp only [Shape.starts, decide_eq_false_iff_not] at quoted raw
  rw [quotedText?, if_neg quoted, if_neg raw]

theorem symbolText?_sound {cs text : List Char} {shape : Shape}
    (h : symbolText? cs = some (shape, text)) : text <+: cs ∧ IsLexeme shape text := by
  obtain ⟨⟨text, s⟩, found, same⟩ := Option.map_eq_some_iff.1 h
  cases same
  exact ⟨List.isPrefixOf_iff_prefix.1 (by simpa using List.find?_some found),
    .symbol (List.mem_of_find?_eq_some found)⟩

/-- Of the symbols that a text begins with the longest one is found: no symbol stands in the table before
one that it is the beginning of. -/
theorem symbolText?_append {text : List Char} {s : Symbol} (h : (text, s) ∈ symbols)
    (rest : List Char) :
    ∃ s' more, symbolText? (text ++ rest) = some (.symbol s', text ++ more) ∧
      (more = [] → s' = s) := by
  have order : symbols.Pairwise fun a b => a.1.isPrefixOf b.1 = false := by decide
  have here : text.isPrefixOf (text ++ rest) :=
    List.isPrefixOf_iff_prefix.2 (List.prefix_append text rest)
  have some_ : (symbols.find? fun entry => entry.1.isPrefixOf (text ++ rest)).isSome :=
    List.find?_isSome.2 ⟨_, h, here⟩
  obtain ⟨⟨text', s'⟩, found⟩ := Option.isSome_iff_exists.1 some_
  obtain ⟨start, before, after, table, earlier⟩ := List.find?_eq_some_iff_append.1 found
  have taken : symbolText? (text ++ rest) = some (.symbol s', text') := by
    rw [symbolText?, found]
    rfl
  rw [table] at h order
  rcases List.mem_append.1 h with first | later
  · have other := earlier _ first
    simp [here] at other
  · rcases List.mem_cons.1 later with same | later
    · cases same
      exact ⟨s, [], by rwa [List.append_nil], fun _ => rfl⟩
    · have shorter := List.rel_of_pairwise_cons (List.pairwise_append.1 order).2.1 later
      have longer : ¬text' <+: text := fun le => by
        rw [List.isPrefixOf_iff_prefix.2 le] at shorter
        cases shorter
      have both := List.prefix_or_prefix_of_prefix (List.isPrefixOf_iff_prefix.1 start)
        (List.prefix_append text rest)
      obtain ⟨more, rfl⟩ := both.resolve_left longer
      refine ⟨s', more, taken, fun nil => absurd ⟨[], ?_⟩ longer⟩
      rw [nil, List.append_nil, List.append_nil]

theorem lexeme?_sound {cs text : List Char} {shape : Shape}
    (h : lexeme? cs = some (shape, text)) : text <+: cs ∧ IsLexeme shape text := by
  unfold lexeme? at h
  split at h
  · next found =>
    cases h
    exact numberText?_sound found
  · split at h
    · next found =>
      cases h
      exact wordText?_sound found
    · split at h
      · next found =>
        cases h
        exact quotedText?_sound found
      · exact symbolText?_sound h

/-! What a lexeme begins with shows its shape, so the readers before its own find nothing. -/

theorem Shape.starts_number_of_word {c : Char} (h : Shape.word.starts c) :
    Shape.number.starts c = false := by
  have letter : c = '_' ∨ 65 ≤ c.toNat := by
    unfold starts Text.isWordStart Char.isAlpha Char.isUpper Char.isLower at h
    simp only [Bool.or_eq_true, Bool.and_eq_true, decide_eq_true_eq, beq_iff_eq,
      UInt32.le_iff_toNat_le] at h
    rcases h with (⟨upper, -⟩ | ⟨lower, -⟩) | same
    · exact .inr upper
    · exact .inr (Nat.le_trans (by decide) lower)
    · exact .inl same
  rcases letter with rfl | letter
  · decide
  · have minus : c ≠ '-' := by
      rintro rfl
      exact absurd letter (by decide)
    have digit : c.isDigit = false := by
      simp only [Char.isDigit, Bool.and_eq_false_iff, decide_eq_false_iff_not,
        UInt32.le_iff_toNat_le]
      exact .inr fun le => absurd (Nat.le_trans letter le) (by decide)
    simp [starts, minus, digit]

theorem Shape.starts_of_symbol {s : Symbol} {c : Char} (h : (Shape.symbol s).starts c) :
    Shape.number.starts c = false ∧ Shape.word.starts c = false ∧ Shape.quoted.starts c = false ∧
      Shape.raw.starts c = false := by
  have table : ['&', '|', '=', '!', '<', '>', '%', '(', ')', ','].all fun c =>
      !(Shape.number.starts c || Shape.word.starts c || Shape.quoted.starts c
        || Shape.raw.starts c) := by decide
  simpa [and_assoc] using List.all_eq_true.1 table c (List.contains_iff_mem.1 h)

/-- A lexeme at the head of a text is taken, or one that it is the beginning of. A text in quotes ends
where its quote does. -/
theorem IsLexeme.lexeme?_append {shape : Shape} {text : List Char} (h : IsLexeme shape text)
    (rest : List Char) :
    ∃ shape' more, lexeme? (text ++ rest) = some (shape', text ++ more) ∧
      (more = [] → shape' = shape) ∧ (shape' = .quoted ∨ shape' = .raw → more = []) := by
  obtain ⟨c, cs, head, starts⟩ := h.exists_cons
  cases h with
  | @number negative whole fraction n hw hf =>
    obtain ⟨more, found⟩ := numberText?_append negative hw hf rest
    refine ⟨.number, more, ?_, fun _ => rfl, by simp⟩
    simp only [lexeme?, found]
  | word h =>
    have number : numberText? (text ++ rest) = none := by
      rw [head]
      exact numberText?_eq_none (Shape.starts_number_of_word starts) _
    refine ⟨.word, rest.takeWhile Text.isWordPart, ?_, fun _ => rfl, by simp⟩
    simp only [lexeme?, number, wordText?_append h rest]
  | @quoted body h =>
    have number := numberText?_eq_none (c := '"') (by decide) (body ++ '"' :: rest)
    have word := wordText?_eq_none (c := '"') (by decide) (body ++ '"' :: rest)
    refine ⟨.quoted, [], ?_, fun _ => rfl, fun _ => rfl⟩
    rw [List.append_nil, List.cons_append, List.cons_append, List.append_assoc,
      List.singleton_append]
    simp only [lexeme?, number, word, quotedText?, quotedRest?_append h rest, if_true,
      Option.map_some]
  | @raw body h =>
    have number := numberText?_eq_none (c := backQuote) (by decide) (body ++ backQuote :: rest)
    have word := wordText?_eq_none (c := backQuote) (by decide) (body ++ backQuote :: rest)
    have quote : backQuote ≠ '"' := by decide
    refine ⟨.raw, [], ?_, fun _ => rfl, fun _ => rfl⟩
    rw [List.append_nil, List.cons_append, List.cons_append, List.append_assoc,
      List.singleton_append]
    simp only [lexeme?, number, word, quotedText?, if_neg quote, rawRest?_append h rest, if_true,
      Option.map_some]
  | @symbol text s h =>
    obtain ⟨number, word, quoted, raw⟩ := Shape.starts_of_symbol starts
    obtain ⟨s', more, found, same⟩ := symbolText?_append h rest
    refine ⟨.symbol s', more, ?_, fun nil => by rw [same nil], by simp⟩
    rw [head] at found ⊢
    simp only [List.cons_append] at found ⊢
    simp only [lexeme?, numberText?_eq_none number, wordText?_eq_none word,
      quotedText?_eq_none quoted raw, found]

/-- What is taken from the head of a filter is the longest lexeme there. -/
theorem lexeme?_eq_some_iff {cs text : List Char} {shape : Shape} :
    lexeme? cs = some (shape, text) ↔ IsLongest shape text cs := by
  constructor
  · intro h
    obtain ⟨start, lexeme⟩ := lexeme?_sound h
    refine ⟨lexeme, start, fun shape' text' lexeme' start' => ?_⟩
    obtain ⟨rest, rfl⟩ := start'
    obtain ⟨shape'', more, taken, -⟩ := lexeme'.lexeme?_append rest
    rw [h] at taken
    cases taken
    simp
  · rintro ⟨lexeme, ⟨rest, rfl⟩, longest⟩
    obtain ⟨shape', more, taken, same, -⟩ := lexeme.lexeme?_append rest
    obtain ⟨start, lexeme'⟩ := lexeme?_sound taken
    have short := longest _ _ lexeme' start
    rw [List.length_append] at short
    obtain rfl : more = [] := List.length_eq_zero_iff.1 (by omega)
    rw [taken, same rfl, List.append_nil]

/-! ## What a lexeme stands for -/

/-- The body of a text in double quotes spells a text: a backslash and the character after it stand for
one character. -/
inductive Escapes : List Char → List Char → Prop
  | nil : Escapes [] []
  | plain {c : Char} {body s : List Char} (hc : c ≠ '\\') (h : Escapes body s) :
      Escapes (c :: body) (c :: s)
  | escape {c d : Char} {body s : List Char} (hc : escaped? c = some d) (h : Escapes body s) :
      Escapes ('\\' :: c :: body) (d :: s)

/-- A whole number with a sign. -/
def signed (negative : Bool) (n : Nat) : Int := if negative then -n else n

/-- What a lexeme stands for: a word and text in back quotes for themselves, text in double quotes for
what it spells, a number without a point for its exact value, which has 64 bits, and one with a point
for the binary number nearest to it. -/
inductive Means : Shape → List Char → TokenKind → Prop
  | word (text : List Char) : Means .word text (.word (.ofList text))
  | quoted {body s : List Char} (h : Escapes body s) :
      Means .quoted ('"' :: body ++ ['"']) (.text (.ofList s))
  | raw (body : List Char) : Means .raw (backQuote :: body ++ [backQuote]) (.text (.ofList body))
  | integer {negative : Bool} {digits : List Char} {n : Int64} (ne : digits ≠ [])
      (hd : ∀ c ∈ digits, c.isDigit)
      (value : n.toInt = signed negative (Nat.ofDigitChars 10 digits 0)) :
      Means .number (sign negative ++ digits) (.number (.integer n))
  | real {negative : Bool} {whole fraction : List Char} (ne : whole ≠ [] ∧ fraction ≠ [])
      (hd : ∀ c ∈ whole ++ fraction, c.isDigit) :
      Means .number (sign negative ++ whole ++ '.' :: fraction)
        (.number (.real (.ofDecimal negative (Nat.ofDigitChars 10 (whole ++ fraction) 0)
          fraction.length)))
  | symbol (text : List Char) (s : Symbol) : Means (.symbol s) text (.symbol s)

theorem Escapes.unescape {body s : List Char} (h : Escapes body s) : unescape body = .ok s := by
  induction h with
  | nil => rfl
  | @plain c body s hc h ih =>
    rw [Filter.unescape, ih]
    · rfl
    · exact fun _ _ same => absurd same hc
  | escape hc h ih =>
    rw [Filter.unescape, hc, ih]
    rfl

theorem escapes_of_unescape {body s : List Char} (quotable : Quotable body)
    (h : unescape body = .ok s) : Escapes body s := by
  induction quotable generalizing s with
  | nil =>
    cases h
    exact .nil
  | @plain c body quote backslash quotable ih =>
    rw [unescape] at h
    · obtain ⟨s, read, rfl⟩ := map_eq_ok_iff.1 h
      exact .plain backslash (ih read)
    · exact fun _ _ same => absurd same backslash
  | @escape c body hc quotable ih =>
    rw [unescape] at h
    split at h
    · next d found =>
      obtain ⟨s, read, rfl⟩ := map_eq_ok_iff.1 h
      exact .escape found (ih read)
    · cases h

theorem unquoted_enclosed (q : Char) (body : List Char) : unquoted (q :: body ++ [q]) = body := by
  simp [unquoted]

theorem int64?_eq_some_iff {i : Int} {n : Int64} : int64? i = some n ↔ n.toInt = i := by
  have least : Int64.minValue.toInt = -2 ^ 63 := by decide
  have greatest : Int64.maxValue.toInt = 2 ^ 63 - 1 := by decide
  unfold int64?
  rw [least, greatest]
  constructor
  · intro h
    split at h
    · next range =>
      cases h
      exact Int64.toInt_ofInt_of_le range.1 (by omega)
    · cases h
  · rintro rfl
    have low := n.le_toInt
    have high := n.toInt_lt
    rw [if_pos ⟨by omega, by omega⟩, Int64.ofInt_toInt]

/-- A number is read without its sign. -/
theorem numberOf_sign (negative : Bool) {whole : List Char} {n : Nat} (hw : Numeral whole n)
    (rest : List Char) :
    numberOf (sign negative ++ (whole ++ rest))
      = match (whole ++ rest).drop ((digitRun (whole ++ rest)).length + 1) with
        | [] =>
          match int64? (signed negative (Text.ofDigits (digitRun (whole ++ rest)))) with
          | some n => .ok (.integer n)
          | none => .error .numberOutOfRange
        | fraction =>
          .ok (.real (.ofDecimal negative (Text.ofDigits (digitRun (whole ++ rest) ++ fraction))
            fraction.length)) := by
  cases negative with
  | true => rfl
  | false =>
    obtain ⟨c, cs, rfl, digit⟩ := hw.exists_cons
    have unsigned : ((c :: cs ++ rest).head? == some '-') = false := by
      have other : c ≠ '-' := by
        rintro rfl
        cases digit
      simpa using other
    rw [sign, if_neg (by decide), List.nil_append, numberOf]
    simp only [unsigned]
    rfl

theorem numberOf_whole (negative : Bool) {digits : List Char} {m : Nat} (hd : Numeral digits m)
    {x : Number} :
    numberOf (sign negative ++ digits) = .ok x ↔
      ∃ n : Int64, x = .integer n ∧ n.toInt = signed negative (Text.ofDigits digits) := by
  have run : digitRun digits = digits := by
    simpa [digitRun] using digitRun_append hd []
  have read := numberOf_sign negative hd []
  rw [List.append_nil, run, List.drop_eq_nil_of_le (Nat.le_succ _)] at read
  rw [read]
  cases found : int64? (signed negative (Text.ofDigits digits)) with
  | none =>
    refine ⟨nofun, ?_⟩
    rintro ⟨n, -, value⟩
    rw [int64?_eq_some_iff.2 value] at found
    cases found
  | some n =>
    have value := int64?_eq_some_iff.1 found
    constructor
    · intro h
      cases h
      exact ⟨n, rfl, value⟩
    · rintro ⟨n', rfl, value'⟩
      rw [Int64.toInt_inj.1 (value'.trans value.symm)]

theorem numberOf_fraction (negative : Bool) {whole fraction : List Char} {n m : Nat}
    (hw : Numeral whole n) (hf : Numeral fraction m) :
    numberOf (sign negative ++ (whole ++ '.' :: fraction))
      = .ok (.real (.ofDecimal negative (Text.ofDigits (whole ++ fraction)) fraction.length)) := by
  have run : digitRun (whole ++ '.' :: fraction) = whole :=
    (digitRun_append hw _).trans (List.append_nil whole)
  have left : (whole ++ '.' :: fraction).drop (whole.length + 1) = fraction := by simp
  rw [numberOf_sign negative hw, run, left]
  obtain ⟨c, cs, rfl, -⟩ := hf.exists_cons
  rfl

theorem Means.decode {shape : Shape} {text : List Char} {kind : TokenKind}
    (h : Means shape text kind) : shape.decode text = .ok kind := by
  cases h with
  | word | symbol => rfl
  | @quoted body s h => rw [Shape.decode, unquoted_enclosed, h.unescape]; rfl
  | raw body => rw [Shape.decode, unquoted_enclosed]
  | @integer negative digits n ne hd value =>
    rw [← Text.ofDigits_eq] at value
    exact map_eq_ok_iff.2 ⟨_, (numberOf_whole negative ⟨ne, hd, rfl⟩).2 ⟨n, rfl, value⟩, rfl⟩
  | @real negative whole fraction ne hd =>
    obtain ⟨hw, hf⟩ := List.forall_mem_append.1 hd
    rw [← Text.ofDigits_eq, List.append_assoc]
    exact map_eq_ok_iff.2 ⟨_, numberOf_fraction negative ⟨ne.1, hw, rfl⟩ ⟨ne.2, hf, rfl⟩, rfl⟩

/-- The text of a token is decoded to what it stands for. -/
theorem decode_eq_ok_iff {shape : Shape} {text : List Char} {kind : TokenKind}
    (h : IsLexeme shape text) : shape.decode text = .ok kind ↔ Means shape text kind := by
  refine ⟨fun decoded => ?_, Means.decode⟩
  cases h with
  | @number negative whole fraction n hw hf =>
    obtain ⟨x, read, rfl⟩ := map_eq_ok_iff.1 decoded
    cases hf with
    | none =>
      rw [List.append_nil] at read ⊢
      obtain ⟨n, rfl, value⟩ := (numberOf_whole negative hw).1 read
      exact .integer hw.ne_nil hw.isDigit value
    | digits hf =>
      rw [List.append_assoc, numberOf_fraction negative hw hf] at read
      cases read
      exact .real ⟨hw.ne_nil, hf.ne_nil⟩ (List.forall_mem_append.2 ⟨hw.isDigit, hf.isDigit⟩)
  | word h =>
    cases decoded
    exact .word text
  | @quoted body h =>
    rw [Shape.decode, unquoted_enclosed] at decoded
    obtain ⟨s, read, rfl⟩ := map_eq_ok_iff.1 decoded
    exact .quoted (escapes_of_unescape h read)
  | @raw body h =>
    rw [Shape.decode, unquoted_enclosed] at decoded
    cases decoded
    exact .raw body
  | @symbol text s h =>
    cases decoded
    exact .symbol text s

end Listings.Filter
