import Listings.Proofs.Lexemes
import Mathlib.Data.List.TakeWhile

/-!
# The tokens of a filter

A filter is cut into tokens without loss: what is between them is blank, and each of them is the longest
lexeme where it stands.

* `Tokenized`: tokens lie in a text, each with what it stands for.
* `tokensFrom_eq_ok_iff`: they do exactly if they are read from it.
* `places`: where the tokens of a filter stand, and its end after them.
* `Lossless`: what holds of the tokens of a filter and of every character of it.
* `lossless_of_tokens`: it holds of the tokens that are read from a filter.
-/

namespace Listings.Filter

open Text (byteLength)

/-- Tokens lie in a text that starts at an offset: before each of them there are only blanks, each is the
longest lexeme in what is left of the text, and after the last one there are only blanks. -/
inductive Tokenized : Nat → List Char → List Token → Prop
  | done {offset : Nat} {blanks : List Char} (hb : ∀ c ∈ blanks, Text.isBlank c) :
      Tokenized offset blanks []
  | token {offset : Nat} {blanks text rest : List Char} {shape : Shape} {kind : TokenKind}
      {ts : List Token} (hb : ∀ c ∈ blanks, Text.isBlank c)
      (longest : IsLongest shape text (text ++ rest)) (means : Means shape text kind)
      (h : Tokenized (offset + byteLength blanks + byteLength text) rest ts) :
      Tokenized offset (blanks ++ (text ++ rest))
        (⟨kind, offset + byteLength blanks, String.ofList text⟩ :: ts)

/-- A lexeme does not begin with a blank. -/
theorem IsLexeme.head?_not_blank {shape : Shape} {text : List Char} (h : IsLexeme shape text)
    (rest : List Char) : ∀ c ∈ (text ++ rest).head?, Text.isBlank c = false := by
  obtain ⟨c, cs, rfl, starts⟩ := h.exists_cons
  rintro _ ⟨⟩
  cases shape with
  | number =>
    simp only [Shape.starts, Bool.or_eq_true, decide_eq_true_eq] at starts
    rcases starts with rfl | digit
    · decide
    · exact Text.isBlank_of_isDigit digit
  | word => exact Text.isBlank_of_isWordPart (Text.isWordPart_of_isWordStart starts)
  | quoted | raw =>
    simp only [Shape.starts, decide_eq_true_eq] at starts
    subst starts
    decide
  | symbol s =>
    have table : ['&', '|', '=', '!', '<', '>', '%', '(', ')', ','].all fun c =>
        !Text.isBlank c := by decide
    simpa using List.all_eq_true.1 table c (List.contains_iff_mem.1 starts)

/-! ## Tokens are read where they lie -/

theorem tokensFrom_blanks {blanks : List Char} (h : ∀ c ∈ blanks, Text.isBlank c) (offset : Nat) :
    tokensFrom offset blanks = .ok [] := by
  have trimmed : blanks.dropWhile Text.isBlank = [] := List.dropWhile_eq_nil_iff.2 h
  rw [tokensFrom]
  split
  · rfl
  · next found =>
    rw [trimmed] at found
    cases found

theorem tokensFrom_lexeme {offset : Nat} {blanks text rest : List Char} {shape : Shape}
    {kind : TokenKind} {ts : List Token} (hb : ∀ c ∈ blanks, Text.isBlank c)
    (longest : IsLongest shape text (text ++ rest)) (means : Means shape text kind)
    (h : tokensFrom (offset + byteLength blanks + byteLength text) rest = .ok ts) :
    tokensFrom offset (blanks ++ (text ++ rest))
      = .ok (⟨kind, offset + byteLength blanks, String.ofList text⟩ :: ts) := by
  have ends := longest.lexeme.head?_not_blank rest
  have before := Text.takeWhile_run hb ends
  have after := Text.dropWhile_run hb ends
  rw [tokensFrom]
  split
  · next trimmed =>
    obtain ⟨c, cs, rfl, -⟩ := longest.lexeme.exists_cons
    rw [after] at trimmed
    cases trimmed
  · next c cs trimmed =>
    rw [after] at trimmed
    have found := lexeme?_eq_some_iff.2 longest
    rw [trimmed] at found
    split
    · next none =>
      rw [found] at none
      cases none
    · next shape' text' some_ =>
      rw [found] at some_
      cases some_
      rw [before, means.decode, ← trimmed, List.drop_left]
      exact bind_eq_ok_iff.2 ⟨_, rfl, bind_eq_ok_iff.2 ⟨_, h, rfl⟩⟩

theorem Tokenized.tokensFrom {offset : Nat} {cs : List Char} {ts : List Token}
    (h : Tokenized offset cs ts) : tokensFrom offset cs = .ok ts := by
  induction h with
  | done hb => exact tokensFrom_blanks hb _
  | token hb longest means h ih => exact tokensFrom_lexeme hb longest means ih

theorem tokenized_of_tokensFrom {offset : Nat} {cs : List Char} {ts : List Token}
    (h : tokensFrom offset cs = .ok ts) : Tokenized offset cs ts := by
  fun_induction Filter.tokensFrom offset cs generalizing ts with
  | case1 offset cs trimmed =>
    cases h
    exact .done (List.dropWhile_eq_nil_iff.1 trimmed)
  | case2 => cases h
  | case3 offset cs start c rest trimmed shape text found =>
    rename_i ih
    obtain ⟨kind, decoded, h⟩ := bind_eq_ok_iff.1 h
    obtain ⟨others, read, h⟩ := bind_eq_ok_iff.1 h
    cases h
    have longest := lexeme?_eq_some_iff.1 found
    have whole : text ++ (c :: rest).drop text.length = c :: rest :=
      List.prefix_iff_eq_append.1 longest.start
    have lies : cs = cs.takeWhile Text.isBlank ++ (text ++ (c :: rest).drop text.length) := by
      rw [whole, ← trimmed, List.takeWhile_append_dropWhile]
    have means := (decode_eq_ok_iff longest.lexeme).1 (mapError_eq_ok_iff.1 decoded)
    rw [← whole] at longest
    have blank : ∀ c ∈ cs.takeWhile Text.isBlank, Text.isBlank c :=
      List.all_eq_true.1 List.all_takeWhile
    have token := Tokenized.token blank longest means (ih read)
    rwa [← lies] at token

/-- Tokens are read from a text exactly if they lie in it. -/
theorem tokensFrom_eq_ok_iff {offset : Nat} {cs : List Char} {ts : List Token} :
    tokensFrom offset cs = .ok ts ↔ Tokenized offset cs ts :=
  ⟨tokenized_of_tokensFrom, Tokenized.tokensFrom⟩

/-! ## Every token and every character -/

/-- Where the tokens of a filter stand, with their texts, and after them the end of the filter, which has
no text. -/
def places (filter : String) (ts : List Token) : List (Nat × String) :=
  ts.map (fun t => (t.offset, t.text)) ++ [(byteLength filter.toList, "")]

/-- A filter is cut into tokens without loss. -/
structure Lossless (filter : String) (ts : List Token) : Prop where
  /-- The places go from left to right, and the last one is the end of the filter. -/
  increasing : (places filter ts).Pairwise fun p q => p.1 < q.1
  /-- The end is the only place without a text. -/
  finish : ∀ p ∈ places filter ts, p.2 = "" ↔ p.1 = byteLength filter.toList
  /-- Every token is what the filter has at its offset, up to the end of the longest lexeme there, and
  is of the kind that the lexeme stands for. -/
  token : ∀ t ∈ ts, ∃ before rest shape,
    filter.toList = before ++ (t.text.toList ++ rest) ∧ byteLength before = t.offset ∧
      IsLongest shape t.text.toList (t.text.toList ++ rest) ∧ Means shape t.text.toList t.kind
  /-- Every character that is in no token is blank. -/
  blank : ∀ before c rest, filter.toList = before ++ c :: rest →
    Text.isBlank c ∨ ∃ t ∈ ts, t.offset ≤ byteLength before ∧
      byteLength before < t.offset + byteLength t.text.toList

/-- A character that two texts make up together stands in the first or in the second. -/
theorem mem_or_of_append_eq {first second before rest : List Char} {c : Char}
    (h : first ++ second = before ++ c :: rest) :
    (∃ after, first = before ++ c :: after) ∨
      ∃ between, before = first ++ between ∧ second = between ++ c :: rest := by
  rcases List.append_eq_append_iff.1 h with ⟨between, rfl, rfl⟩ | ⟨between, rfl, at_⟩
  · exact .inr ⟨between, rfl, rfl⟩
  · cases between with
    | nil => exact .inr ⟨[], by simp, by simpa using at_.symm⟩
    | cons d ds =>
      obtain ⟨rfl, rfl⟩ := List.cons.inj at_
      exact .inl ⟨ds, rfl⟩

namespace Tokenized

variable {offset : Nat} {cs : List Char} {ts : List Token}

theorem of_mem (h : Tokenized offset cs ts) :
    ∀ t ∈ ts, ∃ before rest shape, cs = before ++ (t.text.toList ++ rest) ∧
      offset + byteLength before = t.offset ∧
      IsLongest shape t.text.toList (t.text.toList ++ rest) ∧ Means shape t.text.toList t.kind := by
  induction h with
  | done => exact fun t ht => absurd ht List.not_mem_nil
  | @token offset blanks text rest shape kind ts hb longest means h ih =>
    refine List.forall_mem_cons.2 ⟨?_, fun t ht => ?_⟩
    · exact ⟨blanks, rest, shape, by simp, rfl, by simpa using longest, by simpa using means⟩
    · obtain ⟨before, rest', shape', rfl, place, longest', means'⟩ := ih t ht
      refine ⟨blanks ++ (text ++ before), rest', shape', by simp, ?_, longest', means'⟩
      rw [← place, Text.byteLength_append, Text.byteLength_append]
      omega

/-- The text of a token is within the text that the tokens lie in, and is not empty. -/
theorem bounds (h : Tokenized offset cs ts) :
    ∀ t ∈ ts, offset ≤ t.offset ∧ 0 < byteLength t.text.toList ∧
      t.offset + byteLength t.text.toList ≤ offset + byteLength cs := by
  intro t ht
  obtain ⟨before, rest, shape, rfl, place, longest, -⟩ := h.of_mem t ht
  obtain ⟨c, cs, text, -⟩ := longest.lexeme.exists_cons
  have pos : 0 < byteLength t.text.toList := Text.byteLength_pos (by rw [text]; nofun)
  rw [Text.byteLength_append, Text.byteLength_append]
  omega

theorem increasing (h : Tokenized offset cs ts) : (ts.map Token.offset).Pairwise (· < ·) := by
  induction h with
  | done => exact .nil
  | @token offset blanks text rest shape kind ts hb longest means h ih =>
    refine List.pairwise_cons.2 ⟨fun next mem => ?_, ih⟩
    obtain ⟨t, ht, rfl⟩ := List.mem_map.1 mem
    obtain ⟨after, -, -⟩ := h.bounds t ht
    obtain ⟨c, cs, rfl, -⟩ := longest.lexeme.exists_cons
    have pos := Text.byteLength_pos (List.cons_ne_nil c cs)
    simp only
    omega

/-- A character that is in no token is blank. -/
theorem blank_or_mem (h : Tokenized offset cs ts) {before rest : List Char} {c : Char}
    (at_ : cs = before ++ c :: rest) :
    Text.isBlank c ∨ ∃ t ∈ ts, t.offset ≤ offset + byteLength before ∧
      offset + byteLength before < t.offset + byteLength t.text.toList := by
  induction h generalizing before with
  | done hb => exact .inl (hb c (by simp [at_]))
  | @token offset blanks text rest' shape kind ts hb longest means h ih =>
    -- the character is one of the blanks, or in the text, or in what the other tokens lie in
    rcases mem_or_of_append_eq at_ with ⟨_, rfl⟩ | ⟨before, rfl, behind⟩
    · exact .inl (hb c (by simp))
    rcases mem_or_of_append_eq behind with ⟨_, rfl⟩ | ⟨before, rfl, further⟩
    · refine .inr ⟨_, List.mem_cons_self, ?_, ?_⟩ <;>
        simp only [Text.byteLength_append, Text.byteLength_cons, String.toList_ofList]
      · omega
      · have pos := Char.utf8Size_pos c
        omega
    rcases ih further with blank | ⟨t, ht, starts, ends⟩
    · exact .inl blank
    · refine .inr ⟨t, List.mem_cons_of_mem _ ht, ?_, ?_⟩ <;>
        simp only [Text.byteLength_append] <;> omega

end Tokenized

/-- The tokens that are read from a filter cut it without loss. -/
theorem lossless_of_tokens {filter : String} {ts : List Token} (h : tokens filter = .ok ts) :
    Lossless filter ts := by
  have lie : Tokenized 0 filter.toList ts := tokensFrom_eq_ok_iff.1 h
  have inside : ∀ t ∈ ts, t.text ≠ "" ∧ t.offset < byteLength filter.toList := by
    intro t ht
    obtain ⟨-, pos, fits⟩ := lie.bounds t ht
    refine ⟨fun empty => ?_, by omega⟩
    simp [empty] at pos
  refine ⟨?_, ?_, ?_, ?_⟩
  · refine List.pairwise_append.2 ⟨?_, by simp, ?_⟩
    · simpa [List.pairwise_map] using lie.increasing
    · rintro _ mem _ last
      obtain ⟨t, ht, rfl⟩ := List.mem_map.1 mem
      obtain rfl := List.mem_singleton.1 last
      exact (inside t ht).2
  · intro p hp
    rcases List.mem_append.1 hp with mem | last
    · obtain ⟨t, ht, rfl⟩ := List.mem_map.1 mem
      exact iff_of_false (inside t ht).1 (inside t ht).2.ne
    · obtain rfl := List.mem_singleton.1 last
      exact iff_of_true rfl rfl
  · simpa using lie.of_mem
  · intro before c rest at_
    simpa using lie.blank_or_mem at_

/-- Tokens that touch, a blank of three bytes, and an escape before a character of four bytes. -/
def crowdedFilter : String := "a >=-12\u3000\"\\t😀\"\x60\\\x60 "

theorem lossless_of_tokens_crowdedFilter :
    ∃ ts, tokens crowdedFilter = .ok ts ∧ Lossless crowdedFilter ts ∧
      ts.map (fun t => (t.kind, t.offset)) =
        [(.word "a", 0), (.symbol (.compare .greaterEqual), 2), (.number (.integer (-12)), 4),
          (.text "\t😀", 10), (.text "\\", 18)] := by
  have read : ((tokens crowdedFilter).toOption.map fun ts => ts.map fun t => (t.kind, t.offset)) =
      some [(.word "a", 0), (.symbol (.compare .greaterEqual), 2), (.number (.integer (-12)), 4),
        (.text "\t😀", 10), (.text "\\", 18)] := by
    decide +kernel
  obtain ⟨ts, cut, kinds⟩ := Option.map_eq_some_iff.1 read
  have cut := toOption_eq_some_iff.1 cut
  exact ⟨ts, cut, lossless_of_tokens cut, kinds⟩

end Listings.Filter
