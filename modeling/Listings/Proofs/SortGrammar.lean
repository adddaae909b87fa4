import Listings.Proofs.Outcome
import Listings.SortRequest

/-!
# The grammar of sort requests

Which texts are sort requests, and what each of them asks for.

* `SortField.Spells`: the ways to write a field with its direction.
* `SortRequest.Wishes`: what a part of a list asks for.
* `SortRequest.Body`, `SortRequest.Asks`: what is left of a text without blanks and mark, and what that
  asks for.
* `SortRequest.parsePart_eq_ok_iff`: the parts that are read.
* `SortRequest.parse_follows_grammar`: the texts that are read, and what happens to the others.
-/

namespace Listings

open Text (Trims Tight)

/-! ## Fields -/

/-- A text spells a field with its direction: there is a sign before the name, or a word after a colon,
which may have blanks around it, or neither of them. -/
inductive SortField.Spells : List Char → SortField → Prop
  | plain {name : List Char} (word : Text.isWord name) : Spells name ⟨.ofList name, .ascending⟩
  | plus {name : List Char} (word : Text.isWord name) :
      Spells ('+' :: name) ⟨.ofList name, .ascending⟩
  | minus {name : List Char} (word : Text.isWord name) :
      Spells ('-' :: name) ⟨.ofList name, .descending⟩
  | worded {name before after : List Char} (word : Text.isWord name)
      (hb : ∀ c ∈ before, Text.isBlank c) (ha : ∀ c ∈ after, Text.isBlank c)
      (direction : Direction) :
      Spells (name ++ before ++ ':' :: (after ++ direction.write.toList))
        ⟨.ofList name, direction⟩

theorem SortField.Spells.ne_nil {item : List Char} {f : SortField} (h : Spells item f) :
    item ≠ [] := by
  cases h with
  | plain word =>
    rintro rfl
    cases word
  | plus word | minus word => exact List.cons_ne_nil _ _
  | worded word hb ha direction => simp

/-- What follows a sign is the name. -/
theorem SortField.Spells.isWord_of_sign {sign : Char} {rest : List Char} {f : SortField}
    (h : Spells (sign :: rest) f) (hs : sign = '+' ∨ sign = '-') : Text.isWord rest := by
  have other : Text.isWordPart sign = false := by rcases hs with rfl | rfl <;> rfl
  generalize same : sign :: rest = item at h
  cases h with
  | plain word => exact absurd List.mem_cons_self (same ▸ Text.not_mem_of_isWord word other)
  | plus word | minus word =>
    cases same
    exact word
  | @worded name before after word hb ha direction =>
    cases name with
    | nil => cases word
    | cons c name =>
      cases same
      exact absurd List.mem_cons_self (Text.not_mem_of_isWord word other)

namespace SortRequest

/-- Without a colon there is no direction; with one, it is divided from the field by the first. -/
theorem splitDirection_eq_ok_iff {item signed : List Char} {suffix : Option Direction} :
    splitDirection item = .ok (signed, suffix) ↔
      (':' ∉ item ∧ signed = item ∧ suffix = none) ∨
      ∃ field word direction, item = field ++ ':' :: word ∧ ':' ∉ field ∧
        Trims field signed ∧ Trims word direction.write.toList ∧ suffix = some direction := by
  unfold splitDirection
  constructor
  · intro h
    split at h
    · next whole =>
      cases h
      exact .inl ⟨Text.splitFirst_eq_none_iff.1 whole, rfl, rfl⟩
    · next field word divided =>
      obtain ⟨rfl, lack⟩ := Text.splitFirst_eq_some_iff.1 divided
      dsimp only at h
      split at h
      · next direction given =>
        cases h
        have written := Direction.ofWord?_eq_some_iff.1 given
        refine .inr ⟨field, word, direction, rfl, lack, Text.trim_eq_iff.1 rfl, ?_, rfl⟩
        rw [← written, String.toList_ofList]
        exact Text.trim_eq_iff.1 rfl
      · cases h
  · rintro (⟨lack, rfl, rfl⟩ | ⟨field, word, direction, rfl, lack, left, given, rfl⟩)
    · rw [Text.splitFirst_eq_none_iff.2 lack]
    · rw [Text.splitFirst_eq_some_iff.2 ⟨rfl, lack⟩]
      simp only [Text.trim_eq_iff.2 left, Text.trim_eq_iff.2 given, String.ofList_toList,
        Direction.ofWord?_write]

/-- A field is read from the name after a sign and from a direction, of which one at most is there. -/
theorem parseField_eq_ok_iff_split {item : List Char} {f : SortField} :
    parseField item = .ok f ↔
      ∃ signed suffix, splitDirection item = .ok (signed, suffix) ∧
        ((splitSign signed).1 = none ∨ suffix = none) ∧ Text.isWord (splitSign signed).2 ∧
        f = ⟨.ofList (splitSign signed).2, ((splitSign signed).1.or suffix).getD .ascending⟩ := by
  have named : ∀ (name : List Char) (direction : Direction),
      (if Text.isWord name then pure ⟨String.ofList name, direction⟩ else throw .notAField
        : Except SortCause SortField) = .ok f ↔
      Text.isWord name ∧ f = ⟨.ofList name, direction⟩ := by
    intro name direction
    split
    · next word =>
      rw [and_iff_right word]
      exact ok_eq_ok_iff
    · next other => exact ⟨nofun, fun h => absurd h.1 other⟩
  unfold parseField
  rw [bind_eq_ok_iff, Prod.exists]
  refine exists_congr fun signed => exists_congr fun suffix => and_congr_right fun _ => ?_
  dsimp only
  generalize splitSign signed = signs
  obtain ⟨_ | sign, name⟩ := signs
  · cases suffix with
    | none => simpa using named name .ascending
    | some direction => simpa using named name direction
  · cases suffix with
    | none => simpa using named name sign
    | some direction =>
      simp only [reduceCtorEq, or_self, false_and, iff_false]
      nofun

theorem spells_splitSign {item : List Char} (h : Text.isWord (splitSign item).2) :
    SortField.Spells item ⟨.ofList (splitSign item).2, (splitSign item).1.getD .ascending⟩ := by
  revert h
  fun_cases splitSign item with
  | case1 name => exact .minus
  | case2 name => exact .plus
  | case3 name _ _ => exact .plain

theorem splitSign_of_none {cs : List Char} (h : (splitSign cs).1 = none) :
    splitSign cs = (none, cs) := by
  revert h
  fun_cases splitSign cs with
  | case1 name | case2 name => nofun
  | case3 name _ _ => exact fun _ => rfl

theorem splitSign_word {name : List Char} (h : Text.isWord name) :
    splitSign name = (none, name) := by
  fun_cases splitSign name with
  | case1 name | case2 name => cases h
  | case3 name _ _ => rfl

/-- What is read as a field spells it, and what spells a field is read as it. -/
theorem parseField_eq_ok_iff {item : List Char} (tight : Tight item) {f : SortField} :
    parseField item = .ok f ↔ SortField.Spells item f := by
  rw [parseField_eq_ok_iff_split]
  constructor
  · rintro ⟨signed, suffix, split, one, word, rfl⟩
    rcases splitDirection_eq_ok_iff.1 split with
      ⟨-, rfl, rfl⟩ | ⟨field, text, direction, rfl, -, left, given, rfl⟩
    · rw [Option.or_none]
      exact spells_splitSign word
    · have unsigned := splitSign_of_none (one.resolve_right nofun)
      rw [unsigned] at word ⊢
      -- No blank stands at the ends of the item, so blanks stand around the colon only.
      obtain @⟨before, _, apart, hb, blankBefore, -⟩ := left
      obtain @⟨apart', _, after, blankAfter, ha, -⟩ := given
      obtain rfl : before = [] := tight.eq_nil_of_prefix (by simp) hb
      obtain rfl : after = [] := tight.eq_nil_of_suffix
        ⟨signed ++ apart ++ ':' :: (apart' ++ direction.write.toList), by simp⟩ ha
      rw [List.append_nil, List.nil_append]
      exact .worded word blankBefore blankAfter direction
  · intro h
    have plain {item : List Char} (lack : ':' ∉ item) :
        splitDirection item = .ok (item, none) := splitDirection_eq_ok_iff.2 (.inl ⟨lack, rfl, rfl⟩)
    have lack {name : List Char} (word : Text.isWord name) : ':' ∉ name :=
      Text.not_mem_of_isWord word rfl
    cases h with
    | plain word =>
      refine ⟨_, _, plain (lack word), .inr rfl, ?_⟩
      rw [splitSign_word word]
      exact ⟨word, rfl⟩
    | plus word => exact ⟨_, _, plain (by simp [lack word]), .inr rfl, word, rfl⟩
    | minus word => exact ⟨_, _, plain (by simp [lack word]), .inr rfl, word, rfl⟩
    | @worded name before after word hb ha direction =>
      have lackField : ':' ∉ name ++ before := by
        rw [List.mem_append, not_or]
        exact ⟨lack word, fun mem => nomatch hb ':' mem⟩
      have left : Trims (name ++ before) name :=
        @Trims.intro [] name before nofun hb (Text.tight_of_isWord word)
      have written : Tight direction.write.toList :=
        Text.tight_of_isWord (by cases direction <;> decide)
      have given : Trims (after ++ direction.write.toList) direction.write.toList := by
        simpa using @Trims.intro after _ [] ha nofun written
      refine ⟨name, some direction, ?_, ?_⟩
      · exact splitDirection_eq_ok_iff.2 (.inr ⟨_, _, direction, rfl, lackField, left, given, rfl⟩)
      · rw [splitSign_word word]
        exact ⟨.inl rfl, word, rfl⟩

/-! ## Parts of a list -/

/-- What a part of a list asks for, with blanks around it: for a random order, or for a field that is
not called so. -/
inductive Wishes : List Char → Option SortField → Prop
  | random {part : List Char} (h : Trims part randomWord.toList) : Wishes part none
  | field {part item : List Char} {f : SortField} (h : Trims part item)
      (hs : SortField.Spells item f) (other : f.field ≠ randomWord) : Wishes part (some f)

theorem parseItem_eq_ok_iff {item : List Char} {wish : Option SortField} :
    parseItem item = .ok wish ↔
      (item = randomWord.toList ∧ wish = none) ∨
      ∃ f, parseField item = .ok f ∧ f.field ≠ randomWord ∧ wish = some f := by
  have plain : parseField randomWord.toList = .ok ⟨randomWord, .ascending⟩ := by rfl
  unfold parseItem
  by_cases h : item = randomWord.toList
  · subst h
    rw [String.ofList_toList, if_pos rfl]
    constructor
    · intro same
      cases same
      exact .inl ⟨rfl, rfl⟩
    · rintro (⟨-, rfl⟩ | ⟨f, read, other, -⟩)
      · rfl
      · rw [plain] at read
        cases read
        exact absurd rfl other
  · have unlike : String.ofList item ≠ randomWord := fun same => h (by rw [← same, String.toList_ofList])
    rw [if_neg unlike]
    simp only [h, false_and, false_or]
    refine bind_eq_ok_iff.trans (exists_congr fun f => and_congr_right fun _ => ?_)
    split
    · next same => exact ⟨nofun, fun h => absurd same h.1⟩
    · next other =>
      rw [and_iff_right other]
      exact ok_eq_ok_iff

/-- A part is read as what it asks for. -/
theorem parsePart_eq_ok_iff {whole part : List Char} {wish : Option SortField} :
    parsePart whole part = .ok wish ↔ Wishes part wish := by
  unfold parsePart
  dsimp only
  constructor
  · intro h
    split at h
    · cases h
    · have left : Trims part (Text.trim part) := Text.trim_eq_iff.1 rfl
      rw [mapError_eq_ok_iff, parseItem_eq_ok_iff] at h
      rcases h with ⟨same, rfl⟩ | ⟨f, read, other, rfl⟩
      · exact .random (same ▸ left)
      · exact .field left ((parseField_eq_ok_iff (Text.tight_trim part)).1 read) other
  · intro h
    cases h with
    | random left =>
      rw [Text.trim_eq_iff.2 left]
      rfl
    | field left spells other =>
      have tight : Tight _ := Text.trim_eq_iff.2 left ▸ Text.tight_trim part
      have ne : ¬(_ : List Char).isEmpty := mt List.isEmpty_iff.1 spells.ne_nil
      rw [Text.trim_eq_iff.2 left, if_neg ne]
      refine mapError_eq_ok_iff.2 (parseItem_eq_ok_iff.2 (.inr ⟨_, ?_, other, rfl⟩))
      exact (parseField_eq_ok_iff tight).2 spells

/-- A part that is not read cannot be read. -/
theorem parsePart_eq_error {whole part : List Char} {e : SortError}
    (h : parsePart whole part = .error e) : ∃ cause item, e = .malformed cause item := by
  unfold parsePart at h
  dsimp only at h
  split at h
  · cases h
    exact ⟨_, _, rfl⟩
  · cases read : parseItem (Text.trim part) with
    | ok wish =>
      rw [read] at h
      cases h
    | error cause =>
      rw [read] at h
      cases h
      exact ⟨_, _, rfl⟩

/-! ## Texts -/

/-- Every part of a list that asks for something asks for something itself. -/
theorem exists_wishes {parts : List (List Char)} {wishes : List (Option SortField)}
    (h : List.Forall₂ Wishes parts wishes) {part : List Char} (mem : part ∈ parts) :
    ∃ wish, Wishes part wish := by
  induction h with
  | nil => cases mem
  | cons first rest ih =>
    rcases List.mem_cons.1 mem with rfl | mem
    · exact ⟨_, first⟩
    · exact ih mem

/-- What is left of a text without the blanks around it, the mark, and the blanks around the rest. -/
def Body (text body : List Char) : Prop :=
  ∃ inner, Trims text inner ∧
    ((∃ rest, inner = modeMark ++ rest ∧ Trims rest body) ∨
      (¬modeMark <+: inner ∧ Trims inner body))

/-- The parts of a list, between which the commas stand. -/
structure Parts (body : List Char) (parts : List (List Char)) : Prop where
  ne_nil : parts ≠ []
  lack : ∀ part ∈ parts, ',' ∉ part
  join : [','].intercalate parts = body

/-- Nothing but the word for the natural order, or nothing at all. -/
def Natural (body : List Char) : Prop := body = [] ∨ body = defaultWord.toList

/-- What the rest of a text asks for. -/
inductive Asks : List Char → SortRequest → Prop
  | default {body : List Char} (h : Natural body) : Asks body .default
  | random {body : List Char} {parts : List (List Char)} {wishes : List (Option SortField)}
      (listed : ¬Natural body) (hp : Parts body parts) (hw : List.Forall₂ Wishes parts wishes)
      (h : none ∈ wishes) : Asks body .random
  | fields {body : List Char} {parts : List (List Char)} {items : List SortField}
      (listed : ¬Natural body) (hp : Parts body parts)
      (hw : List.Forall₂ (fun part f => Wishes part (some f)) parts items) :
      Asks body (.fields items)

/-- What no part of a list may be: nothing, a sign with a direction, or a sign apart from its name. -/
inductive Faulty : List Char → Prop
  | empty : Faulty []
  | twoDirections {sign : Char} {rest : List Char} (hs : sign = '+' ∨ sign = '-')
      (colon : ':' ∈ rest) : Faulty (sign :: rest)
  | apart {sign c : Char} {rest : List Char} (hs : sign = '+' ∨ sign = '-')
      (blank : Text.isBlank c) : Faulty (sign :: c :: rest)

/-- The answer to a text follows the grammar. -/
structure Follows (text : String) (answer : Except SortError SortRequest) : Prop where
  /-- One text is left without the blanks and the mark. -/
  body : ∃ body, ∀ other, Body text.toList other ↔ other = body
  /-- What it asks for is the answer. -/
  accepts : ∀ request, answer = .ok request ↔ ∃ body, Body text.toList body ∧ Asks body request
  /-- If it asks for nothing, the text is refused as one that cannot be read. -/
  refuses : (¬∃ body request, Body text.toList body ∧ Asks body request) →
    ∃ cause item, answer = .error (.malformed cause item)
  /-- So it is for each faulty part of a list, whatever the other parts are. -/
  faulty : ∀ body parts part item, Body text.toList body → ¬Natural body → Parts body parts →
    part ∈ parts → Trims part item → Faulty item →
      ∃ cause item, answer = .error (.malformed cause item)
  /-- Fields are asked for only if there are some. -/
  nonempty : ∀ items, answer = .ok (.fields items) → items ≠ []

theorem withoutMark_eq_iff {cs rest : List Char} :
    withoutMark cs = rest ↔ cs = modeMark ++ rest ∨ (¬modeMark <+: cs ∧ cs = rest) := by
  unfold withoutMark
  simp only [List.isPrefixOf_iff_prefix]
  split
  · next start =>
    obtain ⟨tail, rfl⟩ := start
    simp
  · next other =>
    refine ⟨fun same => .inr ⟨other, same⟩, ?_⟩
    rintro (marked | ⟨-, same⟩)
    · exact absurd ⟨rest, marked.symm⟩ other
    · exact same

theorem body_iff {text body : List Char} :
    Body text body ↔ body = Text.trim (withoutMark (Text.trim text)) := by
  constructor
  · rintro ⟨inner, around, ⟨rest, marked, left⟩ | ⟨unmarked, left⟩⟩
    · rw [Text.trim_eq_iff.2 around, withoutMark_eq_iff.2 (.inl marked), Text.trim_eq_iff.2 left]
    · rw [Text.trim_eq_iff.2 around, withoutMark_eq_iff.2 (.inr ⟨unmarked, rfl⟩),
        Text.trim_eq_iff.2 left]
  · rintro rfl
    refine ⟨_, Text.trim_eq_iff.1 rfl, ?_⟩
    rcases withoutMark_eq_iff.1 (Eq.refl (withoutMark (Text.trim text))) with marked | ⟨other, same⟩
    · exact .inl ⟨_, marked, Text.trim_eq_iff.1 rfl⟩
    · rw [← same]
      exact .inr ⟨other, Text.trim_eq_iff.1 rfl⟩

theorem parts_iff {body : List Char} {parts : List (List Char)} :
    Parts body parts ↔ Text.splitOn ',' body = parts := by
  rw [Text.splitOn_eq_iff]
  exact ⟨fun h => ⟨h.ne_nil, h.lack, h.join⟩, fun ⟨ne, lack, join⟩ => ⟨ne, lack, join⟩⟩

theorem natural_iff {body : List Char} :
    (body.isEmpty || String.ofList body = defaultWord) ↔ Natural body := by
  have word : String.ofList body = defaultWord ↔ body = defaultWord.toList := by
    rw [← String.toList_inj, String.toList_ofList]
  rw [Bool.or_eq_true, List.isEmpty_iff, decide_eq_true_iff, word, Natural]

/-- A list of fields is what is wished for where nobody wishes for a random order. -/
theorem forall₂_wishes_some {parts : List (List Char)} {wishes : List (Option SortField)}
    (h : List.Forall₂ Wishes parts wishes) (named : none ∉ wishes) :
    List.Forall₂ (fun part f => Wishes part (some f)) parts (wishes.filterMap id) := by
  induction h with
  | nil => exact .nil
  | @cons part wish parts wishes first rest ih =>
    rw [List.mem_cons, not_or] at named
    cases wish with
    | none => exact absurd rfl named.1
    | some f => exact .cons first (ih named.2)

/-- What the rest of a text asks for is read from it. -/
theorem parse_eq_ok_iff {text : String} {request : SortRequest} :
    parse text = .ok request ↔ ∃ body, Body text.toList body ∧ Asks body request := by
  simp only [body_iff, exists_eq_left]
  unfold parse
  dsimp only
  generalize Text.trim (withoutMark (Text.trim text.toList)) = body
  have read {parts : List (List Char)} {wishes : List (Option SortField)} :
      parts.mapM (parsePart body) = .ok wishes ↔ List.Forall₂ Wishes parts wishes := by
    simp only [mapM_eq_ok_iff, parsePart_eq_ok_iff]
  split
  · next natural =>
    rw [natural_iff] at natural
    constructor
    · intro h
      cases h
      exact .default natural
    · intro h
      cases h with
      | default => rfl
      | random listed | fields listed => exact absurd natural listed
  · next listed =>
    rw [natural_iff] at listed
    rw [bind_eq_ok_iff]
    constructor
    · rintro ⟨wishes, given, h⟩
      have parts : Parts body (Text.splitOn ',' body) := parts_iff.2 rfl
      split at h
      · next wished =>
        cases h
        exact .random listed parts (read.1 given) (List.contains_iff_mem.1 wished)
      · next named =>
        cases h
        refine .fields listed parts (forall₂_wishes_some (read.1 given) ?_)
        exact fun mem => named (List.contains_iff_mem.2 mem)
    · intro h
      cases h with
      | default natural => exact absurd natural listed
      | @random parts wishes _ divided wished mem =>
        rw [parts_iff.1 divided]
        exact ⟨wishes, read.2 wished, if_pos (List.contains_iff_mem.2 mem)⟩
      | @fields parts items _ divided wished =>
        rw [parts_iff.1 divided]
        refine ⟨items.map some, read.2 (List.forall₂_map_right_iff.2 wished), ?_⟩
        have named : ¬(items.map some).contains none := by simp
        have kept : (items.map some).filterMap id = items := by simp
        rw [if_neg named, kept]
        rfl

/-- A text that is not read cannot be read. -/
theorem parse_eq_error {text : String} {e : SortError} (h : parse text = .error e) :
    ∃ cause item, e = .malformed cause item := by
  unfold parse at h
  dsimp only at h
  generalize Text.trim (withoutMark (Text.trim text.toList)) = body at h
  split at h
  · cases h
  · cases given : (Text.splitOn ',' body).mapM (parsePart body) with
    | ok wishes =>
      rw [given] at h
      change (if wishes.contains none then _ else _) = _ at h
      split at h <;> cases h
    | error e' =>
      rw [given] at h
      cases h
      obtain ⟨part, -, refused⟩ := exists_of_mapM_eq_error given
      exact parsePart_eq_error refused

/-- No field is spelled by a faulty part. -/
theorem Faulty.not_spells {item : List Char} (h : Faulty item) (f : SortField) :
    ¬SortField.Spells item f := by
  intro spells
  cases h with
  | empty => exact spells.ne_nil rfl
  | twoDirections sign colon =>
    exact Text.not_mem_of_isWord (spells.isWord_of_sign sign) rfl colon
  | @apart _ c rest sign blank =>
    have part := Text.isWordPart_of_isWord (spells.isWord_of_sign sign) c List.mem_cons_self
    rw [Text.isBlank_of_isWordPart part] at blank
    cases blank

/-- A faulty part asks for nothing. -/
theorem Faulty.not_wishes {part item : List Char} (h : Faulty item) (left : Trims part item)
    (wish : Option SortField) : ¬Wishes part wish := by
  intro wishes
  rw [← Text.trim_eq_iff] at left
  cases wishes with
  | random left' =>
    rw [Text.trim_eq_iff.2 left'] at left
    subst left
    have word : Text.isWord randomWord.toList := by rfl
    exact h.not_spells _ (.plain word)
  | field left' spells =>
    rw [Text.trim_eq_iff.2 left'] at left
    subst left
    exact h.not_spells _ spells

/-- Every text is answered as the grammar says. -/
theorem parse_follows_grammar (text : String) : Follows text (parse text) := by
  have refused (h : ¬∃ body request, Body text.toList body ∧ Asks body request) :
      ∃ cause item, parse text = .error (.malformed cause item) := by
    cases read : parse text with
    | ok request =>
      obtain ⟨body, left, asks⟩ := parse_eq_ok_iff.1 read
      exact absurd ⟨body, request, left, asks⟩ h
    | error e =>
      obtain ⟨cause, item, rfl⟩ := parse_eq_error read
      exact ⟨cause, item, rfl⟩
  refine ⟨⟨_, fun other => body_iff⟩, fun request => parse_eq_ok_iff, refused, ?_, ?_⟩
  · intro body parts part item left listed divided mem around faulty
    refine refused ?_
    rintro ⟨body', request, left', asks⟩
    obtain rfl : body = body' := (body_iff.1 left).trans (body_iff.1 left').symm
    have unread {wishes : List (Option SortField)} (h : List.Forall₂ Wishes parts wishes) : False := by
      obtain ⟨wish, wished⟩ := exists_wishes h mem
      exact faulty.not_wishes around wish wished
    cases asks with
    | default natural => exact listed natural
    | random _ divided' wished =>
      obtain rfl := (parts_iff.1 divided).symm.trans (parts_iff.1 divided')
      exact unread wished
    | fields _ divided' wished =>
      obtain rfl := (parts_iff.1 divided).symm.trans (parts_iff.1 divided')
      exact unread (List.forall₂_map_right_iff.2 wished)
  · rintro items read rfl
    obtain ⟨body, -, asks⟩ := parse_eq_ok_iff.1 read
    cases asks with
    | fields _ divided wished =>
      cases wished
      exact divided.ne_nil rfl

/-- In a list the word for the natural order is a field like others. -/
example : (parse " sort=default, -score,title :desc").toOption
    = some (.fields [⟨"default", .ascending⟩, ⟨"score", .descending⟩, ⟨"title", .descending⟩]) := by
  decide +kernel

end SortRequest

end Listings
