import Listings.Proofs.FirstFailure
import Listings.Text.Run
import Listings.Text.Split

/-!
# Canonical slugs

What the slug of a name looks like, and which names have none. The transliteration is any that leaves
printable ASCII as it is.

* `MaximalRuns`: the longest runs of characters of one class in a text, which a text has in one way.
* `IsSlug`: nothing, or runs of letters and digits with single hyphens between them.
* `toList_slugBy`: a slug is made of the maximal runs of the spelled name.
* `slugBy_of_isSlug`: a slug is its own slug.
* `Catalog.slugs_canonical`: so it is with the tags of every listed entity, and a test for a tag is
  refused exactly when its name has no slug.
-/

namespace Listings

namespace Text

/-! ## Maximal runs -/

/-- The longest runs of characters of a class in a text, in order. Before, between and after them stand
characters of no such class. -/
inductive MaximalRuns (p : Char → Bool) : List Char → List (List Char) → Prop
  | nil : MaximalRuns p [] []
  | other {c : Char} {cs : List Char} {rs : List (List Char)} (hc : p c = false)
      (h : MaximalRuns p cs rs) : MaximalRuns p (c :: cs) rs
  | run {r rest : List Char} {rs : List (List Char)} (ne : r ≠ []) (inside : ∀ c ∈ r, p c)
      (ends : ∀ c ∈ rest.head?, p c = false) (h : MaximalRuns p rest rs) :
      MaximalRuns p (r ++ rest) (r :: rs)

section Runs

variable {p : Char → Bool} {cs : List Char} {rs : List (List Char)}

theorem MaximalRuns.mem (h : MaximalRuns p cs rs) : ∀ r ∈ rs, r ≠ [] ∧ ∀ c ∈ r, p c := by
  induction h with
  | nil => nofun
  | other _ _ ih => exact ih
  | run ne inside _ _ ih => exact List.forall_mem_cons.2 ⟨⟨ne, inside⟩, ih⟩

/-- A character of the class begins the first run. -/
theorem MaximalRuns.cons {c : Char} (hc : p c) (h : MaximalRuns p cs rs) :
    ∃ rs', MaximalRuns p (c :: cs) rs' := by
  cases h with
  | nil => exact ⟨[[c]], .run (List.cons_ne_nil c []) (by simpa using hc) nofun .nil⟩
  | @other d cs rs hd h =>
    refine ⟨[c] :: rs, .run (List.cons_ne_nil c []) (by simpa using hc) ?_ (.other hd h)⟩
    simpa using hd
  | @run r rest rs ne inside ends h =>
    exact ⟨(c :: r) :: rs,
      .run (List.cons_ne_nil c r) (List.forall_mem_cons.2 ⟨hc, inside⟩) ends h⟩

/-- Every text has maximal runs. -/
theorem exists_maximalRuns (p : Char → Bool) (cs : List Char) : ∃ rs, MaximalRuns p cs rs := by
  induction cs with
  | nil => exact ⟨[], .nil⟩
  | cons c cs ih =>
    obtain ⟨rs, h⟩ := ih
    by_cases hc : p c
    · exact h.cons hc
    · exact ⟨rs, .other (by simpa using hc) h⟩

/-- It has no others. -/
theorem MaximalRuns.unique {rs' : List (List Char)} (h : MaximalRuns p cs rs)
    (h' : MaximalRuns p cs rs') : rs = rs' := by
  induction h generalizing rs' with
  | nil =>
    generalize whole : ([] : List Char) = cs at h'
    cases h' with
    | nil => rfl
    | other => cases whole
    | run ne => exact absurd (List.append_eq_nil_iff.1 whole.symm).1 ne
  | @other c cs rs hc h ih =>
    generalize whole : c :: cs = ds at h'
    cases h' with
    | nil => cases whole
    | other hd h' =>
      cases whole
      exact ih h'
    | @run r rest _ ne inside _ _ =>
      obtain ⟨d, r, rfl⟩ := List.exists_cons_of_ne_nil ne
      cases whole
      rw [inside c List.mem_cons_self] at hc
      cases hc
  | @run r rest rs ne inside ends h ih =>
    generalize whole : r ++ rest = ds at h'
    cases h' with
    | nil => exact absurd (List.append_eq_nil_iff.1 whole).1 ne
    | other hd h' =>
      obtain ⟨first, r, rfl⟩ := List.exists_cons_of_ne_nil ne
      rw [← (List.cons.inj whole).1, inside first List.mem_cons_self] at hd
      cases hd
    | @run r' rest' _ ne' inside' ends' h' =>
      have runs : r = r' := by
        rw [← takeWhile_run inside ends, whole, takeWhile_run inside' ends']
      subst runs
      cases List.append_cancel_left whole
      rw [ih h']

/-- There are no runs exactly where no character is of the class. -/
theorem maximalRuns_nil_iff : MaximalRuns p cs [] ↔ ∀ c ∈ cs, p c = false := by
  constructor
  · intro h
    generalize none : ([] : List (List Char)) = rs at h
    induction h with
    | nil => nofun
    | other hc _ ih => exact List.forall_mem_cons.2 ⟨hc, ih none⟩
    | run => cases none
  · intro h
    induction cs with
    | nil => exact .nil
    | cons c cs ih =>
      obtain ⟨hc, others⟩ := List.forall_mem_cons.1 h
      exact .other hc (ih others)

/-- Runs with a character of no such class between them are the maximal runs of the whole. -/
theorem maximalRuns_intercalate {sep : Char} (hs : p sep = false)
    (h : ∀ r ∈ rs, r ≠ [] ∧ ∀ c ∈ r, p c) : MaximalRuns p ([sep].intercalate rs) rs := by
  induction rs with
  | nil => exact .nil
  | cons r rs ih =>
    obtain ⟨⟨ne, inside⟩, others⟩ := List.forall_mem_cons.1 h
    cases rs with
    | nil =>
      simpa using MaximalRuns.run ne inside (by simp) .nil
    | cons second rs =>
      rw [List.intercalate_cons_cons, List.append_assoc]
      exact .run ne inside (by simpa using hs) (.other hs (ih others))

end Runs

/-! ## The form of slugs -/

/-- Nothing, or runs of letters and digits with single hyphens between them. -/
def IsSlug (cs : List Char) : Prop :=
  ∃ rs, (∀ r ∈ rs, r ≠ [] ∧ ∀ c ∈ r, isSlugChar c) ∧ cs = ['-'].intercalate rs

theorem isSlugChar_hyphen : isSlugChar '-' = false := rfl

theorem ne_hyphen_of_isSlugChar {c : Char} (h : isSlugChar c) : c ≠ '-' := by
  rintro rfl
  cases h

theorem IsSlug.mem {cs : List Char} (h : IsSlug cs) : ∀ c ∈ cs, isSlugChar c ∨ c = '-' := by
  obtain ⟨rs, runs, rfl⟩ := h
  intro c hc
  induction rs with
  | nil => simp at hc
  | cons r rs ih =>
    obtain ⟨⟨-, inside⟩, others⟩ := List.forall_mem_cons.1 runs
    cases rs with
    | nil =>
      rw [List.intercalate_singleton] at hc
      exact .inl (inside c hc)
    | cons second rs =>
      simp only [List.intercalate_cons_cons, List.append_assoc, List.mem_append,
        List.mem_singleton] at hc
      rcases hc with hc | hc | hc
      · exact .inl (inside c hc)
      · exact .inr hc
      · exact ih others hc

/-- What stands between the hyphens of a slug that is not empty are its runs. -/
theorem splitOn_intercalate {rs : List (List Char)} (ne : rs ≠ [])
    (h : ∀ r ∈ rs, r ≠ [] ∧ ∀ c ∈ r, isSlugChar c) : splitOn '-' (['-'].intercalate rs) = rs := by
  refine splitOn_eq_iff.2 ⟨ne, fun r hr hyphen => ?_, rfl⟩
  exact ne_hyphen_of_isSlugChar ((h r hr).2 '-' hyphen) rfl

/-- No piece between the hyphens of a slug is empty. -/
theorem IsSlug.nil_notMem {cs : List Char} (h : IsSlug cs) (ne : cs ≠ []) : [] ∉ splitOn '-' cs := by
  obtain ⟨rs, runs, rfl⟩ := h
  have some : rs ≠ [] := by
    rintro rfl
    exact ne rfl
  rw [splitOn_intercalate some runs]
  exact fun empty => (runs [] empty).1 rfl

/-- A slug has no hyphen at its ends and no two in a row. -/
theorem IsSlug.hyphens {cs : List Char} (h : IsSlug cs) :
    cs.head? ≠ some '-' ∧ cs.getLast? ≠ some '-' ∧ ¬['-', '-'] <:+: cs := by
  refine ⟨fun first => ?_, fun last => ?_, ?_⟩
  · obtain ⟨rest, rfl⟩ := List.head?_eq_some_iff.1 first
    exact h.nil_notMem (List.cons_ne_nil _ _) (by simp [splitOn])
  · obtain ⟨front, rfl⟩ := List.getLast?_eq_some_iff.1 last
    refine h.nil_notMem (by simp) ?_
    rw [splitOn_append_cons]
    simp [splitOn]
  · rintro ⟨before, after, rfl⟩
    refine h.nil_notMem (by simp) ?_
    rw [List.append_assoc, List.cons_append, splitOn_append_cons]
    simp [splitOn]

/-! ## Hyphens for other characters -/

theorem hyphenate_append {r : List Char} (inside : ∀ c ∈ r, isSlugChar c) (rest : List Char) :
    hyphenate false (r ++ rest) = r ++ hyphenate false rest := by
  induction r with
  | nil => rfl
  | cons c r ih =>
    obtain ⟨hc, others⟩ := List.forall_mem_cons.1 inside
    rw [List.cons_append, hyphenate, if_pos hc, ih others, List.cons_append]

/-- A run is written as it is, whatever stands before it. -/
theorem hyphenate_run {r : List Char} (ne : r ≠ []) (inside : ∀ c ∈ r, isSlugChar c) (begun : Bool)
    (rest : List Char) : hyphenate begun (r ++ rest) = r ++ hyphenate false rest := by
  obtain ⟨c, r, rfl⟩ := List.exists_cons_of_ne_nil ne
  obtain ⟨hc, others⟩ := List.forall_mem_cons.1 inside
  rw [List.cons_append, hyphenate, if_pos hc, hyphenate_append others, List.cons_append]

/-- A stretch of other characters that begins here gives the hyphen that it does not give when it has
begun before. -/
theorem hyphenate_false (cs : List Char) :
    ∃ before, (∀ c ∈ before, c = '-') ∧ hyphenate false cs = before ++ hyphenate true cs := by
  cases cs with
  | nil => exact ⟨[], nofun, rfl⟩
  | cons c cs =>
    by_cases hc : isSlugChar c
    · exact ⟨[], nofun, by simp [hyphenate, hc]⟩
    · exact ⟨['-'], by simp, by simp [hyphenate, hc]⟩

/-- After a stretch of other characters the runs follow with hyphens between them, and perhaps one
after the last. -/
theorem MaximalRuns.hyphenate {cs : List Char} {rs : List (List Char)}
    (h : MaximalRuns isSlugChar cs rs) :
    ∃ after, (∀ c ∈ after, c = '-') ∧ hyphenate true cs = ['-'].intercalate rs ++ after := by
  induction h with
  | nil => exact ⟨[], nofun, rfl⟩
  | other hc h ih => simpa [Text.hyphenate, hc] using ih
  | @run r rest rs ne inside ends h ih =>
    obtain ⟨after, hyphens, written⟩ := ih
    rw [hyphenate_run ne inside]
    cases rest with
    | nil =>
      cases h.unique .nil
      exact ⟨[], nofun, by simp [Text.hyphenate]⟩
    | cons c rest =>
      have hc : isSlugChar c = false := ends c rfl
      have gap : Text.hyphenate false (c :: rest) = '-' :: Text.hyphenate true (c :: rest) := by
        simp [Text.hyphenate, hc]
      rw [gap, written]
      cases rs with
      | nil => exact ⟨'-' :: after, List.forall_mem_cons.2 ⟨rfl, hyphens⟩, by simp⟩
      | cons second rs => exact ⟨after, hyphens, by simp [List.intercalate_cons_cons]⟩

/-- Hyphens around a text are taken away. -/
theorem stripHyphens_eq {before cs after : List Char} (hb : ∀ c ∈ before, c = '-')
    (ha : ∀ c ∈ after, c = '-') (first : cs.head? ≠ some '-') (last : cs.getLast? ≠ some '-') :
    stripHyphens (before ++ cs ++ after) = cs := by
  have hb : ∀ c ∈ before, (c == '-') = true := fun c hc => beq_iff_eq.2 (hb c hc)
  have ha : ∀ c ∈ after.reverse, (c == '-') = true := fun c hc =>
    beq_iff_eq.2 (ha c (List.mem_reverse.1 hc))
  unfold stripHyphens
  cases cs with
  | nil =>
    -- Nothing but hyphens: all of them are leading ones.
    have all : ∀ c ∈ before ++ after, (c == '-') = true :=
      List.forall_mem_append.2 ⟨hb, fun c hc => ha c (List.mem_reverse.2 hc)⟩
    rw [List.append_nil, ← List.append_nil (before ++ after), dropWhile_run all (by simp)]
    rfl
  | cons c cs =>
    have start : ∀ d ∈ (c :: cs ++ after).head?, (d == '-') = false := by simpa using first
    have finish : ∀ d ∈ (c :: cs).reverse.head?, (d == '-') = false := by
      intro d hd
      rw [List.head?_reverse] at hd
      exact beq_eq_false_iff_ne.2 fun same => last (same ▸ hd)
    rw [List.append_assoc, dropWhile_run hb start, List.reverse_append, dropWhile_run ha finish,
      List.reverse_reverse]

theorem stripHyphens_hyphenate {cs : List Char} {rs : List (List Char)}
    (h : MaximalRuns isSlugChar cs rs) :
    stripHyphens (Text.hyphenate false cs) = ['-'].intercalate rs := by
  obtain ⟨before, hb, start⟩ := hyphenate_false cs
  obtain ⟨after, ha, written⟩ := h.hyphenate
  have slug : IsSlug (['-'].intercalate rs) := ⟨rs, h.mem, rfl⟩
  obtain ⟨first, last, -⟩ := slug.hyphens
  rw [start, written, ← List.append_assoc, stripHyphens_eq hb ha first last]

/-! ## Slugs of names -/

section Slugs

variable (t : Transliteration) {name : String}

/-- A slug is made of the maximal runs of the spelled name. -/
theorem toList_slugBy {rs : List (List Char)} (h : MaximalRuns isSlugChar (spelledName t name) rs) :
    (slugBy t name).toList = ['-'].intercalate rs := by
  rw [slugBy, String.toList_ofList, stripHyphens_hyphenate h]

theorem isSlug_slugBy (name : String) : IsSlug (slugBy t name).toList := by
  obtain ⟨rs, h⟩ := exists_maximalRuns isSlugChar (spelledName t name)
  exact ⟨rs, h.mem, toList_slugBy t h⟩

/-- Slugs are printable ASCII in lower case, so that they are spelled as they are. -/
theorem spelledName_of_isSlug (h : IsSlug name.toList) : spelledName t name = name.toList := by
  have plain : ∀ c ∈ name.toList, isPlain c ∧ c.toLower = c := by
    intro c hc
    rcases h.mem c hc with slug | rfl
    · have range : 97 ≤ c.toNat ∧ c.toNat ≤ 122 ∨ 48 ≤ c.toNat ∧ c.toNat ≤ 57 := by
        unfold isSlugChar Char.isLower Char.isDigit at slug
        simpa [UInt32.le_iff_toNat_le] using slug
      have notUpper : ¬(c.val ≥ 'A'.val ∧ c.val ≤ 'Z'.val) := by
        rintro ⟨least, most⟩
        have least : 65 ≤ c.toNat := UInt32.le_iff_toNat_le.1 least
        have most : c.toNat ≤ 90 := UInt32.le_iff_toNat_le.1 most
        omega
      refine ⟨decide_eq_true (by omega), ?_⟩
      unfold Char.toLower
      exact dif_neg notUpper
    · exact ⟨rfl, rfl⟩
  rw [spelledName, t.plain _ fun c hc => (plain c hc).1]
  rw [List.map_congr_left fun c hc => (plain c hc).2, List.map_id']

/-- A slug is its own slug. -/
theorem slugBy_of_isSlug (h : IsSlug name.toList) : slugBy t name = name := by
  obtain ⟨rs, runs, whole⟩ := h
  have maximal : MaximalRuns isSlugChar (spelledName t name) rs := by
    rw [spelledName_of_isSlug t ⟨rs, runs, whole⟩, whole]
    exact maximalRuns_intercalate isSlugChar_hyphen runs
  rw [← String.toList_inj, toList_slugBy t maximal, whole]

/-- A name has no slug exactly when nothing of its spelling can stand in one. -/
theorem slugBy_eq_empty_iff :
    slugBy t name = "" ↔ ∀ c ∈ spelledName t name, isSlugChar c = false := by
  obtain ⟨rs, h⟩ := exists_maximalRuns isSlugChar (spelledName t name)
  rw [← maximalRuns_nil_iff, ← String.toList_inj, toList_slugBy t h]
  constructor
  · intro empty
    cases rs with
    | nil => exact h
    | cons r rs =>
      obtain ⟨ne, -⟩ := h.mem r List.mem_cons_self
      cases rs with
      | nil => exact absurd (by simpa using empty) ne
      | cons second rs => simp [List.intercalate_cons_cons] at empty
  · intro none
    rw [h.unique none]
    rfl

end Slugs

end Text

/-! ## Tests for tags -/

/-- A name given as an argument. -/
def Expr.ofText (name : String) : Expr := .literal (.text name)

/-- An entity that takes the ids of tags from their names in a transliteration. -/
def Entity.spelledIn (t : Text.Transliteration) (entity : Entity) : Entity :=
  { entity with
    id? := fun association name =>
      if association = Catalog.tags then some (Text.slugBy t name) else none }

section Tags

variable {entity : Entity} {association : String} {n : String}

theorem Entity.member_text {id : String} (h : entity.id? association n = some id)
    (function : String) :
    entity.member function association (.ofText n)
      = if id.isEmpty then .error (.noMember function n association) else .ok id := by
  unfold Entity.member Expr.ofText Expr.textArgument
  simp only [bind, Except.bind, h]
  rfl

/-- Only an argument with the name that is reported is refused for naming no member. -/
theorem Entity.id?_of_noMember {function : String} {e : Expr}
    (h : entity.member function association e = .error (.noMember function n association)) :
    ∃ id, entity.id? association n = some id ∧ id.isEmpty := by
  unfold Entity.member at h
  rcases bind_eq_error_iff.1 h with notText | ⟨s, -, h⟩
  · unfold Expr.textArgument at notText
    split at notText <;> cases notText
  · split at h
    · cases h
    · next id found =>
      split at h
      · next empty =>
        cases h
        exact ⟨id, found, empty⟩
      · cases h

/-- A test through a table is refused for a name without an id if all names before it have one. -/
theorem Entity.inTable_noMember_iff {table : Association}
    (ht : entity.association? association = some table) {ids : String → String}
    (hids : ∀ name, entity.id? association name = some (ids name)) {before : List String}
    (named : ∀ b ∈ before, ids b ≠ "") (function : String) (id : ColumnPath) (after : List Expr) :
    entity.inTable function association id (before.map .ofText ++ .ofText n :: after)
        = .error (.noMember function n association) ↔ ids n = "" := by
  have accepted : ∀ a ∈ before.map Expr.ofText,
      ∃ v, entity.member function association a = .ok v := by
    refine List.forall_mem_map.2 fun b hb => ⟨ids b, ?_⟩
    rw [member_text (hids b), if_neg (by simpa using named b hb)]
  have own := member_text (hids n) function
  rw [inTable_eq_error_iff ht (by simp), failsFirst_append_iff, failsFirst_cons_iff, own]
  constructor
  · rintro (⟨_, a, _, whole, -, refused⟩ | ⟨-, refused | ⟨-, _, a, _, -, -, refused⟩⟩)
    · obtain ⟨v, ok⟩ := accepted a (by simp [whole])
      rw [ok] at refused
      cases refused
    · split at refused
      · next empty => simpa using empty
      · cases refused
    · obtain ⟨id', found, empty⟩ := id?_of_noMember refused
      rw [hids n] at found
      cases found
      simpa using empty
  · intro empty
    exact .inr ⟨accepted, .inl (if_pos (by simpa using empty))⟩

end Tags

namespace Catalog

/-- The function that tests for tags is a test through the table of the tags. -/
theorem hasTag_of_mem {entity : Entity}
    (listed : entity ∈ [media, anime, collection, notification, release, shows])
    (tagged : entity.function? "hasTag" ≠ none) :
    ∃ id table, entity.function? "hasTag" = some (.inTable tags id) ∧
      entity.association? tags = some table := by
  simp only [List.mem_cons, List.not_mem_nil, or_false] at listed
  rcases listed with rfl | rfl | rfl | rfl | rfl | rfl
  · exact ⟨_, _, rfl, rfl⟩
  · exact ⟨_, _, rfl, rfl⟩
  · exact absurd rfl tagged
  · exact absurd rfl tagged
  · exact ⟨_, _, rfl, rfl⟩
  · exact absurd rfl tagged

/-- What holds of the slug of a name. -/
structure Canonical (t : Text.Transliteration) (name : String) : Prop where
  /-- It is made of the maximal runs of letters and digits of the spelled name, with a hyphen between
  each two. -/
  runs : ∃ rs, Text.MaximalRuns Text.isSlugChar (Text.spelledName t name) rs ∧
    (∀ r ∈ rs, r ≠ []) ∧ (Text.slugBy t name).toList = ['-'].intercalate rs
  /-- No hyphen stands at its ends, and no two in a row. -/
  hyphens : (Text.slugBy t name).toList.head? ≠ some '-' ∧
    (Text.slugBy t name).toList.getLast? ≠ some '-' ∧ ¬['-', '-'] <:+: (Text.slugBy t name).toList
  /-- It is its own slug. -/
  again : Text.slugBy t (Text.slugBy t name) = Text.slugBy t name
  /-- It is empty exactly when the spelled name has no letter and no digit. -/
  empty_iff : Text.slugBy t name = "" ↔
    ∀ c ∈ Text.spelledName t name, Text.isSlugChar c = false
  /-- Then, and only then, an entity with tags refuses the name of a tag, where none has been refused
  before it. -/
  refused_iff : ∀ entity ∈ [media, anime, collection, notification, release, shows],
    entity.function? "hasTag" ≠ none →
      ∀ (before : List String) (after : List Expr), (∀ b ∈ before, Text.slugBy t b ≠ "") →
        ((entity.spelledIn t).resolve
            (.call "hasTag" (before.map .ofText ++ .ofText name :: after))
          = .error (.noMember "hasTag" name tags) ↔
            ∀ c ∈ Text.spelledName t name, Text.isSlugChar c = false)

theorem canonical (t : Text.Transliteration) (name : String) : Canonical t name where
  runs := by
    obtain ⟨rs, h⟩ := Text.exists_maximalRuns Text.isSlugChar (Text.spelledName t name)
    exact ⟨rs, h, fun r hr => (h.mem r hr).1, Text.toList_slugBy t h⟩
  hyphens := (Text.isSlug_slugBy t name).hyphens
  again := Text.slugBy_of_isSlug t (Text.isSlug_slugBy t name)
  empty_iff := Text.slugBy_eq_empty_iff t
  refused_iff := by
    intro entity listed tagged before after named
    obtain ⟨id, table, found, linked⟩ := hasTag_of_mem listed tagged
    have call : (entity.spelledIn t).function? "hasTag" = some (.inTable tags id) := found
    have table' : (entity.spelledIn t).association? tags = some table := linked
    have ids (name : String) :
        (entity.spelledIn t).id? tags name = some (Text.slugBy t name) := by
      simp [Entity.spelledIn]
    rw [← Text.slugBy_eq_empty_iff, Entity.resolve_call_of_ne (by decide), call]
    exact Entity.inTable_noMember_iff table' ids named "hasTag" id after

/-- The entities with tags take their ids in the listed spellings. -/
theorem spelledIn_listed {entity : Entity}
    (listed : entity ∈ [media, anime, collection, notification, release, shows])
    (tagged : entity.function? "hasTag" ≠ none) : entity.spelledIn .listed = entity := by
  simp only [List.mem_cons, List.not_mem_nil, or_false] at listed
  rcases listed with rfl | rfl | rfl | rfl | rfl | rfl
  · rfl
  · rfl
  · exact absurd rfl tagged
  · exact absurd rfl tagged
  · rfl
  · exact absurd rfl tagged

/-- Slugs are canonical in every transliteration, and the entities with tags are among those of which
this says when they refuse a name. -/
theorem slugs_canonical :
    (∀ t name, Canonical t name) ∧
      ∀ entity ∈ [media, anime, collection, notification, release, shows],
        entity.function? "hasTag" ≠ none → entity.spelledIn .listed = entity :=
  ⟨canonical, fun _ => spelledIn_listed⟩

/-- Media refuse a tag that is spelled without a letter or a digit, behind one that is not. -/
theorem slugs_canonical_secondTag :
    media ∈ [media, anime, collection, notification, release, shows] ∧
      media.function? "hasTag" ≠ none ∧
      Text.slug "Pokémon: Gotta catch 'em all!" = "pokemon-gotta-catch-em-all" ∧
      Text.slug (Text.slug "Pokémon: Gotta catch 'em all!")
        = Text.slug "Pokémon: Gotta catch 'em all!" ∧
      Text.slug "¡…!" = "" ∧
      media.resolve (.call "hasTag" [.ofText "Pokémon", .ofText "¡…!", .name "title"])
        = .error (.noMember "hasTag" "¡…!" "tags") := by
  have listed : media ∈ [media, anime, collection, notification, release, shows] := by simp
  have tagged : media.function? "hasTag" ≠ none := nofun
  have named : ∀ b ∈ ["Pokémon"], Text.slugBy .listed b ≠ "" := by decide +kernel
  have canonical := slugs_canonical.1 .listed
  have refused := (canonical "¡…!").refused_iff media listed tagged ["Pokémon"] [.name "title"] named
  rw [slugs_canonical.2 media listed tagged, ← (canonical "¡…!").empty_iff] at refused
  have empty : Text.slug "¡…!" = "" := by decide +kernel
  exact ⟨listed, tagged, by decide +kernel, (canonical _).again, empty, refused.2 empty⟩

end Catalog

end Listings
