import Listings.Proofs.Body
import Listings.Proofs.FieldTables

/-!
# Paths in statements

A path is written as a table and a column, divided at its first dot. The settings of a record admit
paths of any number of parts, so that a part may be written with a dot inside its quotes.

* `ColumnPath.textByParts`: a path with each part in quotes of its own.
* `shows_textByParts_iff`: it is written so if it has one or two parts.
* `plainIdentifiers_iff`: then its identifiers are words, if its parts are.
* `Record.isPath_of_readAttribute`: the paths that settings give are checked to be made of words.
* `Record.quotes_paths`: which of the paths that records give and make are written part by part.
-/

namespace Listings

open Sql

/-! ## Parts of a path -/

namespace ColumnPath

variable {path : ColumnPath}

/-- The parts of a path between its dots. -/
def pieces (path : ColumnPath) : List String := (Text.splitOn '.' path.text.toList).map String.ofList

/-- A path with each part in quotes of its own. -/
def textByParts (path : ColumnPath) : String :=
  .ofList (['.'].intercalate (path.pieces.map Token.quoteName))

theorem length_pieces (path : ColumnPath) :
    path.pieces.length = path.text.toList.count '.' + 1 := by
  rw [pieces, List.length_map, Text.length_splitOn]

/-- A path that is divided has no third part if there is no dot behind the first. -/
theorem length_pieces_le_two_iff {table column : List Char}
    (divided : Text.splitFirst '.' path.text.toList = some (table, column)) :
    path.pieces.length ≤ 2 ↔ '.' ∉ column := by
  obtain ⟨whole, lack⟩ := Text.splitFirst_eq_some_iff.1 divided
  rw [length_pieces, whole, List.count_append, List.count_cons_self, List.count_eq_zero.2 lack,
    ← List.count_eq_zero]
  omega

theorem pieces_of_splitFirst_none (single : Text.splitFirst '.' path.text.toList = none) :
    path.pieces = [path.text] := by
  rw [pieces, Text.splitOn_of_not_mem (Text.splitFirst_eq_none_iff.1 single), List.map_singleton,
    String.ofList_toList]

end ColumnPath

/-! ## How a path is written -/

namespace Sql

/-- The text of tokens is one only. -/
theorem Shows.text_unique {ts : List Token} {x y : String} (hx : Shows ts x) (hy : Shows ts y) :
    x = y := by
  have same := (hx.render .sqlite 1 .comma rfl).symm.trans (hy.render .sqlite 1 .comma rfl)
  exact String.toList_inj.1 (List.cons.inj same).2

/-- A dot inside quotes is not one between quotes. -/
theorem quoteName_ne (first rest more : List Char) :
    Token.quoteName (.ofList (first ++ '.' :: rest))
      ≠ Token.quoteName (.ofList first) ++ '.' :: more := by
  intro same
  simp only [Token.quoteName, String.toList_ofList, List.flatMap_append, List.flatMap_cons,
    List.cons_append, List.append_assoc, List.cons.injEq, true_and, List.append_cancel_left_eq] at same
  exact absurd same (by simp)

/-- A text in quotes is written by its parts if it has no dot. -/
theorem quoteName_eq_iff {cs : List Char} :
    Token.quoteName (.ofList cs)
        = ['.'].intercalate (((Text.splitOn '.' cs).map String.ofList).map Token.quoteName) ↔
      '.' ∉ cs := by
  cases divided : Text.splitFirst '.' cs with
  | none =>
    have lack := Text.splitFirst_eq_none_iff.1 divided
    rw [Text.splitOn_of_not_mem lack, List.map_singleton, List.map_singleton,
      List.intercalate_singleton]
    exact ⟨fun _ => lack, fun _ => rfl⟩
  | some parts =>
    obtain ⟨first, rest⟩ := parts
    obtain ⟨rfl, lack⟩ := Text.splitFirst_eq_some_iff.1 divided
    rw [Text.splitOn_append lack]
    obtain ⟨second, others, found⟩ := List.exists_cons_of_ne_nil (Text.splitOn_ne_nil '.' rest)
    rw [found, List.map_cons, List.map_cons, List.map_cons, List.map_cons,
      List.intercalate_cons_cons, List.append_assoc, List.singleton_append]
    exact ⟨fun same => absurd same (quoteName_ne _ _ _), fun h => absurd (by simp) h⟩

/-- Whether a path is written part by part, wherever it stands in a statement. -/
def WrittenByParts (path : ColumnPath) : Prop := Shows (columnTokens path) path.textByParts

theorem writtenByParts_iff {path : ColumnPath} :
    WrittenByParts path ↔ path.pieces.length ≤ 2 := by
  have written : WrittenByParts path ↔ columnText path = path.textByParts := by
    constructor
    · exact (shows_column path).text_unique
    · intro same
      rw [WrittenByParts, ← same]
      exact shows_column path
  rw [written, columnText, ColumnPath.parts]
  cases divided : Text.splitFirst '.' path.text.toList with
  | none =>
    simp [ColumnPath.textByParts, ColumnPath.pieces_of_splitFirst_none divided]
  | some parts =>
    obtain ⟨table, column⟩ := parts
    rw [ColumnPath.length_pieces_le_two_iff divided, ← quoteName_eq_iff]
    obtain ⟨whole, lack⟩ := Text.splitFirst_eq_some_iff.1 divided
    obtain ⟨second, others, found⟩ := List.exists_cons_of_ne_nil (Text.splitOn_ne_nil '.' column)
    rw [ColumnPath.textByParts, ColumnPath.pieces, whole, Text.splitOn_append lack, found,
      List.map_cons, List.map_cons, List.map_cons, List.map_cons, List.intercalate_cons_cons,
      List.append_assoc, List.singleton_append, String.ofList_inj, List.append_cancel_left_eq,
      List.cons.injEq]
    exact and_iff_right rfl

/-! ## Identifiers -/

/-- The identifier that a token is. -/
def Token.identifier? : Token → Option String
  | name s => some s
  | _ => none

/-- Whether the identifiers that a path is written with have letters, digits and underscores only. -/
def PlainIdentifiers (path : ColumnPath) : Prop :=
  ∀ s ∈ (columnTokens path).filterMap Token.identifier?, ∀ c ∈ s.toList, Text.isWordPart c

/-- A text of words with dots is one of words if it has no dot. -/
theorem forall_isWordPart_iff {cs : List Char} :
    (∀ c ∈ cs, Text.isWordPart c) ↔ '.' ∉ cs ∧ ∀ c ∈ cs, Text.isWordPart c ∨ c = '.' := by
  constructor
  · intro plain
    exact ⟨fun dot => absurd (plain '.' dot) (by decide), fun c mem => .inl (plain c mem)⟩
  · rintro ⟨lack, h⟩ c mem
    rcases h c mem with plain | rfl
    · exact plain
    · exact absurd mem lack

theorem plainIdentifiers_iff {path : ColumnPath} :
    PlainIdentifiers path ↔
      path.pieces.length ≤ 2 ∧ ∀ c ∈ path.text.toList, Text.isWordPart c ∨ c = '.' := by
  rw [PlainIdentifiers, columnTokens, ColumnPath.parts]
  cases divided : Text.splitFirst '.' path.text.toList with
  | none =>
    have lack := Text.splitFirst_eq_none_iff.1 divided
    have one : path.pieces.length ≤ 2 := by
      simp [ColumnPath.pieces_of_splitFirst_none divided]
    have whole : (∀ s ∈ [Token.name path.text].filterMap Token.identifier?,
        ∀ c ∈ s.toList, Text.isWordPart c) ↔ ∀ c ∈ path.text.toList, Text.isWordPart c :=
      List.forall_mem_singleton
    rw [whole, forall_isWordPart_iff]
    exact and_congr_left fun _ => iff_of_true lack one
  | some parts =>
    obtain ⟨table, column⟩ := parts
    have both : (∀ s ∈ [Token.name (.ofList table), .dot, .name (.ofList column)].filterMap
          Token.identifier?, ∀ c ∈ s.toList, Text.isWordPart c) ↔
        (∀ c ∈ table, Text.isWordPart c) ∧ ∀ c ∈ column, Text.isWordPart c := by
      simp [Token.identifier?]
    obtain ⟨whole, lack⟩ := Text.splitFirst_eq_some_iff.1 divided
    rw [both, ColumnPath.length_pieces_le_two_iff divided, whole, List.forall_mem_append,
      List.forall_mem_cons, forall_isWordPart_iff, forall_isWordPart_iff]
    constructor
    · rintro ⟨⟨-, first⟩, ⟨single, second⟩⟩
      exact ⟨single, first, .inr rfl, second⟩
    · rintro ⟨single, first, -, second⟩
      exact ⟨⟨lack, first⟩, ⟨single, second⟩⟩

end Sql

/-! ## Paths that records give -/

namespace Record

/-- Whether the path that a setting gives, if it gives one, is made of words. -/
def Setting.Checked : Setting → Prop
  | table path | column path => isPath path
  | rename _ | exclude => True

theorem isPath_of_takePath {ts rest : List Token} {path : String}
    (h : takePath ts = .ok (path, rest)) : isPath path := by
  obtain ⟨⟨p, r⟩, -, h⟩ := bind_eq_ok_iff.1 h
  dsimp only at h
  split at h
  · next checked =>
    cases h
    exact checked
  · cases h

theorem checked_of_takeSetting {ts rest : List Token} {x : Setting}
    (h : takeSetting ts = .ok (x, rest)) : x.Checked := by
  unfold takeSetting at h
  split at h
  · split at h
    · obtain ⟨⟨path, r⟩, found, same⟩ := map_eq_ok_iff.1 h
      cases same
      exact isPath_of_takePath found
    split at h
    · obtain ⟨⟨name, r⟩, -, same⟩ := map_eq_ok_iff.1 h
      cases same
      trivial
    split at h
    · obtain ⟨⟨path, r⟩, found, same⟩ := map_eq_ok_iff.1 h
      cases same
      exact isPath_of_takePath found
    split at h
    · cases h
      trivial
    · cases h
  · cases h

/-- A list of settings is checked setting by setting. -/
theorem checked_of_settingsFrom {bound : Nat} {ts : List Token} {settings : List Setting}
    (h : settingsFrom bound ts = .ok settings) : ∀ x ∈ settings, x.Checked := by
  induction bound generalizing ts settings with
  | zero =>
    cases h
    exact nofun
  | succ bound ih =>
    cases ts with
    | nil =>
      cases h
      exact nofun
    | cons t ts =>
      obtain ⟨⟨first, rest⟩, taken, h⟩ := bind_eq_ok_iff.1 h
      have checked := checked_of_takeSetting taken
      dsimp only at h
      split at h
      · cases h
        exact List.forall_mem_singleton.2 checked
      · obtain ⟨others, read, same⟩ := bind_eq_ok_iff.1 h
        cases same
        exact List.forall_mem_cons.2 ⟨checked, ih read⟩
      · cases h

/-- The paths that the settings of an attribute give are made of words. -/
theorem checked_of_readAttribute {text : String} {settings : List Setting}
    (h : readAttribute text = .ok settings) : ∀ x ∈ settings, x.Checked := by
  unfold readAttribute at h
  split at h
  · cases h
    exact nofun
  · unfold readArguments at h
    split at h
    · cases h
    · split at h
      · cases h
      split at h
      · cases h
      dsimp only at h
      split at h
      · exact checked_of_settingsFrom h
      · cases h
    · cases h

/-- So is it with all attributes of a record or member. -/
theorem checked_of_mem_settingsOf {attributes : List String} {x : Setting}
    (mem : x ∈ settingsOf attributes) : x.Checked := by
  obtain ⟨text, -, mem⟩ := List.mem_flatMap.1 mem
  cases read : readAttribute text with
  | error e =>
    rw [read] at mem
    cases mem
  | ok settings =>
    rw [read] at mem
    exact checked_of_readAttribute read x mem

/-- The last path that settings give is made of words. -/
theorem isPath_of_given {given : Setting → Option String}
    (checks : ∀ x path, x.Checked → given x = some path → isPath path) {attributes : List String}
    {path : String} (h : ((settingsOf attributes).filterMap given).getLast? = some path) :
    isPath path := by
  obtain ⟨x, mem, found⟩ := List.mem_filterMap.1 (List.mem_of_getLast? h)
  exact checks x path (checked_of_mem_settingsOf mem) found

theorem isPath_of_table? {d : Declaration} {table : String} (h : d.table? = some table) :
    isPath table := by
  refine isPath_of_given (fun x path checked found => ?_) h
  cases x <;> cases found
  exact checked

theorem isPath_of_ownColumn? {m : Member} {path : String} (h : m.ownColumn? = some path) :
    isPath path := by
  refine isPath_of_given (fun x path checked found => ?_) h
  cases x <;> cases found
  exact checked

/-- A checked path has words with dots between them. -/
theorem isWordPart_of_isPath {path : String} (h : isPath path) :
    ∀ c ∈ path.toList, Text.isWordPart c ∨ c = '.' := by
  intro c mem
  by_cases dot : c = '.'
  · exact .inr dot
  · obtain ⟨piece, found, inside⟩ := Text.exists_mem_splitOn mem dot
    obtain ⟨-, plain⟩ := Bool.and_eq_true_iff.1 (List.all_eq_true.1 h piece found)
    exact .inl (List.all_eq_true.1 plain c inside)

/-- The path of a field is given for its member, or made of the table and the name of the member. -/
theorem path_of_mem_fieldsOf {table : Option String} {members : List Member} {field : Field}
    (mem : field ∈ fieldsOf table members) :
    ∃ m ∈ exposed members, m.ownColumn? = some field.path
      ∨ ∃ t, table = some t ∧ field.path = t ++ "." ++ unmarked m.name := by
  obtain ⟨m, mem, shown⟩ := List.mem_filterMap.1 mem
  obtain ⟨h, -⟩ := Member.of_field? shown
  refine ⟨m, List.mem_filter.2 ⟨mem, h⟩, ?_⟩
  rw [Member.field?, if_pos h] at shown
  obtain ⟨path, found, rfl⟩ := Option.map_eq_some_iff.1 shown
  rw [Member.path?] at found
  cases own : m.ownColumn? with
  | some given =>
    rw [own] at found
    exact .inl found
  | none =>
    rw [own] at found
    obtain ⟨t, same, rfl⟩ := Option.map_eq_some_iff.1 found
    exact .inr ⟨t, same, rfl⟩

/-- A name behind the path of a table is a second part if there is no dot in either. -/
theorem length_pieces_column (table member : String) :
    (ColumnPath.mk (table ++ "." ++ member)).pieces.length ≤ 2 ↔
      '.' ∉ table.toList ∧ '.' ∉ member.toList := by
  rw [ColumnPath.length_pieces, ← List.count_eq_zero, ← List.count_eq_zero]
  simp only [String.toList_append, List.count_append]
  have one : ".".toList.count '.' = 1 := rfl
  omega

theorem plainIdentifiers_column {table : String} (words : isPath table) (member : String) :
    PlainIdentifiers ⟨table ++ "." ++ member⟩ ↔
      '.' ∉ table.toList ∧ ∀ c ∈ member.toList, Text.isWordPart c := by
  rw [plainIdentifiers_iff, length_pieces_column, forall_isWordPart_iff]
  simp only [String.toList_append, List.forall_mem_append]
  constructor
  · rintro ⟨⟨first, second⟩, -, others⟩
    exact ⟨first, second, others⟩
  · rintro ⟨first, second, others⟩
    refine ⟨⟨first, second⟩, ⟨isWordPart_of_isPath words, fun c mem => .inr ?_⟩, others⟩
    exact List.mem_singleton.1 mem

/-- A path that settings may give is written part by part, with words as identifiers, if it has no more
than two parts. The path of a field is one of these, or it is made of the table and the name of a member:
then neither may have a dot, and the name has to be a word. -/
theorem quotes_paths (path : String) :
    (isPath path →
      (WrittenByParts ⟨path⟩ ↔ (ColumnPath.mk path).pieces.length ≤ 2)
        ∧ (PlainIdentifiers ⟨path⟩ ↔ (ColumnPath.mk path).pieces.length ≤ 2))
      ∧ ∀ (d : Declaration) lookup, d.lookup = .ok lookup → path ∈ lookup.fields.map Field.path →
          isPath path
            ∨ ∃ table member, d.table? = some table ∧ path = table ++ "." ++ member
              ∧ (∃ members, d.members = some members ∧ ∃ m ∈ exposed members, unmarked m.name = member)
              ∧ (WrittenByParts ⟨path⟩ ↔ '.' ∉ table.toList ∧ '.' ∉ member.toList)
              ∧ (PlainIdentifiers ⟨path⟩ ↔
                  '.' ∉ table.toList ∧ ∀ c ∈ member.toList, Text.isWordPart c) := by
  constructor
  · intro checked
    refine ⟨writtenByParts_iff, plainIdentifiers_iff.trans ?_⟩
    exact and_iff_left (isWordPart_of_isPath checked)
  · intro d lookup made mem
    obtain ⟨members, formed, rfl⟩ := Declaration.lookup_eq_ok_iff.1 made
    rw [Lookup.foldl_add] at mem
    obtain ⟨field, place, rfl⟩ := List.mem_map.1 mem
    obtain ⟨m, shown, own | ⟨table, given, same⟩⟩ := path_of_mem_fieldsOf place
    · exact .inl (isPath_of_ownColumn? own)
    · refine .inr ⟨table, unmarked m.name, given, same, ⟨members, formed.named, m, shown, rfl⟩, ?_, ?_⟩
      · rw [same, writtenByParts_iff, length_pieces_column]
      · rw [same, plainIdentifiers_column (isPath_of_table? given)]

/-- The columns of media are written part by part. -/
theorem quotes_paths_mediaRow :
    ∃ lookup, Catalog.mediaRow.lookup = .ok lookup
      ∧ lookup.table Catalog.fieldTypes = Catalog.mediaFields
      ∧ ∀ field ∈ lookup.fields, WrittenByParts ⟨field.path⟩ ∧ PlainIdentifiers ⟨field.path⟩ := by
  obtain ⟨lookup, made, table⟩ := map_eq_ok_iff.1 Catalog.mediaRow_table
  refine ⟨lookup, made, table, fun field mem => ?_⟩
  have place := List.mem_map_of_mem (f := Field.path) mem
  rcases (quotes_paths field.path).2 Catalog.mediaRow lookup made place with
    checked | ⟨media, _, given, -, ⟨members, named, m, shown, rfl⟩, written, plain⟩
  · have listed : (field.name, field.column Catalog.fieldTypes) ∈ Catalog.mediaFields := by
      rw [← table]
      exact List.mem_map_of_mem mem
    have short : ∀ entry ∈ Catalog.mediaFields, entry.2.path.pieces.length ≤ 2 := by decide
    have two := short _ listed
    obtain ⟨parts, words⟩ := (quotes_paths field.path).1 checked
    exact ⟨parts.2 two, words.2 two⟩
  · obtain rfl : Catalog.mediaMembers = members := Option.some.inj named
    have only : Catalog.mediaRow.table? = some "media" := by decide +kernel
    obtain rfl : "media" = media := Option.some.inj (only.symm.trans given)
    have words : ∀ m ∈ Catalog.mediaMembers, (unmarked m.name).toList.all Text.isWordPart := by decide
    have word := List.all_eq_true.1 (words m (List.mem_filter.1 shown).1)
    have whole : '.' ∉ "media".toList := by decide
    exact ⟨written.2 ⟨whole, (forall_isWordPart_iff.1 word).1⟩, plain.2 ⟨whole, word⟩⟩

/-- A record whose table has a path of two parts. -/
def nestedRow : Declaration where
  name := "Row"
  attributes := ["query(table = \"main.media\")"]
  members := some [⟨"title", "String", []⟩]

/-- A path of three parts is admitted and made, and its last two parts are quoted as one. -/
theorem parts_quoted_together :
    isPath "main.media.title"
      ∧ nestedRow.derive = .ok [⟨"title", "main.media.title", "String"⟩]
      ∧ Shows (columnTokens ⟨"main.media.title"⟩) "\"main\".\"media.title\""
      ∧ ¬ WrittenByParts ⟨"main.media.title"⟩ ∧ ¬ PlainIdentifiers ⟨"main.media.title"⟩ := by
  have long : ¬ (ColumnPath.mk "main.media.title").pieces.length ≤ 2 := by decide
  have text : columnText ⟨"main.media.title"⟩ = "\"main\".\"media.title\"" := by decide +kernel
  refine ⟨by decide, by decide +kernel, ?_, ?_, ?_⟩
  · rw [← text]
    exact shows_column _
  · rw [writtenByParts_iff]
    exact long
  · rw [plainIdentifiers_iff]
    exact fun h => long h.1

end Record

end Listings
