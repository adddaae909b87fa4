import Listings.Entity.Catalog
import Listings.Proofs.Outcome
import Listings.Record.FieldType

/-!
# Field tables of records

Which records have a field table, and what can be looked up in it.

* `readAttributes_eq_ok_iff`: attributes amount to what all their settings together amount to.
* `Member.Accepted`, `Member.field?`: which members can be taken, and the fields that they expose.
* `Lookup.extend_eq_ok_iff`: what a run over the members makes of them.
* `Declaration.WellFormed`, `Lookup.Exposes`: what is demanded of a record, and what is known of it then,
  both said without the run.
* `Declaration.lookup_complete`: the well-formed records are those with a look-up; it knows their exposed
  members, each under a name of its own, and nothing else.
-/

namespace Listings.Record

/-! ## Settings of attributes -/

/-- The settings of attributes in their order; an attribute that cannot be read has none. -/
def settingsOf (attributes : List String) : List Setting :=
  attributes.flatMap fun text => (readAttribute text).toOption.getD []

/-- Whether every attribute can be read. -/
def Readable (attributes : List String) : Prop :=
  ∀ text ∈ attributes, ∃ settings, readAttribute text = .ok settings

theorem settingsOf_cons {text : String} {settings : List Setting}
    (read : readAttribute text = .ok settings) (attributes : List String) :
    settingsOf (text :: attributes) = settings ++ settingsOf attributes := by
  rw [settingsOf, List.flatMap_cons, read]
  rfl

theorem readable_cons {text : String} {attributes : List String} :
    Readable (text :: attributes) ↔
      (∃ settings, readAttribute text = .ok settings) ∧ Readable attributes :=
  List.forall_mem_cons

section Attributes

variable {fit : Settings → Bool} {allowed : Setting → Prop} {refusal : Error}

/-- One more attribute adds its settings at the end. -/
theorem readNext_ofList_eq_ok_iff
    (fit_iff : ∀ settings, fit (.ofList settings) ↔ ∀ x ∈ settings, allowed x)
    {before : List Setting} {text : String} {s : Settings} :
    readNext fit refusal (.ofList before) text = .ok s ↔
      ∃ settings, readAttribute text = .ok settings ∧ (∀ x ∈ settings, allowed x)
        ∧ s = .ofList (before ++ settings) := by
  rw [readNext, bind_eq_ok_iff]
  refine exists_congr fun settings => and_congr_right fun _ => ?_
  rw [← fit_iff, Settings.ofList_append]
  by_cases fits : fit (.ofList settings)
  · rw [if_pos fits]
    simp only [fits, true_and]
    exact ok_eq_ok_iff
  · rw [if_neg fits]
    exact ⟨nofun, fun h => absurd h.1 fits⟩

/-- Attributes are accepted if all can be read and have settings that fit, and then they amount to what
one attribute with all the settings does. -/
theorem readAttributes_eq_ok_iff
    (fit_iff : ∀ settings, fit (.ofList settings) ↔ ∀ x ∈ settings, allowed x)
    {attributes : List String} {s : Settings} :
    readAttributes fit refusal attributes = .ok s ↔
      Readable attributes ∧ (∀ x ∈ settingsOf attributes, allowed x)
        ∧ s = .ofList (settingsOf attributes) := by
  -- a run goes on from what the settings before amount to
  suffices onto : ∀ before, attributes.foldlM (readNext fit refusal) (.ofList before) = .ok s ↔
      Readable attributes ∧ (∀ x ∈ settingsOf attributes, allowed x)
        ∧ s = .ofList (before ++ settingsOf attributes) from onto []
  induction attributes with
  | nil =>
    intro before
    rw [List.foldlM_nil, settingsOf, List.flatMap_nil, List.append_nil]
    exact ok_eq_ok_iff.trans ⟨fun h => ⟨nofun, nofun, h⟩, fun h => h.2.2⟩
  | cons text attributes ih =>
    intro before
    rw [List.foldlM_cons, bind_eq_ok_iff, readable_cons]
    constructor
    · rintro ⟨next, step, run⟩
      obtain ⟨settings, read, first, rfl⟩ := (readNext_ofList_eq_ok_iff fit_iff).1 step
      obtain ⟨readable, others, same⟩ := (ih _).1 run
      rw [settingsOf_cons read, ← List.append_assoc]
      exact ⟨⟨⟨settings, read⟩, readable⟩, List.forall_mem_append.2 ⟨first, others⟩, same⟩
    · rintro ⟨⟨⟨settings, read⟩, readable⟩, fits, same⟩
      rw [settingsOf_cons read] at fits same
      obtain ⟨first, others⟩ := List.forall_mem_append.1 fits
      rw [← List.append_assoc] at same
      exact ⟨_, (readNext_ofList_eq_ok_iff fit_iff).2 ⟨settings, read, first, rfl⟩,
        (ih _).2 ⟨readable, others, same⟩⟩

end Attributes

/-! ## Members -/

namespace Member

variable (m : Member)

/-- The settings of a member. -/
def settings : List Setting := settingsOf m.attributes

/-- Whether requests may name a member. -/
def isExposed : Bool := !m.settings.contains .exclude

/-- The name of a member in requests: the last one given for it, or its own in lower camel case. -/
def exposedName : String :=
  (m.settings.filterMap Setting.name?).getLast?.getD (camel (unmarked m.name))

/-- The column given for a member; the last one if there are several. -/
def ownColumn? : Option String := (m.settings.filterMap Setting.column?).getLast?

/-- Where a member is stored: in its own column, or under its name in the table of its record. -/
def path? (table : Option String) : Option String :=
  m.ownColumn? <|> table.map fun table => table ++ "." ++ unmarked m.name

/-- The column of a member, in a record whose types hold what `types` says. -/
def column? (types : String → Kind × Bool) (table : Option String) : Option Column :=
  (m.path? table).map fun path =>
    ⟨(types (compactType m.type)).1, ⟨path⟩, (types (compactType m.type)).2⟩

/-- The field that a member exposes. -/
def field? (table : Option String) : Option Field :=
  if m.isExposed then (m.path? table).map fun path => ⟨m.exposedName, path, compactType m.type⟩
  else none

/-- What is demanded of a member. -/
structure Accepted (table : Option String) : Prop where
  readable : Readable m.attributes
  noTable : ∀ x ∈ m.settings, x.isTable = false
  stored : m.isExposed → m.ownColumn?.isSome ∨ table.isSome

variable {m} {table : Option String}

theorem isSome_path? : (m.path? table).isSome ↔ m.ownColumn?.isSome ∨ table.isSome := by
  unfold path?
  cases m.ownColumn? <;> cases table <;> simp

theorem path_eq_ok_iff {path : String} :
    (Settings.ofList m.settings).path table (unmarked m.name) = .ok path ↔
      m.path? table = some path := by
  unfold Settings.path path? ownColumn?
  rw [Settings.column_ofList]
  cases (m.settings.filterMap Setting.column?).getLast? <;> cases table <;> simp

/-- The members that meet the demands are taken, each for the field that it exposes. -/
theorem field_eq_ok_iff {field : Option Field} :
    m.field table = .ok field ↔ m.Accepted table ∧ field = m.field? table := by
  have read {s : Settings} : readAttributes Settings.fitField .tableOnField m.attributes = .ok s ↔
      Readable m.attributes ∧ (∀ x ∈ m.settings, x.isTable = false) ∧ s = .ofList m.settings :=
    readAttributes_eq_ok_iff fun _ => Settings.fitField_ofList
  have hidden : (Settings.ofList m.settings).excluded = !m.isExposed := by
    rw [Settings.excluded_ofList, isExposed, Bool.not_not]
  rw [Member.field, bind_eq_ok_iff, field?]
  constructor
  · rintro ⟨s, h, taken⟩
    obtain ⟨readable, noTable, rfl⟩ := read.1 h
    cases exposed : m.isExposed with
    | false =>
      rw [hidden, exposed] at taken
      cases taken
      exact ⟨⟨readable, noTable, fun h => by cases exposed.symm.trans h⟩, rfl⟩
    | true =>
      rw [hidden, exposed] at taken
      obtain ⟨path, found, taken⟩ := bind_eq_ok_iff.1 taken
      cases taken
      have found := path_eq_ok_iff.1 found
      refine ⟨⟨readable, noTable, fun _ => ?_⟩, ?_⟩
      · rw [← isSome_path?, found, Option.isSome_some]
      · rw [found, exposedName, Settings.name_ofList]
        rfl
  · rintro ⟨⟨readable, noTable, stored⟩, rfl⟩
    refine ⟨_, read.2 ⟨readable, noTable, rfl⟩, ?_⟩
    rw [hidden]
    cases exposed : m.isExposed with
    | false => rfl
    | true =>
      obtain ⟨path, found⟩ := Option.isSome_iff_exists.1 (isSome_path?.2 (stored exposed))
      apply bind_eq_ok_iff.2
      refine ⟨path, path_eq_ok_iff.2 found, ?_⟩
      rw [found, exposedName, Settings.name_ofList]
      rfl

theorem isSome_field?_iff (accepted : m.Accepted table) :
    (m.field? table).isSome ↔ m.isExposed := by
  rw [field?]
  split
  · next h => simpa [h, isSome_path?] using accepted.stored h
  · next h => simp [h]

/-- A field is that of an exposed member, under its name. -/
theorem of_field? {field : Field} (h : m.field? table = some field) :
    m.isExposed ∧ field.name = m.exposedName := by
  rw [field?] at h
  split at h
  · next shown =>
    obtain ⟨path, -, rfl⟩ := Option.map_eq_some_iff.1 h
    exact ⟨shown, rfl⟩
  · cases h

end Member

/-! ## The run over the members -/

/-- The members that requests may name. -/
def exposed (members : List Member) : List Member := members.filter Member.isExposed

/-- The fields that members expose. -/
def fieldsOf (table : Option String) (members : List Member) : List Field :=
  members.filterMap (·.field? table)

theorem fieldsOf_cons_none {table : Option String} {m : Member} (h : m.field? table = none)
    (members : List Member) : fieldsOf table (m :: members) = fieldsOf table members :=
  List.filterMap_cons_none h

theorem fieldsOf_cons_some {table : Option String} {m : Member} {field : Field}
    (h : m.field? table = some field) (members : List Member) :
    fieldsOf table (m :: members) = field :: fieldsOf table members :=
  List.filterMap_cons_some h

/-- The exposed members show their names. -/
theorem map_name_fieldsOf {table : Option String} {members : List Member}
    (accepted : ∀ m ∈ members, m.Accepted table) :
    (fieldsOf table members).map Field.name = (exposed members).map Member.exposedName := by
  induction members with
  | nil => rfl
  | cons m members ih =>
    obtain ⟨first, others⟩ := List.forall_mem_cons.1 accepted
    have shows := Member.isSome_field?_iff first
    rw [exposed, List.filter_cons]
    cases shown : m.field? table with
    | none =>
      rw [shown] at shows
      rw [fieldsOf_cons_none shown, if_neg fun h => nomatch shows.2 h]
      exact ih others
    | some field =>
      rw [shown] at shows
      rw [fieldsOf_cons_some shown, if_pos (shows.1 rfl), List.map_cons, List.map_cons,
        (Member.of_field? shown).2]
      exact congrArg _ (ih others)

namespace Lookup

/-- The list of names goes along with the fields. -/
theorem foldl_add (fields : List Field) (lookup : Lookup) :
    fields.foldl add lookup =
      { fields := lookup.fields ++ fields
        names := lookup.names ++ fields.map Field.name } := by
  induction fields generalizing lookup with
  | nil => simp
  | cons field fields ih => simp [ih, add]

variable {table : Option String} {taken : List String} {lookup result : Lookup}

/-- A member that is not exposed only has to meet the demands. -/
theorem extend_cons_hidden {m : Member} (hidden : m.field? table = none) (members : List Member) :
    lookup.extend table taken (m :: members) = .ok result ↔
      m.Accepted table ∧ lookup.extend table taken members = .ok result := by
  rw [extend, bind_eq_ok_iff]
  simp only [Member.field_eq_ok_iff, and_assoc, exists_and_left, exists_eq_left, hidden]

/-- A member that is exposed also has to have a name that is not taken. -/
theorem extend_cons_shown {m : Member} {field : Field} (shown : m.field? table = some field)
    (members : List Member) :
    lookup.extend table taken (m :: members) = .ok result ↔
      m.Accepted table ∧ field.name ∉ taken
        ∧ (lookup.add field).extend table (field.name :: taken) members = .ok result := by
  rw [extend, bind_eq_ok_iff]
  simp only [Member.field_eq_ok_iff, and_assoc, exists_and_left, exists_eq_left, shown]
  refine and_congr_right fun _ => ?_
  by_cases h : field.name ∈ taken
  · rw [if_pos h]
    exact ⟨nofun, fun free => absurd h free.1⟩
  · rw [if_neg h]
    exact (and_iff_right h).symm

/-- A run ends well if all members meet the demands and their fields have names that are not taken, each
its own; it adds the fields one by one. -/
theorem extend_eq_ok_iff {members : List Member} :
    lookup.extend table taken members = .ok result ↔
      (∀ m ∈ members, m.Accepted table)
        ∧ ((fieldsOf table members).map Field.name).Nodup
        ∧ (∀ field ∈ fieldsOf table members, field.name ∉ taken)
        ∧ result = (fieldsOf table members).foldl add lookup := by
  induction members generalizing taken lookup with
  | nil =>
    rw [extend, ok_eq_ok_iff]
    exact ⟨fun h => ⟨nofun, .nil, nofun, h⟩, fun h => h.2.2.2⟩
  | cons m members ih =>
    rw [List.forall_mem_cons, and_assoc]
    cases shown : m.field? table with
    | none =>
      rw [extend_cons_hidden shown, fieldsOf_cons_none shown, ih]
    | some field =>
      rw [extend_cons_shown shown, fieldsOf_cons_some shown, ih, List.map_cons, List.nodup_cons,
        List.forall_mem_cons, List.foldl_cons]
      simp only [List.mem_cons, List.mem_map, not_or, not_exists, not_and]
      -- the later fields are not named as this one if it is not named as one of them
      refine and_congr_right fun _ => ?_
      constructor
      · rintro ⟨free, accepted, distinct, others, same⟩
        exact ⟨accepted, ⟨fun f mem => (others f mem).1, distinct⟩,
          ⟨free, fun f mem => (others f mem).2⟩, same⟩
      · rintro ⟨accepted, ⟨fresh, distinct⟩, ⟨free, others⟩, same⟩
        exact ⟨free, accepted, distinct, fun f mem => ⟨fresh f mem, others f mem⟩, same⟩

/-- The names that can be looked up are those in the list. -/
theorem names_table (types : String → Kind × Bool) (fields : List Field) :
    ((fields.foldl add {}).table types).names = (fields.foldl add {}).names := by
  rw [foldl_add, table, FieldTable.names, List.map_map]
  rfl

end Lookup

/-! ## Records -/

/-- The columns that are looked up are those of the exposed members under their names. -/
theorem mem_columns_fieldsOf {types : String → Kind × Bool} {table : Option String}
    {members : List Member} {name : String} {column : Column} :
    (name, column) ∈ (fieldsOf table members).map (fun field => (field.name, field.column types)) ↔
      ∃ m ∈ exposed members, m.exposedName = name ∧ m.column? types table = some column := by
  have column_of {m : Member} (h : m.isExposed) :
      m.column? types table = (m.field? table).map (Field.column types) := by
    rw [Member.column?, Member.field?, if_pos h, Option.map_map]
    rfl
  simp only [fieldsOf, exposed, List.mem_map, List.mem_filterMap, List.mem_filter, Prod.mk.injEq]
  constructor
  · rintro ⟨field, ⟨m, mem, shown⟩, rfl, rfl⟩
    obtain ⟨h, named⟩ := Member.of_field? shown
    refine ⟨m, ⟨mem, h⟩, named.symm, ?_⟩
    rw [column_of h, shown, Option.map_some]
  · rintro ⟨m, ⟨mem, h⟩, rfl, found⟩
    obtain ⟨field, shown, rfl⟩ := Option.map_eq_some_iff.1 (column_of h ▸ found)
    exact ⟨field, ⟨m, mem, shown⟩, (Member.of_field? shown).2, rfl⟩

/-- A look-up knows the exposed members of a record with the given table, and nothing else. -/
structure Lookup.Exposes (lookup : Lookup) (table : Option String) (members : List Member) : Prop where
  /-- The list has their names in the order of their declaration. -/
  listed : lookup.names = (exposed members).map Member.exposedName
  distinct : lookup.names.Nodup
  /-- The names that are found are those of the list. -/
  found : ∀ types name, (lookup.column? types name).isSome ↔ name ∈ lookup.names
  /-- A name has the column of the member under it. -/
  column : ∀ types name column, lookup.column? types name = some column ↔
    ∃ m ∈ exposed members, m.exposedName = name ∧ m.column? types table = some column

theorem Lookup.exposes_fieldsOf {table : Option String} {members : List Member}
    (accepted : ∀ m ∈ members, m.Accepted table)
    (distinct : ((fieldsOf table members).map Field.name).Nodup) :
    ((fieldsOf table members).foldl add {}).Exposes table members := by
  have listed : ((fieldsOf table members).foldl add {}).names
      = (fieldsOf table members).map Field.name := by
    rw [foldl_add]
    exact List.nil_append _
  refine ⟨?_, ?_, fun types name => ?_, fun types name column => ?_⟩
  · rw [listed, map_name_fieldsOf accepted]
  · rw [listed]
    exact distinct
  · rw [column?, FieldTable.find?_isSome_iff, names_table]
  · have distinct : (((fieldsOf table members).foldl add {}).table types).names.Nodup := by
      rw [names_table, listed]
      exact distinct
    rw [column?, FieldTable.find?_eq_some_iff_mem distinct, Lookup.table, foldl_add]
    exact mem_columns_fieldsOf

namespace Declaration

/-- The table given for a record; the last one if there are several. -/
def table? (d : Declaration) : Option String :=
  ((settingsOf d.attributes).filterMap Setting.table?).getLast?

/-- What is demanded of a record. -/
structure WellFormed (d : Declaration) (members : List Member) : Prop where
  named : d.members = some members
  readable : Readable d.attributes
  onlyTable : ∀ x ∈ settingsOf d.attributes, x.isTable
  accepted : ∀ m ∈ members, m.Accepted d.table?
  distinct : ((exposed members).map Member.exposedName).Nodup

/-- A record has a look-up if it is well formed: that of the fields of its members. -/
theorem lookup_eq_ok_iff {d : Declaration} {lookup : Lookup} :
    d.lookup = .ok lookup ↔
      ∃ members, d.WellFormed members ∧ lookup = (fieldsOf d.table? members).foldl Lookup.add {} := by
  rw [Declaration.lookup, bind_eq_ok_iff]
  simp only [readAttributes_eq_ok_iff fun _ => Settings.fitRecord_ofList]
  constructor
  · rintro ⟨_, ⟨readable, onlyTable, rfl⟩, rest⟩
    rw [Settings.table_ofList, ← table?] at rest
    cases named : d.members with
    | none =>
      rw [named] at rest
      cases rest
    | some members =>
      rw [named] at rest
      obtain ⟨accepted, distinct, -, same⟩ := Lookup.extend_eq_ok_iff.1 rest
      rw [map_name_fieldsOf accepted] at distinct
      exact ⟨members, ⟨named, readable, onlyTable, accepted, distinct⟩, same⟩
  · rintro ⟨members, ⟨named, readable, onlyTable, accepted, distinct⟩, same⟩
    refine ⟨_, ⟨readable, onlyTable, rfl⟩, ?_⟩
    rw [Settings.table_ofList, ← table?, named]
    rw [← map_name_fieldsOf accepted] at distinct
    exact Lookup.extend_eq_ok_iff.2 ⟨accepted, distinct, fun _ _ => List.not_mem_nil, same⟩

/-- The records with a look-up are the well-formed ones, and it knows their exposed members. -/
theorem lookup_complete (d : Declaration) :
    ((∃ lookup, d.lookup = .ok lookup) ↔ ∃ members, d.WellFormed members)
      ∧ ∀ lookup, d.lookup = .ok lookup →
          ∃ members, d.members = some members ∧ lookup.Exposes d.table? members := by
  simp only [lookup_eq_ok_iff]
  constructor
  · constructor
    · rintro ⟨_, members, formed, -⟩
      exact ⟨members, formed⟩
    · rintro ⟨members, formed⟩
      exact ⟨_, members, formed, rfl⟩
  · rintro _ ⟨members, formed, rfl⟩
    refine ⟨members, formed.named, Lookup.exposes_fieldsOf formed.accepted ?_⟩
    rw [map_name_fieldsOf formed.accepted]
    exact formed.distinct

end Declaration

end Listings.Record

namespace Listings.Catalog

open Record

/-! ## Rows of listings -/

/-- What columns of the types of fields hold. -/
def fieldTypes (type : String) : Kind × Bool := (readType type).getD (.string, false)

/-- The members of a row of media. -/
def mediaMembers : List Member :=
  [⟨"id", "String", []⟩, ⟨"mal_id", "Option<String>", []⟩, ⟨"tmdb_id", "Option<String>", []⟩,
    ⟨"title", "String", []⟩,
    ⟨"media_type", "String", ["query(rename = \"type\", column = \"media.type\")"]⟩,
    ⟨"status", "String", []⟩, ⟨"rating", "String", []⟩, ⟨"airing_season", "Option<String>", []⟩,
    ⟨"score", "Option<f64>", []⟩, ⟨"episode_count", "Option<i64>", []⟩,
    ⟨"start_date", "Option<NaiveDate>", []⟩, ⟨"end_date", "Option<NaiveDate>", []⟩,
    ⟨"user_list", "Option<String>", ["query(column = \"user_data.list\")"]⟩,
    ⟨"created", "i64", []⟩, ⟨"updated", "i64", []⟩]

/-- A row of media. -/
def mediaRow : Declaration where
  name := "MediaRow"
  attributes := ["query(table = \"media\")"]
  members := some mediaMembers

/-- The fields of media are those that the row declares. -/
theorem mediaRow_table : Lookup.table fieldTypes <$> mediaRow.lookup = .ok mediaFields := by
  decide +kernel

/-- They are what is known of its members. -/
theorem lookup_complete_mediaRow :
    ∃ lookup, mediaRow.lookup = .ok lookup ∧ lookup.table fieldTypes = mediaFields
      ∧ ∃ members, mediaRow.members = some members ∧ lookup.Exposes mediaRow.table? members := by
  obtain ⟨lookup, made, table⟩ := map_eq_ok_iff.1 mediaRow_table
  exact ⟨lookup, made, table, (Declaration.lookup_complete mediaRow).2 lookup made⟩

end Listings.Catalog
