import Listings.Proofs.FieldTables
import Mathlib.Data.List.Basic

/-!
# Grouping of settings

The settings of a record and of its members are items between commas. How the items are spread over
attributes does not matter, only their order.

* `items`, `allItems`: the items of a list and of several attributes.
* `settingsFrom_eq_ok_iff`: a list is read item by item.
* `gives_iff`: so are attributes.
* `Declaration.Regrouped`: declarations that differ in the attributes that their items stand in.
* `Declaration.LastWins`: which of several settings count.
* `Declaration.lookup_regrouped`: regrouped declarations have the same look-up.
-/

namespace Listings.Record

/-! ## Items of a list -/

/-- The token between two items. -/
def comma : Token := .symbol ','

/-- What stands between the commas of a list; one comma may stand after the last item. A comma in inner
brackets counts too, as no setting has brackets. -/
def items : List Token → List (List Token)
  | [] => []
  | t :: ts =>
    if t = comma then [] :: items ts
    else
      match items ts with
      | [] => [[t]]
      | item :: others => (t :: item) :: others

theorem items_append_comma {item : List Token} (lack : comma ∉ item) (rest : List Token) :
    items (item ++ comma :: rest) = item :: items rest := by
  induction item with
  | nil => rw [List.nil_append, items, if_pos rfl]
  | cons t item ih =>
    rw [List.mem_cons, not_or] at lack
    rw [List.cons_append, items, if_neg (Ne.symm lack.1), ih lack.2]

theorem items_of_notMem {item : List Token} (lack : comma ∉ item) (ne : item ≠ []) :
    items item = [item] := by
  induction item with
  | nil => exact absurd rfl ne
  | cons t item ih =>
    rw [List.mem_cons, not_or] at lack
    rw [items, if_neg (Ne.symm lack.1)]
    cases item with
    | nil => rfl
    | cons u item => rw [ih lack.2 (List.cons_ne_nil u item)]

/-! ## Settings of items -/

/-- The tokens of a setting. -/
inductive Setting.Spelled : Setting → List Token → Prop
  | table {path : String} (h : isPath path) :
      Spelled (.table path) [.word "table", .symbol '=', .text path]
  | rename (name : String) : Spelled (.rename name) [.word "rename", .symbol '=', .text name]
  | column {path : String} (h : isPath path) :
      Spelled (.column path) [.word "column", .symbol '=', .text path]
  | exclude : Spelled .exclude [.word "exclude"]

section Settings

variable {ts rest item : List Token} {x : Setting}

theorem Setting.Spelled.ne_nil (h : x.Spelled item) : item ≠ [] := by
  cases h <;> exact List.cons_ne_nil _ _

theorem Setting.Spelled.comma_notMem (h : x.Spelled item) : comma ∉ item := by
  cases h <;> simp [comma]

theorem takeText_eq_ok_iff {s : String} :
    takeText ts = .ok (s, rest) ↔ ts = .symbol '=' :: .text s :: rest := by
  constructor
  · intro h
    unfold takeText at h
    split at h <;> cases h
    rfl
  · rintro rfl
    rfl

theorem takePath_eq_ok_iff {path : String} :
    takePath ts = .ok (path, rest) ↔ ts = .symbol '=' :: .text path :: rest ∧ isPath path := by
  rw [takePath, bind_eq_ok_iff]
  constructor
  · rintro ⟨⟨p, r⟩, found, h⟩
    dsimp only at h
    split at h
    · next path =>
      cases h
      exact ⟨takeText_eq_ok_iff.1 found, path⟩
    · cases h
  · rintro ⟨rfl, path⟩
    exact ⟨_, takeText_eq_ok_iff.2 rfl, if_pos path⟩

/-- A setting is taken where its tokens stand. -/
theorem takeSetting_eq_ok_iff :
    takeSetting ts = .ok (x, rest) ↔ ∃ item, x.Spelled item ∧ ts = item ++ rest := by
  constructor
  · intro h
    unfold takeSetting at h
    split at h
    · next w ts =>
      split at h
      · next table =>
        obtain ⟨⟨path, r⟩, found, same⟩ := map_eq_ok_iff.1 h
        cases same
        obtain ⟨rfl, path⟩ := takePath_eq_ok_iff.1 found
        exact ⟨_, .table path, by rw [table]; rfl⟩
      split at h
      · next rename =>
        obtain ⟨⟨name, r⟩, found, same⟩ := map_eq_ok_iff.1 h
        cases same
        obtain rfl := takeText_eq_ok_iff.1 found
        exact ⟨_, .rename name, by rw [rename]; rfl⟩
      split at h
      · next column =>
        obtain ⟨⟨path, r⟩, found, same⟩ := map_eq_ok_iff.1 h
        cases same
        obtain ⟨rfl, path⟩ := takePath_eq_ok_iff.1 found
        exact ⟨_, .column path, by rw [column]; rfl⟩
      split at h
      · next exclude =>
        cases h
        exact ⟨_, .exclude, by rw [exclude]; rfl⟩
      · cases h
    · cases h
  · rintro ⟨item, spelled, rfl⟩
    cases spelled with
    | table path => exact map_eq_ok_iff.2 ⟨_, takePath_eq_ok_iff.2 ⟨rfl, path⟩, rfl⟩
    | rename name => rfl
    | column path => exact map_eq_ok_iff.2 ⟨_, takePath_eq_ok_iff.2 ⟨rfl, path⟩, rfl⟩
    | exclude => rfl

/-- What follows a setting: the end of the list, or a comma and the others. -/
def settingsAfter (others : List Token → Except Error (List Setting)) (first : Setting) :
    List Token → Except Error (List Setting)
  | [] => .ok [first]
  | t :: rest =>
    if t = comma then others rest >>= fun settings => .ok (first :: settings) else .error .expectedComma

theorem settingsFrom_cons (bound : Nat) (t : Token) (ts : List Token) :
    settingsFrom (bound + 1) (t :: ts)
      = takeSetting (t :: ts) >>= fun p => settingsAfter (settingsFrom bound) p.1 p.2 := by
  refine bind_congr fun p => ?_
  obtain ⟨first, rest⟩ := p
  cases rest with
  | nil => rfl
  | cons u rest =>
    by_cases separated : u = comma
    · subst separated
      rfl
    · rw [settingsAfter, if_neg separated]
      dsimp only
      split
      · contradiction
      · next same =>
        cases same
        exact absurd rfl separated
      · rfl

/-- A list is read if each of its items is a setting. -/
theorem settingsFrom_eq_ok_iff {bound : Nat} {settings : List Setting} (enough : ts.length ≤ bound) :
    settingsFrom bound ts = .ok settings ↔ List.Forall₂ Setting.Spelled settings (items ts) := by
  induction bound generalizing ts settings with
  | zero =>
    obtain rfl := List.length_eq_zero_iff.1 (Nat.le_zero.1 enough)
    rw [items, List.forall₂_nil_right_iff, settingsFrom, Except.ok.injEq, eq_comm]
  | succ bound ih =>
    cases ts with
    | nil =>
      show (.ok [] : Except Error (List Setting)) = .ok settings ↔ _
      rw [items, List.forall₂_nil_right_iff, Except.ok.injEq, eq_comm]
    | cons t ts =>
      rw [settingsFrom_cons, bind_eq_ok_iff]
      constructor
      · rintro ⟨⟨first, rest⟩, taken, others⟩
        obtain ⟨item, spelled, whole⟩ := takeSetting_eq_ok_iff.1 taken
        rw [whole]
        cases rest with
        | nil =>
          cases others
          rw [List.append_nil, items_of_notMem spelled.comma_notMem spelled.ne_nil]
          exact .cons spelled .nil
        | cons u rest =>
          rw [settingsAfter] at others
          split at others
          · next separated =>
            obtain ⟨later, read, same⟩ := bind_eq_ok_iff.1 others
            cases same
            subst separated
            rw [items_append_comma spelled.comma_notMem]
            refine .cons spelled ((ih ?_).1 read)
            have length := congrArg List.length whole
            simp only [List.length_append, List.length_cons] at length enough
            omega
          · cases others
      · intro spelled
        by_cases separated : comma ∈ t :: ts
        · obtain ⟨item, rest, whole, lack⟩ := List.eq_append_cons_of_mem separated
          rw [whole, items_append_comma lack] at spelled
          obtain _ | ⟨first, others⟩ := spelled
          refine ⟨_, takeSetting_eq_ok_iff.2 ⟨item, first, whole⟩, ?_⟩
          rw [settingsAfter, if_pos rfl]
          refine bind_eq_ok_iff.2 ⟨_, (ih ?_).2 others, rfl⟩
          have length := congrArg List.length whole
          simp only [List.length_append, List.length_cons] at length enough
          omega
        · rw [items_of_notMem separated (List.cons_ne_nil t ts)] at spelled
          obtain _ | ⟨first, others⟩ := spelled
          cases others
          exact ⟨_, takeSetting_eq_ok_iff.2 ⟨_, first, (List.append_nil _).symm⟩, rfl⟩

end Settings

/-! ## Items of attributes -/

/-- The items in what follows the name of an attribute; nothing where no list stands there. -/
def listed? : List Token → Option (List (List Token))
  | .symbol c :: rest =>
    if (closing? c).isSome && (splitGroup 0 rest).2.isEmpty then some (items (splitGroup 0 rest).1)
    else none
  | _ => none

/-- The items of an attribute; there are none in an attribute about something else. -/
def itemsOf? (text : String) : Option (List (List Token)) :=
  match arguments? (tokens text) with
  | none => some []
  | some rest => listed? rest

/-- The items of attributes in their order; nothing where one of them has no list. -/
def allItems (attributes : List String) : Option (List (List Token)) :=
  (attributes.mapM itemsOf?).map List.flatten

/-- Attributes give settings item by item. -/
def Gives (attributes : List String) (settings : List Setting) : Prop :=
  ∃ given, allItems attributes = some given ∧ List.Forall₂ Setting.Spelled settings given

theorem readArguments_eq_ok_iff {ts : List Token} {settings : List Setting} :
    readArguments ts = .ok settings ↔
      ∃ given, listed? ts = some given ∧ List.Forall₂ Setting.Spelled settings given := by
  cases ts with
  | nil => simp [readArguments, listed?]
  | cons t rest =>
    cases t with
    | symbol c =>
      rw [readArguments, listed?]
      cases opening : closing? c with
      | none =>
        refine ⟨fun h => ?_, nofun⟩
        split at h <;> cases h
      | some closing =>
        have ne : c ≠ '=' := by
          rintro rfl
          cases opening
        by_cases after : (splitGroup 0 rest).2.isEmpty
        · simp [ne, after, settingsFrom_eq_ok_iff]
        · simp [ne, after]
    | _ => simp [readArguments, listed?]

theorem readAttribute_eq_ok_iff {text : String} {settings : List Setting} :
    readAttribute text = .ok settings ↔
      ∃ given, itemsOf? text = some given ∧ List.Forall₂ Setting.Spelled settings given := by
  unfold readAttribute itemsOf?
  cases arguments? (tokens text) with
  | none => simp [eq_comm]
  | some rest => exact readArguments_eq_ok_iff

theorem allItems_cons (text : String) (attributes : List String) :
    allItems (text :: attributes)
      = (itemsOf? text).bind fun given => (allItems attributes).map (given ++ ·) := by
  rw [allItems, List.mapM_cons]
  cases itemsOf? text with
  | none => rfl
  | some given =>
    rw [allItems]
    cases attributes.mapM itemsOf? <;> rfl

/-- Attributes are read item by item. -/
theorem gives_iff {attributes : List String} {settings : List Setting} :
    Gives attributes settings ↔ Readable attributes ∧ settingsOf attributes = settings := by
  induction attributes generalizing settings with
  | nil =>
    constructor
    · rintro ⟨given, same, spelled⟩
      cases same
      cases spelled
      exact ⟨nofun, rfl⟩
    · rintro ⟨-, rfl⟩
      exact ⟨[], rfl, .nil⟩
  | cons text attributes ih =>
    rw [readable_cons]
    constructor
    · rintro ⟨given, same, spelled⟩
      rw [allItems_cons, Option.bind_eq_some_iff] at same
      obtain ⟨first, here, same⟩ := same
      obtain ⟨others, later, rfl⟩ := Option.map_eq_some_iff.1 same
      have read := readAttribute_eq_ok_iff.2 ⟨first, here, List.forall₂_take_append _ _ _ spelled⟩
      obtain ⟨readable, rest⟩ := ih.1 ⟨others, later, List.forall₂_drop_append _ _ _ spelled⟩
      rw [settingsOf_cons read, rest, List.take_append_drop]
      exact ⟨⟨⟨_, read⟩, readable⟩, rfl⟩
    · rintro ⟨⟨⟨first, read⟩, readable⟩, rfl⟩
      obtain ⟨here, found, spelled⟩ := readAttribute_eq_ok_iff.1 read
      obtain ⟨later, others, spelledLater⟩ := ih.2 ⟨readable, rfl⟩
      refine ⟨here ++ later, ?_, ?_⟩
      · rw [allItems_cons, found, others]
        rfl
      · rw [settingsOf_cons read]
        exact List.rel_append spelled spelledLater

/-- Attributes are accepted if all of their items are settings that fit. -/
theorem readAttributes_eq_ok_iff_gives {fit : Settings → Bool} {allowed : Setting → Prop}
    {refusal : Error} (fit_iff : ∀ settings, fit (.ofList settings) ↔ ∀ x ∈ settings, allowed x)
    {attributes : List String} {s : Settings} :
    readAttributes fit refusal attributes = .ok s ↔
      ∃ settings, Gives attributes settings ∧ (∀ x ∈ settings, allowed x) ∧ s = .ofList settings := by
  rw [readAttributes_eq_ok_iff fit_iff]
  simp only [gives_iff, and_assoc, exists_and_left, exists_eq_left']

/-! ## Regrouped declarations -/

/-- Members that differ in the attributes that their items stand in. -/
structure Member.Regrouped (m m' : Member) : Prop where
  name : m.name = m'.name
  type : m.type = m'.type
  items : allItems m.attributes = allItems m'.attributes

/-- Declarations that differ in the attributes that the items of the record and of its members stand in. -/
structure Declaration.Regrouped (d d' : Declaration) : Prop where
  items : allItems d.attributes = allItems d'.attributes
  members : Option.Rel (List.Forall₂ Member.Regrouped) d.members d'.members

theorem Gives.congr {attributes attributes' : List String} {settings : List Setting}
    (same : allItems attributes = allItems attributes') :
    Gives attributes settings ↔ Gives attributes' settings := by
  rw [Gives, Gives, same]

/-- Steps that succeed alike go on alike. -/
theorem bind_eq_ok_congr {ε α β : Type} {x y : Except ε α} {f : α → Except ε β} {b : β}
    (same : ∀ a, x = .ok a ↔ y = .ok a) : x >>= f = .ok b ↔ y >>= f = .ok b := by
  rw [bind_eq_ok_iff, bind_eq_ok_iff]
  exact exists_congr fun a => and_congr_left' (same a)

theorem Member.Regrouped.field_eq_ok_iff {m m' : Member} (h : m.Regrouped m') {table : Option String}
    {field : Option Field} : m.field table = .ok field ↔ m'.field table = .ok field := by
  rw [Member.field, Member.field, h.name, h.type]
  apply bind_eq_ok_congr
  intro s
  simp only [readAttributes_eq_ok_iff_gives fun _ => Settings.fitField_ofList, Gives.congr h.items]

theorem Lookup.extend_regrouped {members members' : List Member}
    (h : List.Forall₂ Member.Regrouped members members') {table : Option String} {taken : List String}
    {lookup result : Lookup} :
    lookup.extend table taken members = .ok result
      ↔ lookup.extend table taken members' = .ok result := by
  induction h generalizing taken lookup with
  | nil => rfl
  | cons first others ih =>
    rw [extend, extend, bind_eq_ok_congr fun field => first.field_eq_ok_iff]
    rw [bind_eq_ok_iff, bind_eq_ok_iff]
    refine exists_congr fun field => and_congr_right fun _ => ?_
    cases field with
    | none => exact ih
    | some field =>
      dsimp only
      split
      · rfl
      · exact ih

theorem Declaration.Regrouped.lookup_eq_ok_iff {d d' : Declaration} (h : d.Regrouped d')
    {lookup : Lookup} : d.lookup = .ok lookup ↔ d'.lookup = .ok lookup := by
  have read (s : Settings) :
      readAttributes Settings.fitRecord .fieldSettingOnRecord d.attributes = .ok s
        ↔ readAttributes Settings.fitRecord .fieldSettingOnRecord d'.attributes = .ok s := by
    simp only [readAttributes_eq_ok_iff_gives fun _ => Settings.fitRecord_ofList, Gives.congr h.items]
  have members := h.members
  rw [Declaration.lookup, Declaration.lookup, bind_eq_ok_congr read, bind_eq_ok_iff, bind_eq_ok_iff]
  generalize d.members = named at members ⊢
  generalize d'.members = named' at members ⊢
  refine exists_congr fun s => and_congr_right fun _ => ?_
  cases members with
  | none => rfl
  | some same => exact Lookup.extend_regrouped same

/-- Of several settings of a kind the last one counts, and one that excludes a member is enough. -/
structure Declaration.LastWins (d : Declaration) (members : List Member) (lookup : Lookup) : Prop where
  table : ∃ given, Gives d.attributes given ∧ d.table? = (given.filterMap Setting.table?).getLast?
  member : ∀ m ∈ members, ∃ given, Gives m.attributes given ∧
    (m.isExposed ↔ .exclude ∉ given) ∧
    m.exposedName = (given.filterMap Setting.name?).getLast?.getD (camel (unmarked m.name)) ∧
    m.ownColumn? = (given.filterMap Setting.column?).getLast?
  /-- These settings say which fields can be looked up. -/
  fields : lookup.fields = fieldsOf d.table? members
  names : lookup.names = lookup.fields.map Field.name

theorem Declaration.lastWins_of_lookup {d : Declaration} {lookup : Lookup}
    (h : d.lookup = .ok lookup) : ∃ members, d.members = some members ∧ d.LastWins members lookup := by
  obtain ⟨members, formed, rfl⟩ := lookup_eq_ok_iff.1 h
  refine ⟨members, formed.named, ?_, fun m mem => ?_, ?_, ?_⟩
  · exact ⟨_, gives_iff.2 ⟨formed.readable, rfl⟩, rfl⟩
  · refine ⟨_, gives_iff.2 ⟨(formed.accepted m mem).readable, rfl⟩, ?_, rfl, rfl⟩
    simp [Member.isExposed, Member.settings]
  · rw [Lookup.foldl_add]
    rfl
  · rw [Lookup.foldl_add]
    rfl

/-- However the items of a declaration are spread over attributes, it has a look-up or none, and it has
the same one; in it the last settings count. -/
theorem Declaration.lookup_regrouped {d d' : Declaration} (h : d.Regrouped d') :
    ((∃ lookup, d.lookup = .ok lookup) ↔ ∃ lookup, d'.lookup = .ok lookup) ∧
      ∀ lookup, d.lookup = .ok lookup →
        d'.lookup = .ok lookup ∧
          ∃ members, d.members = some members ∧ d.LastWins members lookup := by
  refine ⟨exists_congr fun lookup => h.lookup_eq_ok_iff, fun lookup found => ?_⟩
  exact ⟨h.lookup_eq_ok_iff.1 found, Declaration.lastWins_of_lookup found⟩

/-- A record whose items stand together. -/
def gatheredRow : Declaration where
  name := "Row"
  attributes := ["query(table = \"t\", table = \"m\")"]
  members := some
    [⟨"genre", "String", ["query(rename = \"g\", column = \"m.kind\", rename = \"kind\")"]⟩,
      ⟨"note", "String", ["query(exclude, rename = \"n\")"]⟩]

/-- The record with its items in attributes of their own, some of which end with a comma or are empty. -/
def spreadRow : Declaration where
  name := "Row"
  attributes := ["query(table = \"t\",)", "doc(hidden)", "query(table = \"m\")"]
  members := some
    [⟨"genre", "String", ["query(rename = \"g\",)", "query(column = \"m.kind\", rename = \"kind\")"]⟩,
      ⟨"note", "String", ["query(exclude)", "query()", "query(rename = \"n\")"]⟩]

theorem lookup_regrouped_rows :
    gatheredRow.Regrouped spreadRow ∧
      ∃ lookup, gatheredRow.lookup = .ok lookup ∧ spreadRow.lookup = .ok lookup ∧
        lookup.fields = [⟨"kind", "m.kind", "String"⟩] ∧
        ∃ members, gatheredRow.members = some members ∧ gatheredRow.LastWins members lookup := by
  have regrouped : gatheredRow.Regrouped spreadRow := by
    refine ⟨by decide +kernel, .some (.cons ?_ (.cons ?_ .nil))⟩
    all_goals exact ⟨rfl, rfl, by decide +kernel⟩
  have made : gatheredRow.lookup.toOption.map Lookup.fields = some [⟨"kind", "m.kind", "String"⟩] := by
    decide +kernel
  obtain ⟨lookup, found, fields⟩ := Option.map_eq_some_iff.1 made
  have found := toOption_eq_some_iff.1 found
  obtain ⟨same, lastWins⟩ := (Declaration.lookup_regrouped regrouped).2 lookup found
  exact ⟨regrouped, lookup, found, same, fields, lastWins⟩

end Listings.Record
