import Listings.Record.Error
import Listings.Record.Token
import Listings.Text.Split

/-!
# Settings of a record and its fields

Settings stand in attributes called `query`: `table` for the record; `rename`, `column` and `exclude`
for a field. Other attributes mean nothing here.

* `readAttribute`: the settings of one attribute.
* `Settings.add`: a later setting takes the place of an earlier one of its kind.
* `readAttributes`: the settings of all attributes of a record or field.
* `Settings.ofList_append`: it does not matter over which attributes settings are spread.
-/

namespace Listings.Record

/-- One setting. -/
inductive Setting where
  /-- The table of the columns that have no path of their own. -/
  | table (path : String)
  /-- The name in requests. -/
  | rename (name : String)
  /-- The path of the column. -/
  | column (path : String)
  /-- The field is not exposed. -/
  | exclude
deriving DecidableEq

/-- Whether a text is a path: words of letters, digits and underscores with dots between them. -/
def isPath (s : String) : Bool :=
  (Text.splitOn '.' s.toList).all fun part => !part.isEmpty && part.all Text.isWordPart

/-- The text that follows an equals sign, and the tokens after it. -/
def takeText : List Token → Except Error (String × List Token)
  | .symbol '=' :: .text s :: rest => .ok (s, rest)
  | .symbol '=' :: [] => .error .missingText
  | .symbol '=' :: _ => .error .expectedText
  | _ => .error .expectedEquals

/-- The path that follows an equals sign, and the tokens after it. -/
def takePath (ts : List Token) : Except Error (String × List Token) := do
  let (path, rest) ← takeText ts
  if isPath path then return (path, rest) else throw .notAPath

/-- One setting, and the tokens after it. -/
def takeSetting : List Token → Except Error (Setting × List Token)
  | .word w :: rest =>
    if w = "table" then (fun (p, rest) => (.table p, rest)) <$> takePath rest
    else if w = "rename" then (fun (n, rest) => (.rename n, rest)) <$> takeText rest
    else if w = "column" then (fun (p, rest) => (.column p, rest)) <$> takePath rest
    else if w = "exclude" then .ok (.exclude, rest)
    else .error .unknownSetting
  | _ => .error .expectedWord

/-- The settings of a list, with commas between them and perhaps one after the last. There are no more
settings than tokens. -/
def settingsFrom : Nat → List Token → Except Error (List Setting)
  | 0, _ | _, [] => .ok []
  | bound + 1, ts => do
    let (first, rest) ← takeSetting ts
    match rest with
    | [] => return [first]
    | .symbol ',' :: rest => return first :: (← settingsFrom bound rest)
    | _ => throw .expectedComma

/-- The closing bracket of an opening one. -/
def closing? : Char → Option Char
  | '(' => some ')'
  | '[' => some ']'
  | '\x7b' => some '\x7d'
  | _ => none

/-- The tokens inside a bracket that has been opened, and those after it. `depth` counts the brackets
opened inside. -/
def splitGroup (depth : Nat) : List Token → List Token × List Token
  | [] => ([], [])
  | t :: rest =>
    let go := fun depth =>
      let (inside, after) := splitGroup depth rest
      (t :: inside, after)
    match t with
    | .symbol c =>
      if (closing? c).isSome then go (depth + 1)
      else if c = ')' || c = ']' || c = '\x7d' then
        match depth with
        | 0 => ([], rest)
        | depth + 1 => go depth
      else go depth
    | _ => go depth

/-- The name of the attributes that hold settings. -/
def attributeName : String := "query"

/-- What follows the name of an attribute that holds settings; nothing for other attributes. -/
def arguments? : List Token → Option (List Token)
  | .word _ :: .symbol ':' :: _ => none
  | .word w :: rest => if w = attributeName then some rest else none
  | _ => none

/-- The settings in what follows the name of an attribute. -/
def readArguments : List Token → Except Error (List Setting)
  | [] => .error .missingArguments
  | .symbol c :: rest =>
    if c = '=' then .error .assignedArguments
    else if (closing? c).isNone then .error .noArguments
    else
      let (inside, after) := splitGroup 0 rest
      if after.isEmpty then settingsFrom inside.length inside else .error .afterArguments
  | _ => .error .noArguments

/-- The settings of an attribute; none when it is about something else. -/
def readAttribute (text : String) : Except Error (List Setting) :=
  match arguments? (tokens text) with
  | none => .ok []
  | some rest => readArguments rest

/-- What settings amount to. -/
structure Settings where
  table : Option String := none
  name : Option String := none
  column : Option String := none
  excluded : Bool := false
deriving DecidableEq

namespace Settings

/-- One more setting. -/
def add (s : Settings) : Setting → Settings
  | .table path => { s with table := some path }
  | .rename name => { s with name := some name }
  | .column path => { s with column := some path }
  | .exclude => { s with excluded := true }

/-- What the settings of one attribute amount to. -/
def ofList (settings : List Setting) : Settings := settings.foldl add {}

/-- The settings of one attribute put after those of earlier ones. -/
def merge (earlier later : Settings) : Settings where
  table := later.table <|> earlier.table
  name := later.name <|> earlier.name
  column := later.column <|> earlier.column
  excluded := earlier.excluded || later.excluded

/-- Whether no setting for fields is among them, as it has to be for a record. -/
def fitRecord (s : Settings) : Bool := s.name.isNone && s.column.isNone && !s.excluded

/-- Whether no setting for records is among them, as it has to be for a field. -/
def fitField (s : Settings) : Bool := s.table.isNone

end Settings

/-- What settings amount to with those of one more attribute. They have to fit, which is checked when
the attribute has been read. -/
def readNext (fit : Settings → Bool) (refusal : Error) (earlier : Settings) (text : String) :
    Except Error Settings := do
  let settings := Settings.ofList (← readAttribute text)
  if fit settings then return earlier.merge settings else throw refusal

/-- The settings of the attributes of a record or field, one attribute after the other. -/
def readAttributes (fit : Settings → Bool) (refusal : Error) (attributes : List String) :
    Except Error Settings :=
  attributes.foldlM (readNext fit refusal) {}

/-! ## What a list of settings says -/

namespace Setting

/-- Whether a setting is for records and not for fields. -/
def isTable : Setting → Bool
  | table _ => true
  | _ => false

/-- The table that a setting gives. -/
def table? : Setting → Option String
  | table path => some path
  | _ => none

/-- The name that a setting gives. -/
def name? : Setting → Option String
  | rename name => some name
  | _ => none

/-- The column that a setting gives. -/
def column? : Setting → Option String
  | column path => some path
  | _ => none

end Setting

namespace Settings

@[simp] theorem merge_empty (s : Settings) : s.merge {} = s := by
  simp [merge]

theorem merge_add (earlier later : Settings) (x : Setting) :
    earlier.merge (later.add x) = (earlier.merge later).add x := by
  cases x <;> simp [merge, add]

/-- The settings of two attributes are those of one that has both lists. -/
theorem ofList_append (earlier later : List Setting) :
    ofList (earlier ++ later) = (ofList earlier).merge (ofList later) := by
  have put (s t : Settings) : later.foldl add (s.merge t) = s.merge (later.foldl add t) := by
    induction later generalizing t with
    | nil => rfl
    | cons x later ih => rw [List.foldl_cons, ← merge_add, ih, List.foldl_cons]
  calc ofList (earlier ++ later) = later.foldl add ((ofList earlier).merge {}) := by
        rw [ofList, List.foldl_append, merge_empty, ofList]
    _ = (ofList earlier).merge (ofList later) := put (ofList earlier) {}

/-- Of a value that settings may give, the last one given holds. -/
theorem value_ofList {value : Settings → Option String} {given : Setting → Option String}
    (none_given : value {} = none) (add_given : ∀ s x, value (add s x) = (given x).or (value s))
    (settings : List Setting) : value (ofList settings) = (settings.filterMap given).getLast? := by
  have onto (s : Settings) :
      value (settings.foldl add s) = (settings.filterMap given).getLast?.or (value s) := by
    induction settings generalizing s with
    | nil => rfl
    | cons x settings ih =>
      rw [List.foldl_cons, ih, add_given, ← Option.or_assoc]
      cases h : given x with
      | none => simp [h]
      | some v => simp [h, List.getLast?_cons]
  rw [ofList, onto, none_given, Option.or_none]

theorem table_ofList (settings : List Setting) :
    (ofList settings).table = (settings.filterMap Setting.table?).getLast? :=
  value_ofList rfl (fun _ x => by cases x <;> rfl) settings

theorem name_ofList (settings : List Setting) :
    (ofList settings).name = (settings.filterMap Setting.name?).getLast? :=
  value_ofList rfl (fun _ x => by cases x <;> rfl) settings

theorem column_ofList (settings : List Setting) :
    (ofList settings).column = (settings.filterMap Setting.column?).getLast? :=
  value_ofList rfl (fun _ x => by cases x <;> rfl) settings

/-- One setting that excludes is enough. -/
theorem excluded_ofList (settings : List Setting) :
    (ofList settings).excluded = settings.contains .exclude := by
  have onto (s : Settings) :
      (settings.foldl add s).excluded = (s.excluded || settings.contains .exclude) := by
    induction settings generalizing s with
    | nil => simp
    | cons x settings ih =>
      rw [List.foldl_cons, ih]
      cases x <;> simp [add]
  rw [ofList, onto, Bool.false_or]

theorem fitRecord_ofList {settings : List Setting} :
    (ofList settings).fitRecord ↔ ∀ x ∈ settings, x.isTable := by
  rw [fitRecord, name_ofList, column_ofList, excluded_ofList]
  simp only [Bool.and_eq_true, Option.isNone_iff_eq_none, List.getLast?_eq_none_iff,
    List.filterMap_eq_nil_iff, Bool.not_eq_true', List.contains_eq_mem, decide_eq_false_iff_not]
  constructor
  · rintro ⟨⟨unnamed, uncolumned⟩, exposed⟩ x mem
    cases x with
    | table path => rfl
    | rename name => cases unnamed _ mem
    | column path => cases uncolumned _ mem
    | exclude => exact absurd mem exposed
  · intro tables
    refine ⟨⟨fun x mem => ?_, fun x mem => ?_⟩, fun mem => nomatch tables _ mem⟩
    all_goals
      have := tables x mem
      cases x <;> simp_all [Setting.isTable, Setting.name?, Setting.column?]

theorem fitField_ofList {settings : List Setting} :
    (ofList settings).fitField ↔ ∀ x ∈ settings, x.isTable = false := by
  rw [fitField, table_ofList, Option.isNone_iff_eq_none, List.getLast?_eq_none_iff,
    List.filterMap_eq_nil_iff]
  refine forall₂_congr fun x _ => ?_
  cases x <;> simp [Setting.table?, Setting.isTable]

end Settings

end Listings.Record
