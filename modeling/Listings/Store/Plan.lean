import Listings.Store.Names

/-!
# Plans

A pattern may be too long for values to be matched with it. A statement with such a pattern stops when
it comes to a value that it would have to match. Whether it ever does depends on the rows that it looks
at and on the order of its tests, and so on the plan for it. Among these rows there may be some that
have no part in the answer.

* `selectTooLong`: a statement with a pattern that is too long.
* `settle`: a condition that is decided from the left, and no further than is needed.
* `Plan`: a plan for every statement. It is for others to choose, and nothing is known of it but that it
  stops at patterns that are too long and at nothing else.
* `Plan.nested`: the plan that reads whole tables in loops inside one another.
-/

namespace Listings.Store

open Sql

/-! ## Patterns -/

/-- The number of bytes that a pattern may have. -/
def patternLimit : Nat := 50000

/-- Whether a pattern is too long for a value to be matched with it. -/
def tooLong (pattern : Value) : Bool := patternLimit < (asText (bound pattern)).utf8ByteSize

/-- Whether a test has a pattern that is too long. -/
def testTooLong : Test → Bool
  | .compare _ .like pattern => tooLong pattern
  | .inRows _ _ _ where_ _ => testTooLong where_
  | _ => false

/-- Whether a condition has a pattern that is too long. -/
def conditionTooLong : Condition → Bool
  | .test t => testTooLong t
  | .not inner => conditionTooLong inner
  | .and left right | .or left right => conditionTooLong left || conditionTooLong right

/-- Whether a select has a pattern that is too long, in its condition or in that of a join. -/
def selectTooLong (s : Select) : Bool :=
  s.condition.any conditionTooLong || s.joins.any fun join => join.on.any conditionTooLong

/-! ## Deciding a condition -/

/-- Whether a test comes to a pattern that is too long. The length is looked at before the value, which
may be null. A subselect looks at its own rows, if there are any. -/
def testStops (db : Database) : Test → Bool
  | .compare _ .like pattern => tooLong pattern
  | .inRows _ _ table where_ _ => !(db.rowsOf table).isEmpty && testStops db where_
  | _ => false

/-- Whether a condition is true where the unknown counts as `unknownAs`, or nothing if a pattern is too
long. It is decided from the left, and what comes after an operand that decides is not looked at. -/
def settle (db : Database) (scope : Scope) : (c : Condition) → (unknownAs : Bool) → Option Bool
  | .test t, unknownAs =>
    if testStops db t then none else some ((testTruth db scope t).settled unknownAs)
  | .not inner, unknownAs => (settle db scope inner !unknownAs).map (!·)
  | .and left right, unknownAs => do
    if ← settle db scope left unknownAs then settle db scope right unknownAs else return false
  | .or left right, unknownAs => do
    if ← settle db scope left unknownAs then return true else settle db scope right unknownAs

theorem testTooLong_of_stops {db : Database} {t : Test} (h : testStops db t) : testTooLong t := by
  induction t with
  | compare column op value =>
    cases op with
    | like => exact h
    | _ => cases h
  | inRows column projection table where_ negated ih => exact ih (Bool.and_eq_true_iff.1 h).2
  | _ => cases h

/-- Nothing but a pattern that is too long leaves a condition undecided. -/
theorem conditionTooLong_of_settle {db : Database} {scope : Scope} {c : Condition} {u : Bool}
    (h : settle db scope c u = none) : conditionTooLong c := by
  induction c generalizing u with
  | test t =>
    simp only [settle] at h
    split at h
    · next stops => exact testTooLong_of_stops stops
    · cases h
  | not inner ih => exact ih (Option.map_eq_none_iff.1 h)
  | and left right ihl ihr | or left right ihl ihr =>
    refine Bool.or_eq_true_iff.2 ?_
    cases first : settle db scope left u with
    | none => exact .inl (ihl first)
    | some b =>
      simp only [settle, first, Option.bind_eq_bind, Option.bind_some] at h
      -- one of the two values decides, and then nothing is left to stop at
      cases b <;> first | exact .inr (ihr h) | cases h

/-! ## Plans -/

/-- Which statements come to a pattern that is too long when they are run on a database. -/
structure Plan where
  stops : Database → Select → Bool
  /-- Nothing else stops a statement. -/
  tooLong_of_stops {db : Database} {s : Select} (h : stops db s) : selectTooLong s

namespace Plan

/-- Goes through the rows of a select. -/
def follow (plan : Plan) (db : Database) (s : Select) : Except StoreError Unit :=
  if plan.stops db s then .error .patternTooComplex else .ok ()

/-- Looks up the names of a statement and goes through its rows. -/
def execute (plan : Plan) (db : Database) (statement : Statement) : Except StoreError Unit := do
  db.check statement
  plan.follow db statement.select

/-- A statement whose patterns are short enough is not stopped. -/
theorem follow_of_within (plan : Plan) (db : Database) {s : Select} (h : selectTooLong s = false) :
    plan.follow db s = .ok () := by
  unfold follow
  split
  · next stops => exact absurd (plan.tooLong_of_stops stops) (by simp [h])
  · rfl

theorem execute_of_stops {plan : Plan} {db : Database} {statement : Statement}
    (checked : db.check statement = .ok ()) (stops : plan.stops db statement.select) :
    plan.execute db statement = .error .patternTooComplex := by
  rw [execute, checked]
  exact if_pos stops

end Plan

/-! ## Loops inside one another -/

/-- The columns of a test; a subselect has its own. -/
def testColumns : Test → List ColumnPath
  | .compare path _ _ | .isNull path _ | .inValues path _ _ | .inRows path _ _ _ _ => [path]
  | .sameColumns left right => [left, right]
  | .sameValues _ _ => []

/-- The columns of a condition. -/
def conditionColumns : Condition → List ColumnPath
  | .test t => testColumns t
  | .not inner => conditionColumns inner
  | .and left right | .or left right => conditionColumns left ++ conditionColumns right

/-- The conditions that all have to be true for a condition to be true. -/
def conjuncts : Condition → List Condition
  | .and left right => conjuncts left ++ conjuncts right
  | c => [c]

/-- Whether a path stands for a column of one of some rows. -/
def isAmong (rows : Frame) (path : ColumnPath) : Bool := !(Frame.cells rows path).isEmpty

/-- Whether the comparisons in a condition leave it unknown if the rows of a table are null. -/
def dependsOn (nulls : Frame) : Condition → Bool
  | .test (.compare path op _) => op != .like && isAmong nulls path
  | .test (.inValues path _ _) => isAmong nulls path
  | .test (.sameColumns left right) => isAmong nulls left || isAmong nulls right
  | .test _ => false
  | .not inner => dependsOn nulls inner
  | .and left right | .or left right => dependsOn nulls left && dependsOn nulls right

/-- Whether a condition is seen not to be true if the rows of a table are null. -/
def demands (nulls : Frame) : Condition → Bool
  | .and left right => demands nulls left || demands nulls right
  | .test (.isNull path true) => isAmong nulls path
  | c => dependsOn nulls c

/-- A table that is read in a loop. -/
inductive Loop where
  /-- All rows of the table. -/
  | all (table : ColumnPath)
  /-- The rows that match what is there, or nulls. -/
  | matching (join : LeftJoin)

/-- The table of a loop. -/
def Loop.table : Loop → ColumnPath
  | all table => table
  | matching join => join.table

/-- The frames that a loop goes through. -/
def Loop.frames (db : Database) (frame : Frame) : Loop → List Frame
  | all table => (db.rowsOf table).map fun row => frame ++ [row]
  | matching join => joinRows db [frame] join

/-- A condition that is tested in the loops, with the columns that others of them fix to a value. These
need not be read for it. -/
structure Tested where
  fixed : Frame
  condition : Condition

namespace Tested

/-- Whether a condition can be tested before some tables are read. -/
def isReady (db : Database) (ahead : List Loop) (tested : Tested) : Bool :=
  let nulls := ahead.map fun loop => db.nullRowOf loop.table
  (conditionColumns tested.condition).all fun path =>
    isAmong tested.fixed path || !isAmong nulls path

/-- Whether a condition is true of the rows that are there, or nothing if a pattern is too long. -/
def settle (db : Database) (frame : Frame) (tested : Tested) : Option Bool :=
  Store.settle db [tested.fixed, frame] tested.condition false

end Tested

/-- Whether loops come to a pattern that is too long. A frame is left as soon as a condition is not true
there. -/
def loopsStop (db : Database) : List Loop → (pending : List Tested) → Frame → Bool
  | [], pending, frame => (pending.allM (Tested.settle db frame)).isNone
  | loop :: loops, pending, frame =>
    let ahead := loop :: loops
    match (pending.filter (Tested.isReady db ahead)).allM (Tested.settle db frame) with
    | none => true
    | some false => false
    | some true =>
      let later := pending.filter fun tested => !tested.isReady db ahead
      (loop.frames db frame).any fun longer => loopsStop db loops later longer

/-- The row of a column that a condition fixes to a value. -/
def fixedRow? : Condition → Option Row
  | .test (.compare path .equal value) | .test (.inValues path [value] false) =>
    some ⟨path.parts.1.getD "", [(path.parts.2, value)]⟩
  | _ => none

/-- Conditions that are tested together, of which each sees what the others fix. -/
def testedTogether (conditions : List Condition) : List Tested :=
  let fixing := conditions.filterMap fun c => (fixedRow? c).map (c, ·)
  conditions.map fun c => ⟨(fixing.filter (·.1 ≠ c)).map (·.2), c⟩

/-- Whether some row of a join has to match where the condition of a select is true. -/
def isNeeded (db : Database) (s : Select) (join : LeftJoin) : Bool :=
  s.condition.any (demands [db.nullRowOf join.table])

/-- The loops of a select. Where some row has to match, every row of the joined table is read, and that
before the other tables are. -/
def loopsOf (db : Database) (s : Select) : List Loop :=
  let (needed, others) := s.joins.partition (isNeeded db s)
  needed.map (.all ·.table) ++ .all s.source :: others.map .matching

/-- The conditions that the loops of a select test. -/
def conditionsOf (db : Database) (s : Select) : List Condition :=
  (s.condition.toList ++ (s.joins.filter (isNeeded db s)).filterMap LeftJoin.on).flatMap conjuncts

theorem exists_of_allM {α : Type} {as : List α} {f : α → Option Bool} (h : as.allM f = none) :
    ∃ a ∈ as, f a = none := by
  induction as with
  | nil => cases h
  | cons a as ih =>
    cases first : f a with
    | none => exact ⟨a, List.mem_cons_self, first⟩
    | some b =>
      simp only [List.allM, first, Option.bind_eq_bind, Option.bind_some] at h
      cases b with
      | true =>
        obtain ⟨a', mem, none⟩ := ih h
        exact ⟨a', List.mem_cons_of_mem a mem, none⟩
      | false => cases h

/-- Loops stop at one of their conditions. -/
theorem exists_of_loopsStop {db : Database} {loops : List Loop} {pending : List Tested}
    {frame : Frame} (h : loopsStop db loops pending frame) :
    ∃ tested ∈ pending, conditionTooLong tested.condition := by
  induction loops generalizing pending frame with
  | nil =>
    obtain ⟨tested, mem, stopped⟩ := exists_of_allM (Option.isNone_iff_eq_none.1 h)
    exact ⟨tested, mem, conditionTooLong_of_settle stopped⟩
  | cons loop loops ih =>
    simp only [loopsStop] at h
    split at h
    · next here =>
      obtain ⟨tested, mem, stopped⟩ := exists_of_allM here
      exact ⟨tested, (List.mem_filter.1 mem).1, conditionTooLong_of_settle stopped⟩
    · cases h
    · obtain ⟨longer, -, inner⟩ := List.any_eq_true.1 h
      obtain ⟨tested, mem, long⟩ := ih inner
      exact ⟨tested, (List.mem_filter.1 mem).1, long⟩

theorem conditionTooLong_of_conjunct {c d : Condition} (h : d ∈ conjuncts c)
    (long : conditionTooLong d) : conditionTooLong c := by
  induction c with
  | and left right ihl ihr =>
    rw [conditionTooLong, Bool.or_eq_true_iff]
    exact (List.mem_append.1 h).imp ihl ihr
  | _ =>
    obtain rfl := List.mem_singleton.1 h
    exact long

theorem selectTooLong_of_mem {db : Database} {s : Select} {c : Condition}
    (h : c ∈ conditionsOf db s) (long : conditionTooLong c) : selectTooLong s := by
  obtain ⟨whole, given, conjunct⟩ := List.mem_flatMap.1 h
  have long := conditionTooLong_of_conjunct conjunct long
  rw [selectTooLong, Bool.or_eq_true_iff]
  rcases List.mem_append.1 given with given | given
  · refine .inl ?_
    rw [Option.mem_toList.1 given]
    exact long
  · obtain ⟨join, needed, on⟩ := List.mem_filterMap.1 given
    refine .inr (List.any_eq_true.2 ⟨join, (List.mem_filter.1 needed).1, ?_⟩)
    rw [on]
    exact long

/-- The plan that reads whole tables, whatever a key would lead to. -/
def Plan.nested : Plan where
  stops db s := loopsStop db (loopsOf db s) (testedTogether (conditionsOf db s)) []
  tooLong_of_stops h := by
    obtain ⟨tested, mem, long⟩ := exists_of_loopsStop h
    obtain ⟨c, given, rfl⟩ := List.mem_map.1 mem
    exact selectTooLong_of_mem given long

/-! ### Where they stop -/

theorem Plan.nested_stops (db : Database) (s : Select) :
    Plan.nested.stops db s = loopsStop db (loopsOf db s) (testedTogether (conditionsOf db s)) [] :=
  rfl

theorem loopsOf_eq (db : Database) (s : Select) :
    loopsOf db s = (s.joins.filter (isNeeded db s)).map (.all ·.table)
      ++ .all s.source :: (s.joins.filter fun join => !isNeeded db s join).map .matching := by
  simp only [loopsOf, List.partition_eq_filter_filter]
  rfl

theorem exists_testedTogether_cons (c : Condition) (cs : List Condition) :
    ∃ fixed later, testedTogether (c :: cs) = ⟨fixed, c⟩ :: later := ⟨_, _, rfl⟩

theorem Tested.settle_of_tooLong {pattern : Value} (long : tooLong pattern) (db : Database)
    (frame fixed : Frame) (path : ColumnPath) :
    Tested.settle db frame ⟨fixed, .test (.compare path .like pattern)⟩ = none :=
  if_pos long

section

variable {db : Database} {loop : Loop} {loops : List Loop} {pending : List Tested} {frame : Frame}

/-- Loops stop at the first condition that can be tested. -/
theorem loopsStop_of_first {tested : Tested} (ready : tested.isReady db (loop :: loops))
    (stops : tested.settle db frame = none) (pending : List Tested) :
    loopsStop db (loop :: loops) (tested :: pending) frame := by
  simp only [loopsStop, List.filter_cons_of_pos ready, List.allM, stops, Option.bind_eq_bind,
    Option.bind_none]

/-- If nothing can be tested before the first loop, they stop where the loops in it do. -/
theorem loopsStop_of_inner {longer : Frame}
    (early : ∀ tested ∈ pending, ¬tested.isReady db (loop :: loops))
    (mem : longer ∈ loop.frames db frame) (inner : loopsStop db loops pending longer) :
    loopsStop db (loop :: loops) pending frame := by
  have none : pending.filter (Tested.isReady db (loop :: loops)) = [] :=
    List.filter_eq_nil_iff.2 early
  have all : (pending.filter fun tested => !tested.isReady db (loop :: loops)) = pending :=
    List.filter_eq_self.2 fun tested given => by simpa using early tested given
  simp only [loopsStop, none, all, List.allM]
  exact List.any_eq_true.2 ⟨longer, mem, inner⟩

end

end Listings.Store
