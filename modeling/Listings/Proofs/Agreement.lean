import Listings.Store.Names
import Mathlib.Data.List.Perm.Basic

/-!
# Databases that agree

What of the tables of a database a statement depends on.

* `SameHeader`: two databases have a table of a name with the same columns, or both have none.
* `problem?_congr`: what is wrong with a statement depends on no more than that.
* `truth_congr`: the truth of a condition depends on which rows there are, not on their order.
* `joinRows_perm`: so do the rows of a join, of which only those count that match.
-/

namespace Listings.Store

open Sql

variable {db db' : Database}

/-! ## Names -/

/-- Two databases have the same columns in a table, or both have no such table. -/
structure SameHeader (db db' : Database) (path : ColumnPath) : Prop where
  known : (db.table? path.text).isSome = (db'.table? path.text).isSome
  nulls : db.nullRowOf path = db'.nullRowOf path

theorem testReferences_congr {t : Test} (h : ∀ path ∈ testTables t, SameHeader db db' path)
    (scope : Scope) (start : Option Nat) :
    testReferences db scope start t = testReferences db' scope start t := by
  induction t generalizing scope start with
  | inRows path projection table where_ negated ih =>
    obtain ⟨header, inner⟩ := List.forall_mem_cons.1 h
    rw [testReferences, testReferences, header.nulls, ih inner]
  | _ => rfl

theorem lookUp_congr {c : Condition} (h : ∀ path ∈ conditionTables c, SameHeader db db' path)
    (statement : Statement) (scope : Scope) (start : Option Nat) (found : Option StoreError) :
    lookUp db statement scope start found c = lookUp db' statement scope start found c := by
  induction c generalizing start found with
  | test t => simp only [lookUp, lookUpTest, testReferences_congr h]
  | not inner ih => simp only [lookUp, ih h]
  | and left right ihl ihr | or left right ihl ihr =>
    obtain ⟨hl, hr⟩ := List.forall_mem_append.1 h
    simp only [lookUp, ihl hl, ihr hr]

/-- Two databases have the same columns in the tables that a statement names. -/
structure SameHeaders (db db' : Database) (s : Select) : Prop where
  source : SameHeader db db' s.source
  joined : ∀ join ∈ s.joins, SameHeader db db' join.table
  condition : ∀ c ∈ s.condition, ∀ path ∈ conditionTables c, SameHeader db db' path
  on : ∀ join ∈ s.joins, ∀ c ∈ join.on, ∀ path ∈ conditionTables c, SameHeader db db' path

/-- Steps that agree on the items of a list do so on the list. -/
theorem foldlM_congr {ε α β : Type} {f g : β → α → Except ε β} {as : List α}
    (h : ∀ a ∈ as, ∀ b, f b a = g b a) (b : β) : as.foldlM f b = as.foldlM g b := by
  induction as generalizing b with
  | nil => rfl
  | cons a as ih =>
    obtain ⟨first, rest⟩ := List.forall_mem_cons.1 h
    rw [List.foldlM_cons, List.foldlM_cons, first b]
    exact bind_congr fun b' => ih rest b'

theorem lookUpConditions_congr {statement : Statement} (h : SameHeaders db db' statement.select)
    (scope : Scope) (start : Nat) :
    db.lookUpConditions statement scope start = db'.lookUpConditions statement scope start := by
  unfold Database.lookUpConditions
  refine foldlM_congr (fun place mem found => lookUp_congr ?_ ..) none
  rcases List.mem_append.1 mem with mem | mem
  · obtain ⟨c, given, rfl⟩ := Option.map_eq_some_iff.1 (Option.mem_toList.1 mem)
    exact h.condition c given
  · obtain ⟨join, joined, some⟩ := List.mem_filterMap.1 mem
    obtain ⟨c, given, rfl⟩ := Option.map_eq_some_iff.1 some
    exact h.on join joined c given

/-- What is wrong with a statement depends on the columns of its tables only. -/
theorem problem?_congr {statement : Statement} (h : SameHeaders db db' statement.select) :
    db.problem? statement = db'.problem? statement := by
  have tables : ∀ path ∈ tablesOf statement.select, SameHeader db db' path := by
    intro path mem
    rcases List.mem_append.1 mem with mem | mem
    · rcases List.mem_cons.1 mem with rfl | mem
      · exact h.source
      · obtain ⟨join, joined, rfl⟩ := List.mem_map.1 mem
        exact h.joined join joined
    · cases given : statement.select.condition with
      | none =>
        rw [given] at mem
        cases mem
      | some c =>
        rw [given] at mem
        exact h.condition c given path mem
  have unknown : (tablesOf statement.select).findSome? db.tableProblem?
      = (tablesOf statement.select).findSome? db'.tableProblem? := by
    have agree : ∀ path ∈ tablesOf statement.select,
        db.tableProblem? path = db'.tableProblem? path := by
      intro path mem
      rw [Database.tableProblem?, Database.tableProblem?, (tables path mem).known]
    rw [← List.head?_filterMap, ← List.head?_filterMap, List.filterMap_congr agree]
  have frame : statement.select.joins.map (fun join => db.nullRowOf join.table)
      = statement.select.joins.map fun join => db'.nullRowOf join.table :=
    List.map_congr_left fun join mem => (h.joined join mem).nulls
  unfold Database.problem? Database.columnProblem?
  simp only [unknown, frame, h.source.nulls, lookUpConditions_congr h]

theorem check_congr {statement : Statement} (h : SameHeaders db db' statement.select) :
    db.check statement = db'.check statement := by
  rw [Database.check, Database.check, problem?_congr h]

/-! ## Rows -/

/-- It does not matter in which order the values stand that a value may be one of. -/
theorem isOneOf_perm {values values' : List Value} (h : values.Perm values') (v : Value) :
    isOneOf v values = isOneOf v values' := by
  have comm : LeftCommutative Truth.or := ⟨fun a b c => by cases a <;> cases b <;> cases c <;> rfl⟩
  exact (h.map _).foldr_eq _

theorem testTruth_congr {t : Test}
    (h : ∀ path ∈ testTables t, (db.rowsOf path).Perm (db'.rowsOf path)) (scope : Scope) :
    testTruth db scope t = testTruth db' scope t := by
  induction t generalizing scope with
  | inRows path projection table where_ negated ih =>
    obtain ⟨rows, inner⟩ := List.forall_mem_cons.1 h
    simp only [testTruth, ih inner]
    rw [isOneOf_perm ((rows.filter _).map _)]
  | _ => rfl

/-- The truth of a condition depends on the rows of the tables in it. -/
theorem truth_congr {c : Condition}
    (h : ∀ path ∈ conditionTables c, (db.rowsOf path).Perm (db'.rowsOf path)) (scope : Scope) :
    truth db scope c = truth db' scope c := by
  induction c with
  | test t => exact testTruth_congr h scope
  | not inner ih => rw [truth, truth, ih h]
  | and left right ihl ihr | or left right ihl ihr =>
    obtain ⟨hl, hr⟩ := List.forall_mem_append.1 h
    rw [truth, truth, ihl hl, ihr hr]

theorem satisfies_congr {condition : Option Condition}
    (h : ∀ c ∈ condition, ∀ path ∈ conditionTables c, (db.rowsOf path).Perm (db'.rowsOf path))
    (frame : Frame) : satisfies db condition frame = satisfies db' condition frame := by
  cases condition with
  | none => rfl
  | some c => rw [satisfies, satisfies, truth_congr (h c rfl)]

/-- The rows of a join depend on the rows that match. -/
theorem joinRows_perm {frames frames' : List Frame} {join : LeftJoin} (hf : frames.Perm frames')
    (nulls : db.nullRowOf join.table = db'.nullRowOf join.table)
    (rows : ∀ frame ∈ frames,
      ((db.rowsOf join.table).filter fun row => satisfies db join.on (frame ++ [row])).Perm
        ((db'.rowsOf join.table).filter fun row => satisfies db' join.on (frame ++ [row]))) :
    (joinRows db frames join).Perm (joinRows db' frames' join) := by
  unfold joinRows
  refine (List.Perm.flatMap_left frames fun frame mem => ?_).trans (hf.flatMap_right _)
  have matching := rows frame mem
  dsimp only
  rw [nulls, matching.isEmpty_eq]
  split
  · exact .refl _
  · exact matching.map _

end Listings.Store
