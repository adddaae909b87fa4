import Listings.Proofs.Acceptance
import Listings.Proofs.Agreement
import Listings.Proofs.FirstFailure
import Listings.Proofs.Tiling
import Listings.Proofs.Transactions
import Listings.Proofs.Writing
import Listings.Store.Media

/-!
# Isolation of users

The lists of other users have no influence on the media listing of a user, unless a pattern is too long.

* `SameView`: two databases that differ in the notes of other users at most.
* `Serves`: an executor that follows some plan and breaks ties between rows as it likes.
* `TellsApart`: a sort that leaves no ties, or is refused.
* `OthersUnseen`, `othersUnseen`: the listing is the same on both databases, and what nobody but others
  has noted is listed as what nobody has noted. A pattern that is too long may stop it on either.
* `othersSeen_longPattern`: such a pattern stops it at a note of somebody else.
-/

namespace Listings.Store

open Sql

/-! ## What a user sees -/

/-- The table of the media. -/
def mediaPath : ColumnPath := ⟨"media"⟩

/-- The table of the tags. -/
def tagsPath : ColumnPath := ⟨"media_tags"⟩

/-- The table of what users have noted about media. -/
def notesPath : ColumnPath := ⟨"user_data"⟩

/-- Whether a note is one of `user`. -/
def Row.own (note : Row) : Bool := Scope.value [[note]] ⟨"user_data.user_id"⟩ = .text user

/-- Whether a note is about some media. -/
def Row.about (note media : Row) : Bool :=
  holds .equal (Scope.value [[note]] ⟨"user_data.media_id"⟩) (Scope.value [[media]] ⟨"media.id"⟩)
    = .yes

/-- Two databases have the same table, as far as some rows are concerned, in any order. -/
structure SameTable (seen : Row → Bool) (db db' : Database) (path : ColumnPath) : Prop
    extends SameHeader db db' path where
  rows : ((db.rowsOf path).filter seen).Perm ((db'.rowsOf path).filter seen)

/-- Two databases differ in the notes of other users at most, or in tables that no listing of media
needs. -/
structure SameView (db db' : Database) : Prop where
  media : SameTable (fun _ => true) db db' mediaPath
  tags : SameTable (fun _ => true) db db' tagsPath
  notes : SameTable Row.own db db' notesPath

/-- An executor of a connection that follows a plan. It may put rows in any order that a statement
allows. -/
structure Serves {ρ : Type} (plan : Plan) (read : Reader ρ)
    (executor : Executor Connection StoreError ρ) : Prop where
  count : executor.count = (Connection.executor read plan).count
  fetch : ∀ statement connection, ∃ records,
    connection.database.MayAnswer statement.select records ∧
      executor.fetch statement connection
        = (plan.execute connection.database statement >>= fun _ => records.mapM read, connection)
  consistent : ∀ {α : Type} (body : Run Connection StoreError α),
    executor.consistent body = Connection.transactions.run body

/-- The joined rows that a filter leaves. -/
def Database.listed (db : Database) (p : Option Predicate) : List Frame :=
  db.matching (mediaBase.select p mediaBase.projection)

/-- A sort is refused, or it tells all rows apart that the filter leaves. -/
def TellsApart (db : Database) (filter sort : String) : Prop :=
  ∀ p order, Catalog.media.compileFilter filter = .ok p →
    Catalog.media.compileSort sort = .ok order →
      ∃ keys, order = .byKeys keys ∧ Distinguishes keys (db.listed p)

/-- No pattern of a filter is too long, if the filter is accepted. -/
def PatternsWithin (filter : String) : Prop :=
  ∀ p, Catalog.media.compileFilter filter = .ok (some p) → conditionTooLong p.condition = false

/-- Two outcomes are the same, or one of them at least is a certain failure. -/
def SameUnless {ε α : Type} (e : ε) (o o' : Except ε α) : Prop :=
  o = o' ∨ o = .error e ∨ o' = .error e

/-- Media are listed with nulls beside them, as often as they stand in their table, if the filter is
true of them with the nulls. -/
structure ListedAlone (db : Database) (p : Option Predicate) (media : Row) : Prop where
  frames : (db.listed p).filter (·.head? = some media)
    = List.replicate
        (if satisfies db (p.map Predicate.condition) [media, db.nullRowOf notesPath] then
          (db.rowsOf mediaPath).count media
        else 0)
        [media, db.nullRowOf notesPath]
  nulls : ∀ cell ∈ (db.nullRowOf notesPath).cells, cell.2 = .null

/-- The notes of other users have no influence on the media listing. -/
structure OthersUnseen {ρ : Type} (executor executor' : Executor Connection StoreError ρ)
    (db db' : Database) (filter sort : String) : Prop where
  /-- On both databases every page has the same rows in the same order and the same number of them
  all, or there is the same error, if no pattern is too long. -/
  outcome : PatternsWithin filter → ∀ request inside,
    (mediaListing.fetch executor filter sort request ⟨db, inside⟩).1
      = (mediaListing.fetch executor' filter sort request ⟨db', inside⟩).1
  /-- Whatever the patterns are, there is no other difference than that one of them is too long. -/
  stopped : ∀ request inside, SameUnless (.store .patternTooComplex)
    (mediaListing.fetch executor filter sort request ⟨db, inside⟩).1
    (mediaListing.fetch executor' filter sort request ⟨db', inside⟩).1
  /-- Media that the user has noted nothing about are listed alone. -/
  alone : ∀ p, Catalog.media.compileFilter filter = .ok p →
    ∀ media ∈ db.rowsOf mediaPath,
      (∀ note ∈ db.rowsOf notesPath, note.own → ¬note.about media) → ListedAlone db p media

/-! ## Tables of a filter -/

theorem testTables_memberTest (path : ColumnPath) (values : List Value) (negated : Bool) :
    testTables (memberTest path values negated) = [] := by
  unfold memberTest
  split <;> rfl

theorem conditionTables_negate (p : Predicate) :
    conditionTables p.negate.condition = conditionTables p.condition := by
  cases p with
  | oneOf column values negated =>
    simp only [Predicate.negate, Predicate.condition, conditionTables, testTables_memberTest]
  | _ => rfl

/-- A filter of media reaches no table but that of the tags. -/
theorem conditionTables_of_resolves {e : Expr} {p : Predicate} (h : Resolves Catalog.media e p) :
    ∀ path ∈ conditionTables p.condition, path = tagsPath := by
  induction h with
  | and _ _ ihl ihr | or _ _ ihl ihr => exact List.forall_mem_append.2 ⟨ihl, ihr⟩
  | @not _ p _ ih =>
    rw [conditionTables_negate]
    exact ih
  | isNull | compare => nofun
  | member | inColumn =>
    rw [Predicate.condition, conditionTables, testTables_memberTest]
    nofun
  | @inTable function association id table args members hf found ha ht hm =>
    have tagged : table.table = tagsPath := by
      unfold Catalog.media Catalog.tagTable? at ht
      dsimp only at ht
      split at ht
      · cases ht
        rfl
      · cases ht
    rw [Predicate.condition, conditionTables, testTables, testTables_memberTest, tagged]
    exact fun path mem => List.mem_singleton.1 mem

theorem conditionTables_of_compileFilter {filter : String} {p : Option Predicate}
    (h : Catalog.media.compileFilter filter = .ok p) :
    ∀ c ∈ p.map Predicate.condition, ∀ path ∈ conditionTables c, path = tagsPath := by
  have plain : Catalog.media.TestsMembership := Catalog.testsMembership_of_mem (by simp)
  cases p with
  | none => nofun
  | some q =>
    obtain ⟨e, -, resolves⟩ := Entity.exists_resolves_of_compileFilter plain h
    rintro c ⟨⟩
    exact conditionTables_of_resolves resolves

/-! ## Rows of the join -/

/-- The join of the notes. -/
def noteJoin : LeftJoin :=
  ⟨notesPath, some
    (.and (.test (.sameColumns ⟨"user_data.media_id"⟩ ⟨"media.id"⟩))
      (.test (.compare ⟨"user_data.user_id"⟩ .equal (.text user))))⟩

/-- The joined rows are those of the media with the notes beside them. -/
theorem listed_eq (db : Database) (p : Option Predicate) :
    db.listed p = (joinRows db ((db.rowsOf mediaPath).map ([·])) noteJoin).filter
      (satisfies db (p.map Predicate.condition)) := rfl

/-- A row of a table bears the name of the table. -/
theorem table_of_mem_rowsOf {db : Database} {path : ColumnPath} {row : Row}
    (h : row ∈ db.rowsOf path) : sameName row.table path.text := by
  unfold Database.rowsOf at h
  cases found : db.table? path.text with
  | none =>
    rw [found] at h
    cases h
  | some table =>
    rw [found] at h
    obtain ⟨values, -, rfl⟩ := List.mem_map.1 h
    exact List.find?_some (p := fun t : Table => sameName t.name path.text) found

theorem sameName_left {a b : String} (h : sameName a b) (c : String) :
    sameName a c = sameName b c := by
  unfold sameName at *
  rw [eq_of_beq h]

/-- A row of another table has no part in what a path stands for. -/
theorem value_cons_of_ne {row : Row} {frame : Frame} {path : ColumnPath} {table column : String}
    (hp : path.parts = (some table, column)) (h : sameName row.table table = false) :
    Scope.value [row :: frame] path = Scope.value [frame] path := by
  simp only [Scope.value, Scope.cell, Scope.cells, Frame.cells, hp, List.filter_cons, h,
    Bool.false_eq_true, if_false]

theorem value_pair_of_ne {row other : Row} {path : ColumnPath} {table column : String}
    (hp : path.parts = (some table, column)) (h : sameName other.table table = false) :
    Scope.value [[row, other]] path = Scope.value [[row]] path := by
  simp only [Scope.value, Scope.cell, Scope.cells, Frame.cells, hp, List.filter_cons, h,
    Bool.false_eq_true, if_false]

/-- Nothing but the text itself is equal to a text. -/
theorem holds_equal_text_iff {v : Value} {s : String} :
    holds .equal v (.text s) = .yes ↔ v = .text s := by
  cases v with
  | null => exact ⟨nofun, nofun⟩
  | integer n => exact ⟨nofun, nofun⟩
  | real x =>
    refine ⟨fun h => ?_, nofun⟩
    by_cases nan : x.isNaN <;> simp [holds, bound, nan, decides, order, Truth.ofBool] at h
  | text t =>
    have same : compare t s = .eq ↔ t = s := Std.LawfulEqCmp.compare_eq_iff_eq
    simp [holds, bound, decides, order, Truth.ofBool, same]

/-- A note stands beside media if it is about them and is one of the user. -/
theorem satisfies_noteJoin {db db' : Database} {media note : Row} (hm : media ∈ db.rowsOf mediaPath)
    (hn : note ∈ db.rowsOf notesPath) :
    satisfies db' noteJoin.on [media, note] = (note.about media && note.own) := by
  have mediaName := sameName_left (table_of_mem_rowsOf hm)
  have noteName := sameName_left (table_of_mem_rowsOf hn)
  have unlike : sameName media.table "user_data" = false := (mediaName _).trans (by decide)
  have unlike' : sameName note.table "media" = false := (noteName _).trans (by decide)
  have about : Scope.value [[media, note]] ⟨"user_data.media_id"⟩
      = Scope.value [[note]] ⟨"user_data.media_id"⟩ := value_cons_of_ne rfl unlike
  have owner : Scope.value [[media, note]] ⟨"user_data.user_id"⟩
      = Scope.value [[note]] ⟨"user_data.user_id"⟩ := value_cons_of_ne rfl unlike
  have id : Scope.value [[media, note]] ⟨"media.id"⟩ = Scope.value [[media]] ⟨"media.id"⟩ :=
    value_pair_of_ne rfl unlike'
  have yes : satisfies db' noteJoin.on [media, note] ↔ note.about media ∧ note.own := by
    simp only [satisfies, noteJoin, truth, testTruth, about, owner, id, decide_eq_true_eq,
      Truth.and_eq_yes_iff, holds_equal_text_iff, Row.about, Row.own]
  rw [Bool.eq_iff_iff, yes, Bool.and_eq_true]

/-- Only the own notes about media stand beside them. -/
theorem filter_notes {db : Database} {media : Row} (hm : media ∈ db.rowsOf mediaPath) :
    ((db.rowsOf notesPath).filter fun note => satisfies db noteJoin.on ([media] ++ [note]))
      = ((db.rowsOf notesPath).filter Row.own).filter fun note => note.about media := by
  rw [List.filter_filter]
  exact List.filter_congr fun note hn => satisfies_noteJoin hm hn

/-! ## Two databases -/

namespace SameView

variable {db db' : Database} (same : SameView db db') {p : Option Predicate}
  (tables : ∀ c ∈ p.map Predicate.condition, ∀ path ∈ conditionTables c, path = tagsPath)
include same tables

/-- The statements of a media listing name tables with the same columns. -/
theorem sameHeaders (projection : Projection) (order : SortOrder) (window : Option Window) :
    SameHeaders db db' { mediaBase.select p projection with order, window } where
  source := same.media.toSameHeader
  joined := fun join mem => by
    obtain rfl : join = noteJoin := List.mem_singleton.1 mem
    exact same.notes.toSameHeader
  condition := fun c given path mem => by
    rw [tables c given path mem]
    exact same.tags.toSameHeader
  on := fun join mem c given path inner => by
    obtain rfl : join = noteJoin := List.mem_singleton.1 mem
    cases given
    cases inner

/-- The same rows are listed. -/
theorem listed_perm : (db.listed p).Perm (db'.listed p) := by
  have media : (db.rowsOf mediaPath).Perm (db'.rowsOf mediaPath) := by
    simpa using same.media.rows
  have tags : (db.rowsOf tagsPath).Perm (db'.rowsOf tagsPath) := by
    simpa using same.tags.rows
  have joined : (joinRows db ((db.rowsOf mediaPath).map ([·])) noteJoin).Perm
      (joinRows db' ((db'.rowsOf mediaPath).map ([·])) noteJoin) := by
    refine joinRows_perm (media.map _) same.notes.nulls fun frame mem => ?_
    obtain ⟨m, hm, rfl⟩ := List.mem_map.1 mem
    show (List.filter _ (db.rowsOf notesPath)).Perm (List.filter _ (db'.rowsOf notesPath))
    rw [filter_notes hm, filter_notes (media.mem_iff.1 hm)]
    exact same.notes.rows.filter _
  have satisfied (frame : Frame) : satisfies db (p.map Predicate.condition) frame
      = satisfies db' (p.map Predicate.condition) frame := by
    refine satisfies_congr (fun c given path mem => ?_) frame
    rw [tables c given path mem]
    exact tags
  rw [listed_eq, listed_eq, funext satisfied]
  exact joined.filter _

/-- There is one answer to the statement for a page. -/
theorem records_eq {keys : List SortKey} (distinct : Distinguishes keys (db.listed p))
    {window : Option Window} {records records' : List Record}
    (h : db.MayAnswer
      { mediaBase.select p mediaBase.projection with order := .byKeys keys, window } records)
    (h' : db'.MayAnswer
      { mediaBase.select p mediaBase.projection with order := .byKeys keys, window } records') :
    records = records' := by
  obtain ⟨frames, arranged, rfl⟩ := h
  obtain ⟨frames', ⟨perm, sorted⟩, rfl⟩ := h'
  have arranged' : Arranged (.byKeys keys) (db.listed p) frames' :=
    ⟨perm.trans (same.listed_perm tables).symm, sorted⟩
  rw [arranged.unique distinct arranged']

end SameView

/-! ## Outcomes that a failure makes different -/

namespace SameUnless

variable {ε ε' α β : Type} {e : ε} {o o' : Except ε α}

theorem bind (h : SameUnless e o o') {f f' : α → Except ε β}
    (hf : ∀ a, SameUnless e (f a) (f' a)) : SameUnless e (o >>= f) (o' >>= f') := by
  rcases h with rfl | rfl | rfl
  · cases o with
    | error e' => exact .inl rfl
    | ok a => exact hf a
  · exact .inr (.inl rfl)
  · exact .inr (.inr rfl)

theorem mapError (h : SameUnless e o o') (f : ε → ε') :
    SameUnless (f e) (o.mapError f) (o'.mapError f) := by
  rcases h with rfl | rfl | rfl
  · exact .inl rfl
  · exact .inr (.inl rfl)
  · exact .inr (.inr rfl)

theorem map (h : SameUnless e o o') (f : α → β) : SameUnless e (o.map f) (o'.map f) := by
  rcases h with rfl | rfl | rfl
  · exact .inl rfl
  · exact .inr (.inl rfl)
  · exact .inr (.inr rfl)

end SameUnless

/-- Plans may differ in which statements they stop, and in nothing else. -/
theorem Plan.execute_sameUnless (plan plan' : Plan) {db db' : Database} {statement : Statement}
    (checked : db.check statement = db'.check statement) :
    SameUnless .patternTooComplex (plan.execute db statement) (plan'.execute db' statement) := by
  refine SameUnless.bind (.inl checked) fun _ => ?_
  unfold follow
  split
  · exact .inr (.inl rfl)
  · split
    · exact .inr (.inr rfl)
    · exact .inl rfl

/-- Where no pattern is too long, plans do not differ. -/
theorem Plan.execute_congr (plan plan' : Plan) {db db' : Database} {statement : Statement}
    (checked : db.check statement = db'.check statement)
    (within : selectTooLong statement.select = false) :
    plan.execute db statement = plan'.execute db' statement := by
  rw [execute, execute, checked, plan.follow_of_within db within, plan'.follow_of_within db' within]

/-! ## Listings on two databases -/

/-- A media statement has no patterns but those of its filter. -/
theorem selectTooLong_mediaBase {p : Option Predicate}
    (within : ∀ q, p = some q → conditionTooLong q.condition = false) (projection : Projection)
    (order : SortOrder) (window : Option Window) :
    selectTooLong { mediaBase.select p projection with order, window } = false := by
  cases p with
  | none => rfl
  | some q =>
    show (conditionTooLong q.condition || false) = false
    rw [within q rfl]
    rfl

section Served

variable {ρ : Type} {read : Reader ρ} {plan plan' : Plan}
  {executor executor' : Executor Connection StoreError ρ}

/-- The executor of a connection is one of those that serve it. -/
theorem serves_executor (plan : Plan) (read : Reader ρ) :
    Serves plan read (Connection.executor read plan) where
  count := rfl
  fetch := fun statement connection =>
    ⟨_, connection.database.mayAnswer_answer statement.select,
      Connection.run_eq plan statement (fun db => (db.answer statement.select).mapM read) connection⟩
  consistent := fun _ => rfl

/-- What the two statements of a request give. -/
theorem Serves.run_eq (h : Serves plan read executor) (q : Statements) (connection : Connection) :
    ∃ records, connection.database.MayAnswer q.page.select records ∧
      executor.run q connection
        = (plan.execute connection.database q.count >>= fun _ =>
            plan.execute connection.database q.page >>= fun _ =>
              (records.mapM read).map fun rows => (connection.database.count q.count.select, rows),
          connection) := by
  obtain ⟨records, may, fetched⟩ := h.fetch q.page connection
  have counted : executor.count q.count connection
      = (plan.execute connection.database q.count >>= fun _ =>
          .ok (connection.database.count q.count.select), connection) := by
    rw [h.count]
    exact Connection.run_eq plan q.count (fun db => .ok (db.count q.count.select)) connection
  refine ⟨records, may, ?_⟩
  cases first : plan.execute connection.database q.count with
  | error e =>
    rw [first] at counted
    exact Run.bind_error counted
  | ok u =>
    rw [first] at counted
    refine (Run.bind_ok counted).trans ?_
    cases second : plan.execute connection.database q.page with
    | error e =>
      rw [second] at fetched
      exact Run.bind_error fetched
    | ok u' =>
      rw [second] at fetched
      cases reading : records.mapM read with
      | error e =>
        rw [reading] at fetched
        exact Run.bind_error fetched
      | ok rows =>
        rw [reading] at fetched
        exact Run.bind_ok fetched

theorem Serves.keeps (h : Serves plan read executor) (q : Statements) : Keeps (executor.run q) := by
  intro connection
  obtain ⟨records, -, ran⟩ := h.run_eq q connection
  rw [ran]

/-- The unit of work of a request, which fails inside a transaction. -/
theorem Serves.work_eq (h : Serves plan read executor) (q : Statements) (db : Database)
    (inside : Bool) :
    (executor.consistent (executor.run q) ⟨db, inside⟩).1
      = if inside then .error .nestedTransaction else (executor.run q ⟨db, true⟩).1 := by
  rw [h.consistent]
  cases inside with
  | true => rw [Connection.transactions_run_of_open rfl, if_pos rfl]
  | false => rw [Connection.transactions_run_of_closed rfl (h.keeps q), if_neg Bool.false_ne_true]

variable {db db' : Database} {p : Option Predicate} {keys : List SortKey}

section

variable (same : SameView db db')
  (tables : ∀ c ∈ p.map Predicate.condition, ∀ path ∈ conditionTables c, path = tagsPath)
include same tables

/-- The names in the statements of a listing are looked up alike. -/
theorem SameView.check_eq (keys : List SortKey) (request : PageRequest) :
    let q := mediaListing.statements p (.byKeys keys) request
    db.check q.count = db'.check q.count ∧ db.check q.page = db'.check q.page :=
  ⟨check_congr (same.sameHeaders tables .count (.byKeys []) none),
    check_congr (same.sameHeaders tables mediaBase.projection (.byKeys keys) request.window?)⟩

variable (h : Serves plan read executor) (h' : Serves plan' read executor')
  (distinct : Distinguishes keys (db.listed p)) (request : PageRequest)
include h h' distinct

/-- Once its statements are executed, a listing has the same result on both databases. -/
theorem SameView.exists_rest :
    let q := mediaListing.statements p (.byKeys keys) request
    ∃ rest,
      (executor.run q ⟨db, true⟩).1
        = (plan.execute db q.count >>= fun _ => plan.execute db q.page >>= fun _ => rest) ∧
      (executor'.run q ⟨db', true⟩).1
        = (plan'.execute db' q.count >>= fun _ => plan'.execute db' q.page >>= fun _ => rest) := by
  intro q
  obtain ⟨records, may, ran⟩ := h.run_eq q ⟨db, true⟩
  obtain ⟨records', may', ran'⟩ := h'.run_eq q ⟨db', true⟩
  have count : db.count q.count.select = db'.count q.count.select := by
    show Int64.ofNat (db.listed p).length = Int64.ofNat (db'.listed p).length
    rw [(same.listed_perm tables).length_eq]
  rw [ran, ran', same.records_eq tables distinct may may']
  dsimp only
  rw [count]
  exact ⟨_, rfl, rfl⟩

theorem SameView.work_congr (within : ∀ r, p = some r → conditionTooLong r.condition = false)
    (inside : Bool) :
    let q := mediaListing.statements p (.byKeys keys) request
    (executor.consistent (executor.run q) ⟨db, inside⟩).1
      = (executor'.consistent (executor'.run q) ⟨db', inside⟩).1 := by
  intro q
  obtain ⟨rest, ran, ran'⟩ := same.exists_rest tables h h' distinct request
  obtain ⟨checked, checked'⟩ := same.check_eq tables keys request
  have counted := plan.execute_congr plan' checked
    (selectTooLong_mediaBase within .count (.byKeys []) none)
  have fetched := plan.execute_congr plan' checked'
    (selectTooLong_mediaBase within mediaBase.projection (.byKeys keys) request.window?)
  rw [h.work_eq, h'.work_eq, ran, ran', counted, fetched]

theorem SameView.work_sameUnless (inside : Bool) :
    let q := mediaListing.statements p (.byKeys keys) request
    SameUnless .patternTooComplex (executor.consistent (executor.run q) ⟨db, inside⟩).1
      (executor'.consistent (executor'.run q) ⟨db', inside⟩).1 := by
  intro q
  rw [h.work_eq, h'.work_eq]
  cases inside with
  | true => exact .inl rfl
  | false =>
    obtain ⟨rest, ran, ran'⟩ := same.exists_rest tables h h' distinct request
    obtain ⟨checked, checked'⟩ := same.check_eq tables keys request
    rw [if_neg Bool.false_ne_true, if_neg Bool.false_ne_true, ran, ran']
    refine (plan.execute_sameUnless plan' checked).bind fun _ => ?_
    exact (plan.execute_sameUnless plan' checked').bind fun _ => .inl rfl

end

end Served

/-! ## Media without notes -/

/-- If the frames that are made of each row begin with it, those that begin with a row are made of it. -/
theorem filter_flatMap_head {rows : List Row} {f : Frame → List Frame}
    (heads : ∀ row ∈ rows, ∀ frame ∈ f [row], frame.head? = some row) {m : Row} {x : Frame}
    (single : f [m] = [x]) :
    ((rows.map ([·])).flatMap f).filter (·.head? = some m) = List.replicate (rows.count m) x := by
  induction rows with
  | nil => rfl
  | cons row rows ih =>
    obtain ⟨first, rest⟩ := List.forall_mem_cons.1 heads
    rw [List.map_cons, List.flatMap_cons, List.filter_append, ih rest]
    by_cases h : row = m
    · subst h
      have head : x.head? = some row := first x (by rw [single]; exact List.mem_singleton_self x)
      rw [single, List.count_cons_self, List.replicate_succ]
      simp [head]
    · have none : (f [row]).filter (·.head? = some m) = [] := by
        refine List.filter_eq_nil_iff.2 fun frame mem => ?_
        rw [first frame mem]
        simpa using h
      rw [none, List.count_cons_of_ne h, List.nil_append]

/-- Nothing but nulls stands beside media without notes. -/
theorem nullRowOf_cells (db : Database) (path : ColumnPath) :
    ∀ cell ∈ (db.nullRowOf path).cells, cell.2 = .null := by
  unfold Database.nullRowOf
  cases db.table? path.text with
  | none => nofun
  | some table =>
    intro cell mem
    obtain ⟨column, -, rfl⟩ := List.mem_map.1 mem
    rfl

/-- Media that the user has noted nothing about are listed alone. -/
theorem listedAlone {db : Database} (p : Option Predicate) {media : Row}
    (hm : media ∈ db.rowsOf mediaPath)
    (unnoted : ∀ note ∈ db.rowsOf notesPath, note.own → ¬note.about media) :
    ListedAlone db p media := by
  refine ⟨?_, nullRowOf_cells db notesPath⟩
  have alone : ((db.rowsOf notesPath).filter fun note =>
      satisfies db noteJoin.on ([media] ++ [note])) = [] := by
    rw [filter_notes hm, List.filter_eq_nil_iff]
    intro note mem
    obtain ⟨known, own⟩ := List.mem_filter.1 mem
    exact unnoted note known own
  have joined : (joinRows db ((db.rowsOf mediaPath).map ([·])) noteJoin).filter
      (·.head? = some media)
        = List.replicate ((db.rowsOf mediaPath).count media) [media, db.nullRowOf notesPath] := by
    refine filter_flatMap_head (fun row _ frame mem => ?_) ?_
    · dsimp only at mem
      split at mem
      · rw [List.mem_singleton.1 mem]
        rfl
      · obtain ⟨note, -, rfl⟩ := List.mem_map.1 mem
        rfl
    · show (if (List.filter _ (db.rowsOf notesPath)).isEmpty then _ else _) = _
      rw [alone]
      rfl
  have swap : (db.listed p).filter (·.head? = some media)
      = ((joinRows db ((db.rowsOf mediaPath).map ([·])) noteJoin).filter
          (·.head? = some media)).filter (satisfies db (p.map Predicate.condition)) := by
    rw [listed_eq, List.filter_filter, List.filter_filter]
    exact List.filter_congr fun frame _ => Bool.and_comm ..
  rw [swap, joined, List.filter_replicate]
  split
  · rfl
  · rfl

/-! ## The listing -/

/-- The media listing of a user does not depend on the notes of others, unless a pattern is too long. -/
theorem othersUnseen {ρ : Type} {read : Reader ρ} {plan plan' : Plan}
    {executor executor' : Executor Connection StoreError ρ} (h : Serves plan read executor)
    (h' : Serves plan' read executor') {db db' : Database} (same : SameView db db')
    {filter sort : String} (told : TellsApart db filter sort) :
    OthersUnseen executor executor' db db' filter sort := by
  refine ⟨fun within request inside => ?_, fun request inside => ?_,
    fun p _ media hm unnoted => listedAlone p hm unnoted⟩
  all_goals
    rcases mediaListing.refuses_or_accepts StoreError filter sort request with
      ⟨e, refused⟩ | ⟨p, order, accepted⟩
  · rw [Listing.fetch_of_refuses refused, Listing.fetch_of_refuses refused]
  · obtain ⟨keys, rfl, distinct⟩ := told p order accepted.filter accepted.sort
    have tables := conditionTables_of_compileFilter accepted.filter
    have short : ∀ r, p = some r → conditionTooLong r.condition = false := by
      rintro r rfl
      exact within r accepted.filter
    rw [Listing.fetch_outcome accepted, Listing.fetch_outcome accepted,
      same.work_congr tables h h' distinct request short inside]
  · rw [Listing.fetch_of_refuses refused, Listing.fetch_of_refuses refused]
    exact .inl rfl
  · obtain ⟨keys, rfl, distinct⟩ := told p order accepted.filter accepted.sort
    have tables := conditionTables_of_compileFilter accepted.filter
    rw [Listing.fetch_outcome accepted, Listing.fetch_outcome accepted]
    exact ((same.work_sameUnless tables h h' distinct request inside).mapError _).map _

/-! ### An instance -/

/-- The small database where other users have noted more. -/
def crowdedDatabase : Database :=
  let note (media owner list : String) (score : Nat) : List Value :=
    [textCell media, textCell owner, textCell list, integerCell score]
  ⟨[mediaTable, tagTable,
    { userTable with
      rows :=
        [note "m3" "alice" "completed" 10, note "m1" "bob" "dropped" 1, note "m1" "carol" "watching" 9,
          note "m4" "carol" "completed" 2, note "m2" "alice" "watching" 9,
          note "m2" "bob" "planned" 5] }]⟩

/-- Media on no list, or with a tag, whose title has a letter in it. -/
def unlistedFilter : String := "(userList == null || hasTag(\"Fantasy\")) && title % \"%a%\""

/-- The predicate of the filter. -/
def unlistedPredicate : Predicate :=
  .and
    (.or (.isNull (.optional .string "user_data.list") false)
      (.linked ⟨⟨"media_tags"⟩, ⟨"media_id"⟩, ⟨"tag_slug"⟩⟩ ⟨"media.id"⟩ ["fantasy"] false))
    (.compare .like (.required .string "media.title") (.text "%a%"))

theorem othersUnseen_crowdedDatabase :
    SameView mediaDatabase crowdedDatabase ∧
      TellsApart mediaDatabase unlistedFilter "userList, -title" ∧
      PatternsWithin unlistedFilter ∧
      OthersUnseen (Connection.executor (Reader.text 1)) (Connection.executor (Reader.text 1))
        mediaDatabase crowdedDatabase unlistedFilter "userList, -title" := by
  have same : SameView mediaDatabase crowdedDatabase :=
    { media := ⟨⟨by decide, by decide⟩, by decide +kernel⟩
      tags := ⟨⟨by decide, by decide⟩, by decide +kernel⟩
      notes := ⟨⟨by decide, by decide⟩, by decide +kernel⟩ }
  have filtered : Catalog.media.compileFilter unlistedFilter = .ok (some unlistedPredicate) :=
    toOption_eq_some_iff.1 (by decide +kernel)
  have told : TellsApart mediaDatabase unlistedFilter "userList, -title" := by
    have sorted : Catalog.media.compileSort "userList, -title"
        = .ok (.byKeys [⟨⟨"user_data.list"⟩, .ascending⟩, ⟨⟨"media.title"⟩, .descending⟩]) :=
      toOption_eq_some_iff.1 (by decide +kernel)
    rintro p order hf hs
    cases filtered.symm.trans hf
    cases sorted.symm.trans hs
    exact ⟨_, rfl, by decide +kernel⟩
  have within : PatternsWithin unlistedFilter := by
    rintro p hf
    cases filtered.symm.trans hf
    decide +kernel
  exact ⟨same, told, within,
    othersUnseen (serves_executor .nested _) (serves_executor .nested _) same told⟩

/-! ### A pattern that is too long -/

/-- Media on a list that agrees with a pattern and is not `a`. -/
def matchingFilter (pattern : String) : String :=
  let quoted := fun (s : String) => Filter.backQuote :: s.toList ++ [Filter.backQuote]
  .ofList ([' '].intercalate ["userList".toList, "%".toList, quoted pattern, "&&".toList,
    "userList".toList, "!=".toList, quoted "a"])

/-- The predicate of the filter. -/
def matchingPredicate (pattern : String) : Predicate :=
  .and (.compare .like (.optional .string "user_data.list") (.text pattern))
    (.compare .notEqual (.optional .string "user_data.list") (.text "a"))

theorem parse_matchingFilter {pattern : String} (h : Filter.backQuote ∉ pattern.toList) :
    Expr.parse (matchingFilter pattern) = .ok (.binary .and
      (.binary (.compare .like) (.name "userList") (.literal (.text pattern)))
      (.binary (.compare .notEqual) (.name "userList") (.literal (.text "a")))) := by
  have list : Filter.Writes (.word "userList") _ := .word (by decide)
  have written := Filter.joined_intercalate (.cons list (.cons (.symbol (.compare .like))
    (.cons (.raw h) (.cons (.symbol .and) (.cons list (.cons (.symbol (.compare .notEqual))
      (.cons (.raw (s := "a") (by decide)) .nil)))))))
  have joined : Filter.Joined _ (matchingFilter pattern).toList :=
    (congrArg (Filter.Joined _) String.toList_ofList).mpr written
  exact joined.parse rfl

theorem compileFilter_matchingFilter {pattern : String} (h : Filter.backQuote ∉ pattern.toList) :
    Catalog.media.compileFilter (matchingFilter pattern)
      = .ok (some (matchingPredicate pattern)) := by
  have plain : Catalog.media.TestsMembership := Catalog.testsMembership_of_mem (by simp)
  have list : Catalog.media.column? "userList" = some (.optional .string "user_data.list") := by
    decide +kernel
  have accepts (s : String) : (Column.optional .string "user_data.list").Accepts "userList"
    (.literal (.text s)) (.text s) := rfl
  have resolves : Resolves Catalog.media _ (matchingPredicate pattern) :=
    .and (.compare list (by decide) (accepts pattern)) (.compare list (by decide) (accepts "a"))
  rw [Entity.compileFilter_of_parse (parse_matchingFilter h),
    (Entity.resolve_eq_ok_iff plain).2 resolves]
  rfl

/-- A letter more often than a pattern may have it. -/
def longPattern : String := .ofList (List.replicate (patternLimit + 1) 'a')

theorem tooLong_longPattern : tooLong (.text longPattern) := by
  have size : longPattern.utf8ByteSize = patternLimit + 1 := by
    rw [longPattern, Text.byteLength_ofList, Text.byteLength_replicate]
    rfl
  exact decide_eq_true (size ▸ Nat.lt_succ_self patternLimit)

theorem backQuote_notMem_longPattern : Filter.backQuote ∉ longPattern.toList := by
  rw [longPattern, String.toList_ofList]
  exact fun mem => absurd (List.eq_of_mem_replicate mem) (by decide)

/-- The small database without notes. -/
def unnotedDatabase : Database := ⟨[mediaTable, tagTable, { userTable with rows := [] }]⟩

/-- A note of somebody else. -/
def otherNote : List Value :=
  [textCell "m1", textCell "bob", textCell "watching", integerCell 7]

/-- The small database with no notes but that one. -/
def otherDatabase : Database := ⟨[mediaTable, tagTable, { userTable with rows := [otherNote] }]⟩

/-- The statements for the filter with the long pattern. -/
def longStatements : Statements :=
  mediaListing.statements (some (matchingPredicate longPattern))
    (.byKeys [⟨⟨"media.title"⟩, .ascending⟩]) ⟨0, 0⟩

theorem accepts_longPattern :
    mediaListing.Accepts (matchingFilter longPattern) "title" ⟨0, 0⟩
      (some (matchingPredicate longPattern)) (.byKeys [⟨⟨"media.title"⟩, .ascending⟩]) where
  filter := compileFilter_matchingFilter backQuote_notMem_longPattern
  sort := toOption_eq_some_iff.1 (by decide +kernel)
  page := by decide

/-- Where nobody has noted anything, nothing is on a list. -/
theorem listed_unnotedDatabase (pattern : String) :
    unnotedDatabase.listed (some (matchingPredicate pattern)) = [] := by
  have nulls : ∀ frame ∈ joinRows unnotedDatabase
      ((unnotedDatabase.rowsOf mediaPath).map ([·])) noteJoin,
      Scope.value [frame] ⟨"user_data.list"⟩ = .null := by decide +kernel
  rw [listed_eq, List.filter_eq_nil_iff]
  intro frame mem satisfied
  have other : holds .notEqual (Scope.value [frame] ⟨"user_data.list"⟩) (.text "a") = .yes :=
    (Truth.and_eq_yes_iff.1 (of_decide_eq_true satisfied)).2
  rw [nulls frame mem] at other
  cases other

/-- Nothing stops the statements if nobody has noted anything. -/
theorem execute_unnotedDatabase :
    Plan.nested.execute unnotedDatabase longStatements.count = .ok () ∧
      Plan.nested.execute unnotedDatabase longStatements.page = .ok () :=
  ⟨toOption_eq_some_iff.1 (by decide +kernel), toOption_eq_some_iff.1 (by decide +kernel)⟩

/-- All notes are read, and the list of the first is matched with the pattern. -/
theorem stops_otherDatabase : Plan.nested.stops otherDatabase longStatements.count.select := by
  have needed : longStatements.count.select.joins.filter
      (isNeeded otherDatabase longStatements.count.select) = [noteJoin] := by
    decide +kernel
  have others : (longStatements.count.select.joins.filter
      fun join => !isNeeded otherDatabase longStatements.count.select join) = [] := by
    decide +kernel
  have loops : loopsOf otherDatabase longStatements.count.select
      = [.all notesPath, .all mediaPath] := by
    rw [loopsOf_eq, needed, others]
    rfl
  have conditions : conditionsOf otherDatabase longStatements.count.select
      = [.test (.compare ⟨"user_data.list"⟩ .like (.text longPattern)),
        .test (.compare ⟨"user_data.list"⟩ .notEqual (.text "a")),
        .test (.sameColumns ⟨"user_data.media_id"⟩ ⟨"media.id"⟩),
        .test (.compare ⟨"user_data.user_id"⟩ .equal (.text user))] := by
    rw [conditionsOf, needed]
    rfl
  have early : ∀ tested ∈ testedTogether (conditionsOf otherDatabase longStatements.count.select),
      ¬tested.isReady otherDatabase [.all notesPath, .all mediaPath] := by
    decide +kernel
  have note : (⟨"user_data", userTable.columns.zip otherNote⟩ : Row)
      ∈ otherDatabase.rowsOf notesPath := by decide +kernel
  have ready (fixed : Frame) : Tested.isReady otherDatabase [.all mediaPath]
      ⟨fixed, .test (.compare ⟨"user_data.list"⟩ .like (.text longPattern))⟩ := by
    have missing : isAmong [otherDatabase.nullRowOf mediaPath] ⟨"user_data.list"⟩ = false := by
      decide +kernel
    simp [Tested.isReady, conditionColumns, testColumns, Loop.table, missing]
  rw [Plan.nested_stops, loops]
  refine loopsStop_of_inner early (List.mem_map_of_mem note) ?_
  obtain ⟨fixed, later, first⟩ := exists_testedTogether_cons _ _
  rw [conditions, first]
  exact loopsStop_of_first (ready fixed) (Tested.settle_of_tooLong tooLong_longPattern _ _ _ _) later

/-- A pattern that is too long stops a listing at the note of somebody else. -/
theorem othersSeen_longPattern :
    SameView unnotedDatabase otherDatabase ∧
      TellsApart unnotedDatabase (matchingFilter longPattern) "title" ∧
      (titles (matchingFilter longPattern) "title" ⟨0, 0⟩ ⟨unnotedDatabase, false⟩).1
        = .ok ([], .ofCount ⟨0, 0⟩ 0) ∧
      (titles (matchingFilter longPattern) "title" ⟨0, 0⟩ ⟨otherDatabase, false⟩).1
        = .error (.store .patternTooComplex) := by
  have same : SameView unnotedDatabase otherDatabase :=
    { media := ⟨⟨by decide, by decide⟩, by decide +kernel⟩
      tags := ⟨⟨by decide, by decide⟩, by decide +kernel⟩
      notes := ⟨⟨by decide, by decide⟩, by decide +kernel⟩ }
  have serves := serves_executor .nested (Reader.text 1)
  have outcome (db : Database) :
      (titles (matchingFilter longPattern) "title" ⟨0, 0⟩ ⟨db, false⟩).1 = _ :=
    Listing.fetch_outcome accepts_longPattern
  refine ⟨same, ?_, ?_, ?_⟩
  · intro p order hf hs
    cases accepts_longPattern.filter.symm.trans hf
    cases accepts_longPattern.sort.symm.trans hs
    refine ⟨_, rfl, ?_⟩
    rw [listed_unnotedDatabase]
    nofun
  · obtain ⟨records, may, ran⟩ := serves.run_eq longStatements ⟨unnotedDatabase, true⟩
    have nothing := listed_unnotedDatabase longPattern
    have none : records = [] := by
      obtain ⟨frames, arranged, rfl⟩ := may
      obtain rfl : frames = [] := List.perm_nil.1 (nothing ▸ arranged.1)
      rfl
    have count : unnotedDatabase.count longStatements.count.select = 0 := by
      show Int64.ofNat (unnotedDatabase.listed _).length = 0
      rw [nothing]
      rfl
    rw [outcome, serves.work_eq, if_neg Bool.false_ne_true]
    show (((Connection.executor _ _).run longStatements _).1.mapError _).map _ = _
    rw [ran, execute_unnotedDatabase.1, execute_unnotedDatabase.2, none, count]
    rfl
  · obtain ⟨records, -, ran⟩ := serves.run_eq longStatements ⟨otherDatabase, true⟩
    have checked : otherDatabase.check longStatements.count = .ok () :=
      toOption_eq_some_iff.1 (by decide +kernel)
    rw [outcome, serves.work_eq, if_neg Bool.false_ne_true]
    show (((Connection.executor _ _).run longStatements _).1.mapError _).map _ = _
    rw [ran, Plan.execute_of_stops checked stops_otherDatabase]
    rfl

end Listings.Store
