import Listings.Record.Camel

/-!
# Lower camel case

A name in lower camel case is made of the parts of the member name between its underscores. The empty
parts do not count, so it does not matter how many underscores stand in one place.

* `segments`: the parts of a name.
* `camelFrom_eq`: what is written from some place on.
* `underscore_notMem_uppercase`: no character has an underscore in its upper-case form.
* `CamelCased`: what is known of a name in lower camel case.
* `camelCased`: it is known of every member name.
-/

namespace Listings.Record

open Text (splitOn)

/-! ## Parts of a name -/

/-- The parts of a name between its underscores, without the empty ones. -/
def segments (cs : List Char) : List (List Char) := (splitOn '_' cs).filter (!·.isEmpty)

/-- A part with its first character in upper case. -/
def raised : List Char → List Char
  | [] => []
  | c :: cs => Text.uppercase c ++ cs

/-- Parts put together, each one after the first with its first character in upper case. -/
def joinSegments : List (List Char) → List Char
  | [] => []
  | first :: others => first ++ others.flatMap raised

@[simp] theorem segments_nil : segments [] = [] := rfl

/-- The parts before and after an underscore are parts of their own. -/
theorem segments_append (before after : List Char) :
    segments (before ++ '_' :: after) = segments before ++ segments after := by
  rw [segments, Text.splitOn_append_cons, List.filter_append, segments, segments]

@[simp] theorem segments_underscore (cs : List Char) : segments ('_' :: cs) = segments cs :=
  segments_append [] cs

/-- Underscores have no parts. -/
theorem segments_underscores_append (n : Nat) (cs : List Char) :
    segments (List.replicate n '_' ++ cs) = segments cs := by
  induction n with
  | zero => rfl
  | succ n ih => rw [List.replicate_succ, List.cons_append, segments_underscore, ih]

theorem segments_append_underscores (cs : List Char) (n : Nat) :
    segments (cs ++ List.replicate n '_') = segments cs := by
  cases n with
  | zero => rw [List.replicate_zero, List.append_nil]
  | succ n =>
    have none_ : segments (List.replicate n '_') = [] := by
      simpa using segments_underscores_append n []
    rw [List.replicate_succ, segments_append, none_, List.append_nil]

theorem segments_of_notMem {cs : List Char} (lack : '_' ∉ cs) :
    segments cs = if cs.isEmpty then [] else [cs] := by
  rw [segments, Text.splitOn_of_not_mem lack]
  cases cs <;> rfl

theorem joinSegments_of_notMem {cs : List Char} (lack : '_' ∉ cs) : joinSegments (segments cs) = cs := by
  rw [segments_of_notMem lack]
  cases cs with
  | nil => rfl
  | cons c cs => simp [joinSegments]

/-! ## One pass over a name -/

theorem flatMap_raised_segments (cs : List Char) :
    (segments cs).flatMap raised = (splitOn '_' cs).flatMap raised := by
  rw [segments]
  induction splitOn '_' cs with
  | nil => rfl
  | cons piece pieces ih => cases piece <;> simp [ih, raised]

/-- Behind a character that has been written, the text goes on to the next underscore, or it is raised
there; and every further part is raised. -/
theorem camelFrom_started {cs first : List Char} {others : List (List Char)}
    (pieces : splitOn '_' cs = first :: others) :
    camelFrom true false cs = first ++ others.flatMap raised
      ∧ camelFrom true true cs = raised first ++ others.flatMap raised := by
  induction cs generalizing first others with
  | nil =>
    cases pieces
    exact ⟨rfl, rfl⟩
  | cons c cs ih =>
    obtain ⟨piece, later, found⟩ := List.exists_cons_of_ne_nil (Text.splitOn_ne_nil '_' cs)
    obtain ⟨goesOn, raisedThere⟩ := ih found
    rw [splitOn] at pieces
    by_cases underscore : c = '_'
    · rw [if_pos underscore, found] at pieces
      cases pieces
      simp only [camelFrom, if_pos underscore, raisedThere, List.flatMap_cons, raised, List.nil_append,
        and_self]
    · rw [if_neg underscore, found] at pieces
      cases pieces
      simp [camelFrom, underscore, goesOn, raised]

/-- Where nothing has been written, no part is raised before the first one. -/
theorem camelFrom_eq (cs : List Char) : camelFrom false false cs = joinSegments (segments cs) := by
  induction cs with
  | nil => rfl
  | cons c cs ih =>
    by_cases underscore : c = '_'
    · rw [camelFrom, if_pos underscore, ih, underscore, segments_underscore]
    · obtain ⟨piece, later, found⟩ := List.exists_cons_of_ne_nil (Text.splitOn_ne_nil '_' cs)
      have parts : segments (c :: cs) = (c :: piece) :: later.filter (!·.isEmpty) := by
        rw [segments, splitOn, if_neg underscore, found]
        rfl
      have others := flatMap_raised_segments cs
      rw [segments, found] at others
      rw [camelFrom, if_neg underscore, (camelFrom_started found).1, parts, joinSegments]
      cases piece with
      | nil => simpa [raised] using others.symm
      | cons d piece => simpa [raised] using others.symm

/-! ## Upper case and underscores -/

theorem ofNat_ne_underscore {code : Nat} (other : code ≠ '_'.toNat) : Char.ofNat code ≠ '_' := by
  by_cases valid : code.isValidChar
  · rw [Char.ofNat, dif_pos valid]
    exact fun same => other (congrArg Char.toNat same)
  · rw [Char.ofNat, dif_neg valid]
    decide

theorem toUpper_ne_underscore {c : Char} (other : c ≠ '_') : c.toUpper ≠ '_' := by
  unfold Char.toUpper
  split
  · next lower =>
    intro same
    have codes := congrArg (fun d : Char => d.val.toNat) same
    have first : 97 ≤ c.val.toNat := UInt32.le_iff_toNat_le.1 lower.1
    have last : c.val.toNat ≤ 122 := UInt32.le_iff_toNat_le.1 lower.2
    have shift : ('A'.val - 'a'.val).toNat = 4294967264 := rfl
    have underscore : '_'.val.toNat = 95 := rfl
    simp only [UInt32.toNat_add, shift, underscore] at codes
    omega
  · exact other

/-- No character but the underscore has one in its upper-case form. -/
theorem underscore_notMem_uppercase {c : Char} (other : c ≠ '_') : '_' ∉ Text.uppercase c := by
  have long : Text.longUppercase.all fun entry => !entry.2.contains '_'.toNat := by decide
  have runs : Text.caseRuns.all fun run =>
      decide (95 < run.first + run.shift ∨ run.last + run.shift < 95) := by decide
  unfold Text.uppercase
  split
  · simpa using (toUpper_ne_underscore other).symm
  · split
    · next codes found =>
      obtain ⟨before, after, table, -⟩ := List.lookup_eq_some_iff.1 found
      have lack := List.all_eq_true.1 long (c.toNat, codes) (by simp [table])
      intro mem
      obtain ⟨code, inside, same⟩ := List.mem_map.1 mem
      refine ofNat_ne_underscore (fun underscore => ?_) same
      rw [List.contains_iff_mem.2 (underscore ▸ inside)] at lack
      cases lack
    · split
      · next run found =>
        have inside := List.find?_some found
        have away := List.all_eq_true.1 runs run (List.mem_of_find?_eq_some found)
        simp only [Text.CaseRun.holds, Bool.and_eq_true, decide_eq_true_eq] at inside away
        have code : (c.toNat + run.shift).toNat ≠ 95 := by omega
        simpa using (ofNat_ne_underscore code).symm
      · simpa using Ne.symm other

/-! ## Names in lower camel case -/

theorem underscore_notMem_raised {piece : List Char} (lack : '_' ∉ piece) : '_' ∉ raised piece := by
  cases piece with
  | nil => exact lack
  | cons c piece =>
    rw [List.mem_cons, not_or] at lack
    rw [raised, List.mem_append, not_or]
    exact ⟨underscore_notMem_uppercase (Ne.symm lack.1), lack.2⟩

theorem underscore_notMem_joinSegments {pieces : List (List Char)}
    (lack : ∀ piece ∈ pieces, '_' ∉ piece) : '_' ∉ joinSegments pieces := by
  cases pieces with
  | nil => exact List.not_mem_nil
  | cons first others =>
    obtain ⟨inFirst, inOthers⟩ := List.forall_mem_cons.1 lack
    rw [joinSegments, List.mem_append, not_or]
    refine ⟨inFirst, fun mem => ?_⟩
    obtain ⟨piece, later, inside⟩ := List.mem_flatMap.1 mem
    exact underscore_notMem_raised (inOthers piece later) inside

theorem underscore_notMem_of_mem_segments {cs piece : List Char} (h : piece ∈ segments cs) :
    '_' ∉ piece :=
  Text.not_mem_of_mem_splitOn (List.mem_filter.1 h).1

theorem toList_camel (member : String) :
    (camel member).toList = joinSegments (segments member.toList) := by
  rw [camel, String.toList_ofList, camelFrom_eq]

theorem underscore_notMem_camel (member : String) : '_' ∉ (camel member).toList := by
  rw [toList_camel]
  exact underscore_notMem_joinSegments fun _ => underscore_notMem_of_mem_segments

/-- Names with the same parts are the same in lower camel case. -/
theorem camel_eq_of_segments {member other : String}
    (same : segments member.toList = segments other.toList) : camel member = camel other := by
  rw [← String.toList_inj, toList_camel, toList_camel, same]

/-- What is known of a member name in lower camel case. -/
structure CamelCased (member : String) : Prop where
  /-- It is made of the parts of the name, each one after the first raised. -/
  parts : (camel member).toList = joinSegments (segments member.toList)
  underscore : '_' ∉ (camel member).toList
  /-- A name in lower camel case stays as it is. -/
  fixed : camel (camel member) = camel member
  /-- Underscores before the name do not change it, nor do those after it, nor more of them in the place
  of one. -/
  leading : ∀ n, camel (.ofList (List.replicate n '_' ++ member.toList)) = camel member
  trailing : ∀ n, camel (.ofList (member.toList ++ List.replicate n '_')) = camel member
  repeated : ∀ before after n, member.toList = before ++ '_' :: after →
    camel (.ofList (before ++ (List.replicate (n + 1) '_' ++ after))) = camel member

/-- Every member name is put into lower camel case part by part. -/
theorem camelCased (member : String) : CamelCased member where
  parts := toList_camel member
  underscore := underscore_notMem_camel member
  fixed := by
    rw [← String.toList_inj, toList_camel]
    exact joinSegments_of_notMem (underscore_notMem_camel member)
  leading n := by
    apply camel_eq_of_segments
    rw [String.toList_ofList, segments_underscores_append]
  trailing n := by
    apply camel_eq_of_segments
    rw [String.toList_ofList, segments_append_underscores]
  repeated before after n whole := by
    apply camel_eq_of_segments
    rw [String.toList_ofList, whole, List.replicate_succ, List.cons_append, segments_append,
      segments_underscores_append, ← segments_append]

/-- The upper-case form of a character may be longer than the character. -/
example : camel "__straße__ßet_" = "straßeSSet" := by decide +kernel

end Listings.Record
