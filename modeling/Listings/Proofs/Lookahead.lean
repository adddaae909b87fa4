import Listings.Proofs.Parsing

/-!
# Lookahead

Readers of filters look one token ahead. What they make of tokens does not depend on what stands behind
the token where they stop, and before they refuse a token they could still have been brought to an end.

* `Alike`: tokens that stop a reader in the same way.
* `Completable`: a reader that has got so far can be brought to an end.
* `Settles`: what has come of reading tokens shows what a reader does.
* `Settles.behind`, `Settles.congr`, `Settles.bind`: it does for a reader that is made of others.
-/

namespace Listings.Filter

variable {α β : Type} {s : Symbol} {ts rest : List Token}

/-! ## Tokens that end what stands before them -/

/-- What is read alike where the same token stands first, or one that ends every part of a filter. -/
def Alike (rest rest' : List Token) : Prop := rest'.head? = rest.head? ∨ Ends 3 rest'

/-- No symbol that holds on to what stands before it is first where none was. -/
theorem Alike.ne (h : Alike ts rest) (hs : s.looseness ≤ 3)
    (other : ∀ t ∈ ts.head?, t.kind ≠ .symbol s) : ∀ t ∈ rest.head?, t.kind ≠ .symbol s := by
  rcases h with same | ends
  · rwa [same]
  · exact ends.ne hs

theorem Ends.ne_compare (h : Ends 3 ts) :
    ∀ c, ∀ t ∈ ts.head?, t.kind ≠ .symbol (.compare c) :=
  fun c => h.ne (show 1 ≤ 3 by decide)

theorem Alike.ne_compare (h : Alike ts rest)
    (other : ∀ c, ∀ t ∈ ts.head?, t.kind ≠ .symbol (.compare c)) :
    ∀ c, ∀ t ∈ rest.head?, t.kind ≠ .symbol (.compare c) :=
  fun c => h.ne (show 1 ≤ 3 by decide) (other c)

theorem Alike.append {taken : List Token} (h : Alike ts rest) :
    Alike (taken ++ ts) (taken ++ rest) := by
  cases taken with
  | nil => exact h
  | cons t taken => exact .inl rfl

/-! ## Readers that can be brought to an end -/

/-- A reader that has got so far can be brought to an end by further tokens, whatever stands after them
that ends every part of a filter. -/
def Completable (r : Reads α) (taken : List Token) : Prop :=
  ∃ more a, ∀ rest, Ends 3 rest →
    Ends 3 (more ++ rest) ∧ r (taken ++ (more ++ rest)) = .ok (a, rest)

namespace Completable

variable {r r' : Reads α} {k : α × List Token → Except Failure (β × List Token)}
  {taken : List Token}

/-- A reader that does as another does behind some tokens. -/
theorem behind {before : List Token} (same : ∀ rest, r' (before ++ rest) = r rest)
    (h : Completable r taken) : Completable r' (before ++ taken) := by
  obtain ⟨more, a, completed⟩ := h
  refine ⟨more, a, fun rest ends => ?_⟩
  rw [List.append_assoc, same]
  exact completed rest ends

/-- What brings a reader to an end, and then what brings the next one there. -/
theorem bind (h : Completable r taken) (finish : ∀ a, Completable (fun ts => k (a, ts)) []) :
    Completable (fun ts => r ts >>= k) taken := by
  obtain ⟨more, a, completed⟩ := h
  obtain ⟨last, b, finished⟩ := finish a
  refine ⟨more ++ last, b, fun rest ends => ?_⟩
  obtain ⟨end_, read⟩ := finished rest ends
  obtain ⟨end', read'⟩ := completed (last ++ rest) end_
  rw [List.append_assoc]
  exact ⟨end', bind_eq_ok_iff.2 ⟨_, read', read⟩⟩

/-- A reader that is at its end goes on with the next one. -/
theorem after {a : α} {taken' : List Token}
    (reads : ∀ rest', Alike (taken' ++ rest) rest' → r (taken ++ rest') = .ok (a, rest'))
    (h : Completable (fun ts => k (a, ts)) taken') :
    Completable (fun ts => r ts >>= k) (taken ++ taken') := by
  obtain ⟨more, b, completed⟩ := h
  refine ⟨more, b, fun rest' ends => ?_⟩
  obtain ⟨end_, read⟩ := completed rest' ends
  rw [List.append_assoc]
  exact ⟨end_, bind_eq_ok_iff.2 ⟨_, reads _ (Alike.append (.inr end_)), read⟩⟩

end Completable

/-- A token that is a filter by itself. -/
def anyName : Token := ⟨.word "x", 0, "x"⟩

/-- A closing parenthesis. -/
def anyClosing : Token := ⟨.symbol .rightParen, 0, ")"⟩

theorem ends_anyName (n : Nat) (rest : List Token) : Ends n (anyName :: rest) := nofun

theorem ends_anyClosing (rest : List Token) : Ends 3 (anyClosing :: rest) :=
  ends_cons rfl (by decide) rest

/-- Nothing more is needed. -/
theorem completable_of_ends {r : Reads α} {a : α} (h : ∀ rest, Ends 3 rest → r rest = .ok (a, rest)) :
    Completable r [] :=
  ⟨[], a, fun rest ends => ⟨ends, h rest ends⟩⟩

/-- A closing parenthesis is needed. -/
theorem completable_of_closing {r : Reads α} {a : α}
    (h : ∀ rest, r (anyClosing :: rest) = .ok (a, rest)) : Completable r [] :=
  ⟨[anyClosing], a, fun rest _ => ⟨ends_anyClosing rest, h rest⟩⟩

theorem primary_anyName (below : Option Level) (ends : Ends 3 rest) :
    primary below (anyName :: rest) = .ok (.name "x", rest) :=
  primary_name_eq rfl (by decide) (ends.ne (by decide)) below

theorem completable_primary (below : Option Level) : Completable (primary below) [] :=
  ⟨[anyName], _, fun rest ends => ⟨ends_anyName 3 rest, primary_anyName below ends⟩⟩

/-! ## What reading shows -/

/-- What has come of reading tokens shows what a reader does. Of what stands behind the taken tokens it
sees the first one only; and where reading failed, the reader could have been brought to an end before
that one. Nothing is shown where there were too many levels. -/
inductive Settles (r : Reads α) : Except Failure (α × List Token) → List Token → Prop
  | ok {taken rest : List Token} {a : α}
      (h : ∀ rest', Alike rest rest' → r (taken ++ rest') = .ok (a, rest')) :
      Settles r (.ok (a, rest)) (taken ++ rest)
  | error {taken rest : List Token} {cause : Cause} (completable : Completable r taken)
      (h : ∀ rest', rest'.head? = rest.head? → r (taken ++ rest') = .error ⟨cause, rest'⟩) :
      Settles r (.error ⟨cause, rest⟩) (taken ++ rest)
  | tooDeep {ts rest : List Token} : Settles r (.error ⟨.tooDeep, rest⟩) ts

namespace Settles

variable {r r' : Reads α} {o : Except Failure (α × List Token)}
  {k k' : α × List Token → Except Failure (β × List Token)}

/-- Nothing is taken. -/
theorem stay {a : α} (h : ∀ rest', Alike ts rest' → r rest' = .ok (a, rest')) :
    Settles r (.ok (a, ts)) ts :=
  @ok α r [] ts a h

/-- One token is taken. -/
theorem one {t : Token} {a : α} (h : ∀ rest', Alike ts rest' → r (t :: rest') = .ok (a, rest')) :
    Settles r (.ok (a, ts)) (t :: ts) :=
  @ok α r [t] ts a h

/-- The first token is refused, or there is none. -/
theorem refuse {cause : Cause} (completable : Completable r [])
    (h : ∀ rest', rest'.head? = ts.head? → r rest' = .error ⟨cause, rest'⟩) :
    Settles r (.error ⟨cause, ts⟩) ts :=
  @error α r [] ts cause completable h

theorem refuse_cons {t : Token} {cause : Cause} (completable : Completable r [])
    (h : ∀ rest', r (t :: rest') = .error ⟨cause, t :: rest'⟩) :
    Settles r (.error ⟨cause, t :: ts⟩) (t :: ts) := by
  refine refuse completable fun rest' head => ?_
  obtain ⟨rest, rfl⟩ := List.head?_eq_some_iff.1 head
  exact h rest

theorem refuse_nil {cause : Cause} (completable : Completable r [])
    (h : r [] = .error ⟨cause, []⟩) : Settles r (.error ⟨cause, []⟩) [] := by
  refine refuse completable fun rest' head => ?_
  obtain rfl := List.head?_eq_none_iff.1 head
  exact h

/-- A reader that does as another does behind some tokens. -/
theorem behind {before : List Token} (same : ∀ rest, r' (before ++ rest) = r rest)
    (h : Settles r o ts) : Settles r' o (before ++ ts) := by
  cases h with
  | @ok taken rest a h =>
    rw [← List.append_assoc]
    refine .ok fun rest' alike => ?_
    rw [List.append_assoc, same]
    exact h rest' alike
  | @error taken rest cause completable h =>
    rw [← List.append_assoc]
    refine .error (completable.behind same) fun rest' head => ?_
    rw [List.append_assoc, same]
    exact h rest' head
  | tooDeep => exact .tooDeep

/-- A reader that does as another does unless it sees another first token. -/
theorem congr (same : ∀ ts', ts'.head? = ts.head? → r' ts' = r ts')
    (ends : ∀ ts' a rest, Ends 3 ts' → r ts' = .ok (a, rest) → r' ts' = .ok (a, rest))
    (h : Settles r o ts) : Settles r' o ts := by
  have alike : ∀ ts' a rest, Alike ts ts' → r ts' = .ok (a, rest) → r' ts' = .ok (a, rest) := by
    rintro ts' a rest (head | end_) read
    · rw [same ts' head, read]
    · exact ends ts' a rest end_ read
  cases h with
  | ok h => exact .ok fun rest' alike' => alike _ _ _ alike'.append (h rest' alike')
  | @error taken rest cause completable h =>
    refine .error ?_ fun rest' head => ?_
    · obtain ⟨more, a, completed⟩ := completable
      refine ⟨more, a, fun rest ends => ?_⟩
      obtain ⟨end_, read⟩ := completed rest ends
      exact ⟨end_, alike _ _ _ (Alike.append (.inr end_)) read⟩
    · rw [same _ (by cases taken <;> simp [head]), h rest' head]
  | tooDeep => exact .tooDeep

/-- One reader after another, of which the second one can always be brought to an end. -/
theorem bind (h : Settles r o ts)
    (next : ∀ a rest, o = .ok (a, rest) → Settles (fun ts => k' (a, ts)) (k (a, rest)) rest)
    (finish : ∀ a, Completable (fun ts => k' (a, ts)) []) :
    Settles (fun ts => r ts >>= k') (o >>= k) ts := by
  cases h with
  | @ok taken rest a h =>
    -- The first reader stops alike before all that the second one goes on to read.
    have then_ := next a rest rfl
    show Settles _ (k (a, rest)) _
    generalize k (a, rest) = o at then_
    cases then_ with
    | @ok taken' rest b h' =>
      rw [← List.append_assoc]
      refine .ok fun rest' alike => ?_
      rw [List.append_assoc]
      exact bind_eq_ok_iff.2 ⟨_, h _ alike.append, h' rest' alike⟩
    | @error taken' rest cause completable h' =>
      rw [← List.append_assoc]
      refine .error (completable.after h) fun rest' head => ?_
      rw [List.append_assoc, h _ (Alike.append (.inl head))]
      exact h' rest' head
    | tooDeep => exact .tooDeep
  | @error taken rest cause completable h =>
    refine .error (completable.bind finish) fun rest' head => ?_
    rw [h rest' head]
    rfl
  | tooDeep => exact .tooDeep

/-- A reader whose value is put to use. -/
theorem map {f : α → β} (hk : ∀ p, k p = .ok (f p.1, p.2)) (hk' : ∀ p, k' p = .ok (f p.1, p.2))
    (h : Settles r o ts) : Settles (fun ts => r ts >>= k') (o >>= k) ts := by
  refine h.bind (fun a rest _ => ?_) fun a => completable_of_ends fun rest _ => hk' (a, rest)
  rw [hk]
  exact .stay fun rest' _ => hk' (a, rest')

end Settles

/-- A closing parenthesis is demanded. -/
theorem settles_closing (what : Expectation) (a : α) (ts : List Token) :
    Settles (fun ts => expect .rightParen what ts >>= fun rest => .ok (a, rest))
      (expect .rightParen what ts >>= fun rest => .ok (a, rest)) ts := by
  rcases head_cases .rightParen ts with ⟨u, rest, hu, rfl⟩ | other
  · rw [expect_closing hu]
    refine .one fun rest' _ => ?_
    show (expect _ _ (u :: rest') >>= _) = _
    rw [expect_closing hu]
    rfl
  · rw [expect_ne other]
    refine .refuse (completable_of_closing fun rest => rfl) fun rest' head => ?_
    rw [expect_ne (by rwa [head])]
    rfl

end Listings.Filter
