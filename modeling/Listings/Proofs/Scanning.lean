import Listings.Filter.Scan
import Listings.Proofs.Tokenizing

/-!
# Scanning

The tokens that are found in place are those of the filter, and every slice that is taken on the way is
one.

* `Slice.Fits`: a slice starts and ends between characters of its text.
* `Scans`: a scan passes such slices only, goes forward in every round, and finds the tokens.
* `scans_scanFrom`, `scans_scan`: every scan of a filter does.
-/

namespace Listings.Filter

open Text (byteLength)

/-! ## Slices -/

/-- A slice starts and ends at places of its text, in this order. -/
structure Slice.Fits (filter : String) (slice : Slice) : Prop where
  order : slice.start ≤ slice.finish filter
  start : (String.Pos.Raw.mk slice.start).IsValid (slice.whole filter)
  finish : (String.Pos.Raw.mk (slice.finish filter)).IsValid (slice.whole filter)

variable {filter : String}

/-- A slice that is there can be taken. -/
theorem Slice.take_eq {slice : Slice} {piece : List Char}
    (h : Text.slice? slice.start (slice.finish filter) (slice.whole filter).toList = some piece) :
    slice.take filter = ⟨[slice], .ok piece⟩ ∧ slice.Fits filter := by
  obtain ⟨order, start, finish⟩ := Text.isValid_of_slice? h
  rw [take, h]
  exact ⟨rfl, order, start, finish⟩

theorem take_rest {before cs : List Char} (whole : filter.toList = before ++ cs) :
    (Slice.rest (byteLength before)).take filter = ⟨[.rest (byteLength before)], .ok cs⟩
      ∧ (Slice.rest (byteLength before)).Fits filter := by
  refine Slice.take_eq (Text.slice?_eq_some_iff.2 ⟨before, [], ?_, rfl, ?_⟩)
  · rwa [List.append_nil]
  · show _ = filter.utf8ByteSize
    rw [← Text.byteLength_toList, whole, Text.byteLength_append]
    rfl

/-- Between the quotes of a text there is a slice. -/
theorem take_body (filter : String) (quote : Char) (single : quote.utf8Size = 1) (body : List Char) :
    (Slice.body (.ofList (quote :: body ++ [quote]))).take filter
        = ⟨[.body (.ofList (quote :: body ++ [quote]))], .ok body⟩
      ∧ (Slice.body (.ofList (quote :: body ++ [quote]))).Fits filter := by
  refine Slice.take_eq (Text.slice?_eq_some_iff.2 ⟨[quote], [quote], ?_, ?_, ?_⟩)
  · simp [Slice.whole]
  · simp [Slice.start, single]
  · simp only [Slice.start, Slice.finish, Text.byteLength_ofList, Text.byteLength_append,
      Text.byteLength_cons, Text.byteLength_nil, single]
    omega

/-! ## What tokens stand for -/

/-- The text of a token is decoded in place as it is elsewhere, and no round begins with a slice of it. -/
theorem decodeInPlace_eq (filter : String) {shape : Shape} {text : List Char} (lexeme : IsLexeme shape text)
    (offset : Nat) :
    ∃ passed, decodeInPlace filter shape (.ofList text) offset = ⟨passed,
        ((shape.decode text).mapError fun cause => ⟨cause, offset, .ofList text⟩).mapError .refused⟩
      ∧ ∀ slice ∈ passed, slice.Fits filter ∧ slice.round? = none := by
  cases lexeme with
  | @quoted body h =>
    obtain ⟨taken, fits⟩ := take_body filter '"' rfl body
    refine ⟨[.body (.ofList ('"' :: body ++ ['"']))], ?_, List.forall_mem_singleton.2 ⟨fits, rfl⟩⟩
    rw [decodeInPlace, taken, Run.bind_of_ok rfl, Shape.decode, unquoted_enclosed]
    cases unescape body <;> rfl
  | @raw body h =>
    obtain ⟨taken, fits⟩ := take_body filter backQuote rfl body
    refine ⟨[.body (.ofList (backQuote :: body ++ [backQuote]))], ?_,
      List.forall_mem_singleton.2 ⟨fits, rfl⟩⟩
    rw [decodeInPlace, taken, Run.bind_of_ok rfl, Shape.decode, unquoted_enclosed]
    rfl
  | number | word | symbol =>
    refine ⟨[], ?_, List.forall_mem_nil _⟩
    rw [decodeInPlace, String.toList_ofList]
    · rfl
    · intro h
      cases h
    · intro h
      cases h

/-! ## Rounds -/

/-- A scan from an offset on finds what is to be found there, or it is refused for the same reason. It
takes no slice that is not there, and every round begins behind the one before. -/
structure Scans (filter : String) (offset : Nat) (run : Run Slice (List Token))
    (outcome : Except SyntaxError (List Token)) : Prop where
  fits : ∀ slice ∈ run.passed, slice.Fits filter
  behind : ∀ round ∈ run.passed.filterMap Slice.round?, offset ≤ round
  forward : (run.passed.filterMap Slice.round?).Pairwise (· < ·)
  outcome : run.outcome = outcome.mapError .refused

/-- A round takes what is left of the filter and what it needs of a token, and the others come behind. -/
theorem scans_round {before cs : List Char} (whole : filter.toList = before ++ cs)
    {passed : List Slice} (token : ∀ slice ∈ passed, slice.Fits filter ∧ slice.round? = none)
    {next : Nat} (further : byteLength before < next) {run : Run Slice (List Token)}
    {others : Except SyntaxError (List Token)} (later : Scans filter next run others)
    (outcome : Except SyntaxError (List Token)) :
    Scans filter (byteLength before)
      ⟨.rest (byteLength before) :: (passed ++ run.passed), outcome.mapError .refused⟩ outcome := by
  have rounds : (Slice.rest (byteLength before) :: (passed ++ run.passed)).filterMap Slice.round?
      = byteLength before :: run.passed.filterMap Slice.round? := by
    rw [List.filterMap_cons, Slice.round?, List.filterMap_append,
      List.filterMap_eq_nil_iff.2 fun slice mem => (token slice mem).2, List.nil_append]
  refine ⟨?_, ?_, ?_, rfl⟩
  · refine List.forall_mem_cons.2 ⟨(take_rest whole).2, List.forall_mem_append.2 ⟨?_, later.fits⟩⟩
    exact fun slice mem => (token slice mem).1
  · rw [rounds]
    exact List.forall_mem_cons.2 ⟨le_rfl, fun round mem => further.le.trans (later.behind round mem)⟩
  · rw [rounds]
    exact List.pairwise_cons.2
      ⟨fun round mem => further.trans_le (later.behind round mem), later.forward⟩

/-- The round that ends a scan. -/
theorem scans_last {before cs : List Char} (whole : filter.toList = before ++ cs)
    (passed : List Slice) (token : ∀ slice ∈ passed, slice.Fits filter ∧ slice.round? = none)
    (outcome : Except SyntaxError (List Token)) :
    Scans filter (byteLength before)
      ⟨.rest (byteLength before) :: passed, outcome.mapError .refused⟩ outcome := by
  have nothing : Scans filter (byteLength before + 1) ⟨[], .ok []⟩ (.ok []) :=
    ⟨List.forall_mem_nil _, List.forall_mem_nil _, .nil, rfl⟩
  have scans := scans_round whole token (Nat.lt_succ_self _) nothing outcome
  rwa [List.append_nil] at scans

/-- A round that finds the text of a token, and the rounds behind it. -/
theorem scans_found {before cs : List Char} (whole : filter.toList = before ++ cs)
    {passed : List Slice} (token : ∀ slice ∈ passed, slice.Fits filter ∧ slice.round? = none)
    {next : Nat} (further : byteLength before < next) {run : Run Slice (List Token)}
    {others : Except SyntaxError (List Token)} (later : Scans filter next run others)
    (decoded : Except SyntaxError TokenKind) (tokenOf : TokenKind → Token) :
    Scans filter (byteLength before)
      ((⟨[.rest (byteLength before)], .ok cs⟩ : Run Slice (List Char)) >>= fun _ =>
        (⟨passed, decoded.mapError .refused⟩ : Run Slice TokenKind) >>= fun kind =>
          run >>= fun ts => pure (tokenOf kind :: ts))
      (decoded >>= fun kind => others >>= fun ts => .ok (tokenOf kind :: ts)) := by
  rw [Run.bind_of_ok rfl]
  cases decoded with
  | error e =>
    rw [Run.bind_of_error rfl]
    exact scans_last whole passed token (.error e)
  | ok kind =>
    rw [Run.bind_of_ok rfl]
    cases others with
    | error e =>
      rw [Run.bind_of_error later.outcome]
      exact scans_round whole token further later (.error e)
    | ok ts =>
      rw [Run.bind_of_ok later.outcome]
      show Scans _ _ ⟨_ :: (passed ++ (run.passed ++ [])), _⟩ (.ok _)
      rw [List.append_nil]
      exact scans_round whole token further later (.ok (tokenOf kind :: ts))

theorem byteLength_trimStart (cs : List Char) :
    byteLength cs - byteLength (Text.trimStart cs) = byteLength (cs.takeWhile Text.isBlank) := by
  have whole : byteLength cs
      = byteLength (cs.takeWhile Text.isBlank) + byteLength (cs.dropWhile Text.isBlank) := by
    rw [← Text.byteLength_append, List.takeWhile_append_dropWhile]
  rw [Text.trimStart]
  omega

/-- Every round goes on behind a token that is not empty, so there is a round for each. -/
theorem scans_scanFrom {rounds : Nat} {before cs : List Char} (whole : filter.toList = before ++ cs)
    (enough : byteLength cs < rounds) :
    Scans filter (byteLength before) (scanFrom filter rounds (byteLength before))
      (tokensFrom (byteLength before) cs) := by
  induction rounds generalizing before cs with
  | zero => cases enough
  | succ rounds ih =>
    rw [scanFrom, (take_rest whole).1, Run.bind_of_ok rfl]
    dsimp only
    rw [byteLength_trimStart, tokensFrom, Text.trimStart]
    cases trimmed : cs.dropWhile Text.isBlank with
    | nil => exact scans_last whole [] (List.forall_mem_nil _) (.ok [])
    | cons c rest =>
      dsimp only
      cases found : lexeme? (c :: rest) with
      | none => exact scans_last whole [] (List.forall_mem_nil _) (.error _)
      | some lexeme =>
        obtain ⟨shape, text⟩ := lexeme
        have longest := lexeme?_eq_some_iff.1 found
        have lies : cs = cs.takeWhile Text.isBlank ++ (text ++ (c :: rest).drop text.length) := by
          rw [List.prefix_iff_eq_append.1 longest.start, ← trimmed, List.takeWhile_append_dropWhile]
        have behind : filter.toList
            = (before ++ (cs.takeWhile Text.isBlank ++ text)) ++ (c :: rest).drop text.length := by
          rw [whole, List.append_assoc, List.append_assoc, ← lies]
        have size := congrArg byteLength lies
        have pos := Text.byteLength_pos (lexeme?_ne_nil found)
        rw [Text.byteLength_append, Text.byteLength_append] at size
        obtain ⟨passed, decoded, token⟩ := decodeInPlace_eq filter longest.lexeme
          (byteLength before + byteLength (cs.takeWhile Text.isBlank))
        -- the lexeme is not empty, so fewer bytes are left behind it
        have later := ih behind (by omega)
        rw [Text.byteLength_append, Text.byteLength_append, ← Nat.add_assoc] at later
        dsimp only
        rw [decoded, ← Text.byteLength_toList, String.toList_ofList]
        exact scans_found whole token (by omega) later _ fun kind => ⟨kind, _, .ofList text⟩

/-- The scan of a filter finds its tokens. -/
theorem scans_scan (filter : String) : Scans filter 0 (scan filter) (tokens filter) :=
  scans_scanFrom (List.nil_append filter.toList).symm
    (by rw [Text.byteLength_toList]; exact Nat.lt_succ_self _)

end Listings.Filter
