import Mathlib.Data.FinEnum
import Mathlib.Data.Fintype.Option
import Mathlib.Tactic.TFAE
import RedemptionWatch.Proofs.Endpoint.Answers
import RedemptionWatch.Proofs.Trail
import RedemptionWatch.Source

/-!
# Where the paging of a block ends

The transactions of a block of Terra are listed in pages, each of which may name the offset of the
next one. The listing goes on there unless that is the offset of the page itself. Against an
endpoint that answers every request in one way, its requests are the trail of these offsets
(`run_block`).

So it comes to an end if and only if no offset that it comes to leads back to itself by one or more
pages, and if and only if it asks for no offset twice (`paging_ends_tfae`). Then the block has the
transactions of each page once, after at most one request more than there are offsets that pages
name. Where two pages name each other, the listing goes round for ever, and whoever waits for the
block waits with it (`paging_goes_round`).
-/

namespace RedemptionWatch

namespace Terra.Source

open StateTransition (Reaches Reaches₁)

section

variable (s : Source) (answer : Endpoint.Request → Endpoint.Reply) (height : UInt64)

/-- The request for the page at an offset, if the endpoint has a path for it. -/
def request? (offset : Option UInt64) : Option Endpoint.Request :=
  (s.listing.asDirectory.join "v1/txs").toOption.map fun url =>
    .get (url.withForm (pageForm height offset))

/-- The offset that is asked for after this one: the one that its page names, unless that is its
own. -/
def next? (offset : Option UInt64) : Option (Option UInt64) :=
  match (s.page height offset).against answer with
  | .ok page => if page.next = offset then none else page.next.map some
  | .error _ => none

/-- The offsets that are asked for in so many rounds. -/
def offsets (rounds : Nat) : List (Option UInt64) :=
  trail (s.next? answer height) rounds none

/-- The redemptions among these transactions and those on the pages at these offsets, or the first
error of a page. -/
def harvest (transactions : List Transaction) (offsets : List (Option UInt64)) :
    Except FetchError (Option (List Candidate)) :=
  (fun pages : List Page =>
      some (s.extract height (transactions ++ pages.flatMap (·.transactions)))) <$>
    offsets.mapM fun offset => (s.page height offset).against answer

/-- What a block comes to within so many rounds, and what is asked for it. -/
def reading (rounds : Nat) :
    Option (Except FetchError (Option (List Candidate))) × List Endpoint.Request :=
  (Loop.run ((RedemptionWatch.Source.terra s).block height) (Endpoint.recording answer) rounds
    .start).run []

/-- What a round comes to. -/
def round (pages : Pages) : Pages ⊕ Except FetchError (Option (List Candidate)) :=
  match (s.page height pages.offset).against answer with
  | .error e => .inr (.error e)
  | .ok page =>
    let transactions := pages.transactions ++ page.transactions
    match s.next? answer height pages.offset with
    | some next => .inl ⟨next, transactions⟩
    | none => .inr (.ok (some (s.extract height transactions)))

end

variable {s : Source} {answer : Endpoint.Request → Endpoint.Reply} {height : UInt64}
  {offset : Option UInt64} {offsets : List (Option UInt64)} {transactions : List Transaction}
  {asked : List Endpoint.Request}

/-! ## A round -/

theorem page_ends : Plan.Ends (Endpoint.recording answer) (s.page height offset).run asked
    fun result asked' => result = (s.page height offset).against answer ∧
      asked' = asked ++ (s.request? height offset).toList := by
  have hasked : Plan.Ends (Endpoint.recording answer) (s.page height offset).run asked
      fun _ asked' => asked' = asked ++ (s.request? height offset).toList := by
    refine Plan.ends_bind.mpr ((Endpoint.ends_recording_getJson _ _ _).mono ?_)
    rintro (e | answer) asked' h
    · exact h
    · dsimp only [ExceptT.bindCont]
      cases Page.ofJson? answer <;> exact h
  exact ⟨Endpoint.ends_recording_against _, hasked⟩

theorem block_ends {pages : Pages} : Plan.Ends (Endpoint.recording answer)
    ((RedemptionWatch.Source.terra s).block height pages) asked
    fun result asked' => result = s.round answer height pages ∧
      asked' = asked ++ (s.request? height pages.offset).toList := by
  refine Plan.ends_bind.mpr <| Plan.ends_bind.mpr <| Plan.ends_bind.mpr <| Plan.ends_bind.mpr <|
    page_ends.mono ?_
  rintro _ asked' ⟨rfl, hasked⟩
  unfold round next?
  rcases (s.page height pages.offset).against answer with e | ⟨_ | next, transactions⟩
  · exact ⟨rfl, hasked⟩
  · dsimp only
    split_ifs <;> exact ⟨rfl, hasked⟩
  · change Plan.Ends _ (if pages.offset = some next then
        return .inr (pages.transactions ++ transactions)
      else return .inl ⟨some next, pages.transactions ++ transactions⟩ :
      Endpoint.Fetch (Pages ⊕ List Transaction)).run asked' _
    dsimp only
    by_cases h : pages.offset = some next
    · rw [if_pos h, if_pos h.symm]
      exact ⟨rfl, hasked⟩
    · rw [if_neg h, if_neg (Ne.symm h)]
      exact ⟨rfl, hasked⟩

/-! ## All rounds -/

theorem next?_of_error {e : FetchError} (h : (s.page height offset).against answer = .error e) :
    s.next? answer height offset = none := by
  unfold next?
  rw [h]

/-- An offset that is asked for next is named by a page. -/
theorem exists_of_next? {next : Option UInt64} (h : s.next? answer height offset = some next) :
    ∃ page n, (s.page height offset).against answer = .ok page ∧ page.next = some n ∧
      next = some n := by
  unfold next? at h
  split at h
  case h_1 page hpage =>
    split_ifs at h
    obtain ⟨n, hn, rfl⟩ := Option.map_eq_some_iff.mp h
    exact ⟨page, n, hpage, hn, rfl⟩
  case h_2 => exact nomatch h

theorem harvest_nil :
    s.harvest answer height transactions [] = .ok (some (s.extract height transactions)) := by
  change Except.ok (some (s.extract height (transactions ++ []))) = _
  rw [List.append_nil]

theorem harvest_cons_of_error {e : FetchError}
    (h : (s.page height offset).against answer = .error e) :
    s.harvest answer height transactions (offset :: offsets) = .error e := by
  unfold harvest
  rw [List.mapM_cons, h]
  rfl

theorem harvest_cons_of_ok {page : Page} (h : (s.page height offset).against answer = .ok page) :
    s.harvest answer height transactions (offset :: offsets) =
      s.harvest answer height (transactions ++ page.transactions) offsets := by
  unfold harvest
  rw [List.mapM_cons, h]
  cases offsets.mapM fun offset => (s.page height offset).against answer with
  | error e => rfl
  | ok pages =>
    change Except.ok (some (s.extract height (transactions ++ (page :: pages).flatMap _))) = _
    rw [List.flatMap_cons, ← List.append_assoc]
    rfl

/-- From any offset on, a listing asks along the trail of offsets. If that stops, it comes to what
is on these pages. -/
theorem run_block (rounds : Nat) :
    (Loop.run ((RedemptionWatch.Source.terra s).block height) (Endpoint.recording answer) rounds
        ⟨offset, transactions⟩).run asked =
      (if stops (s.next? answer height) rounds offset then
          some (s.harvest answer height transactions
            (trail (s.next? answer height) rounds offset))
        else none,
        asked ++ (trail (s.next? answer height) rounds offset).filterMap (s.request? height)) := by
  induction rounds generalizing offset transactions asked with
  | zero => exact congrArg (Prod.mk none) (List.append_nil asked).symm
  | succ rounds ih =>
    have hround : (((RedemptionWatch.Source.terra s).block height ⟨offset, transactions⟩).run
        (Endpoint.recording answer)).run asked =
        (s.round answer height ⟨offset, transactions⟩,
          asked ++ (s.request? height offset).toList) :=
      Prod.ext block_ends.1 block_ends.2
    have hasks : ∀ rest, (offset :: rest).filterMap (s.request? height) =
        (s.request? height offset).toList ++ rest.filterMap (s.request? height) := by
      simp only [List.filterMap_eq_flatMap_toList, List.flatMap_cons, forall_const]
    rw [Loop.run, StateT.run_bind, hround]
    unfold round
    dsimp only
    cases hpage : (s.page height offset).against answer with
    | error e =>
      have hnext := next?_of_error hpage
      rw [stops_succ_of_none hnext, trail_succ_of_none hnext, harvest_cons_of_error hpage, hasks,
        List.filterMap_nil, List.append_nil]
      rfl
    | ok page =>
      dsimp only
      cases hnext : s.next? answer height offset with
      | none =>
        rw [stops_succ_of_none hnext, trail_succ_of_none hnext, harvest_cons_of_ok hpage,
          harvest_nil, hasks, List.filterMap_nil, List.append_nil]
        rfl
      | some next =>
        rw [stops_succ_of_some hnext, trail_succ_of_some hnext, harvest_cons_of_ok hpage,
          hasks, ← List.append_assoc]
        exact ih

theorem reading_eq (rounds : Nat) : s.reading answer height rounds =
    (if stops (s.next? answer height) rounds none then
        some (s.harvest answer height [] (s.offsets answer height rounds))
      else none,
      (s.offsets answer height rounds).filterMap (s.request? height)) :=
  run_block rounds

theorem exists_reading_iff : (∃ rounds result, (s.reading answer height rounds).1 = some result) ↔
    ∃ rounds, stops (s.next? answer height) rounds none = true := by
  refine exists_congr fun rounds => ?_
  rw [reading_eq]
  simp

/-- Against an endpoint that answers every request in one way, the reading of a block ends if and
only if no offset that it comes to leads back to itself, and if and only if it asks for no offset
twice. In so many rounds it asks for the pages at the offsets it comes to, in order. When it has
ended, it has come to what is on these pages, each taken once, and there is at most one of them more
than there are offsets that pages name. Until then, every round comes to one more offset. -/
theorem paging_ends_tfae (s : Source) (answer : Endpoint.Request → Endpoint.Reply)
    (height : UInt64) :
    List.TFAE [∃ rounds result, (s.reading answer height rounds).1 = some result,
      ∀ offset, Reaches (s.next? answer height) none offset →
        ¬Reaches₁ (s.next? answer height) offset offset,
      ∀ rounds, (s.offsets answer height rounds).Nodup] ∧
    ∀ rounds, (s.reading answer height rounds).2 =
        (s.offsets answer height rounds).filterMap (s.request? height) ∧
      (∀ result, (s.reading answer height rounds).1 = some result →
        result = s.harvest answer height [] (s.offsets answer height rounds) ∧
        ∀ named : Finset UInt64, (∀ offset page next,
            (s.page height offset).against answer = .ok page → page.next = some next →
              next ∈ named) →
          (s.offsets answer height rounds).length ≤ named.card + 1) ∧
      ((s.reading answer height rounds).1 = none →
        (s.offsets answer height rounds).length = rounds) := by
  constructor
  · tfae_have 1 ↔ 2 := exists_reading_iff.trans exists_stops_iff
    tfae_have 1 ↔ 3 := exists_reading_iff.trans exists_stops_iff_nodup
    tfae_finish
  intro rounds
  rw [reading_eq]
  refine ⟨rfl, ?_, ?_⟩
  · intro result h
    obtain ⟨hstops, hresult⟩ := Option.ite_none_right_eq_some.mp h
    refine ⟨(Option.some_inj.mp hresult).symm, fun named hnamed => ?_⟩
    have htargets : ∀ offset ∈ trail (s.next? answer height) rounds none,
        ∀ next, s.next? answer height offset = some next → next ∈ named.image some := by
      intro offset _ next hnext
      obtain ⟨page, n, hpage, hn, rfl⟩ := exists_of_next? hnext
      exact Finset.mem_image_of_mem some (hnamed offset page n hpage hn)
    have hle := length_trail_le (nodup_trail ⟨rounds, hstops⟩ rounds) htargets
    exact hle.trans (Nat.succ_le_succ Finset.card_image_le)
  · intro h
    refine length_trail (Bool.eq_false_iff.mpr fun hstops => ?_)
    rw [if_pos hstops] at h
    exact nomatch h

/-! ## An endpoint whose pages name each other -/

/-- A tracked contract. -/
def sampleSource : Source where
  chainId := ⟨3⟩
  url := ⟨"http", "", "", some (.domain "lcd.test"), none, "/", none, none⟩
  listing := ⟨"http", "", "", some (.domain "fcd.test"), none, "/", none, none⟩
  contract := "terra10nmmwe8r3g99a9newtqa7a75xfgs2e8z87r2sf"
  methods := ["complete_transfer_wrapped"]

/-- An empty page that names an offset. -/
def samplePage (next : UInt64) : Json :=
  .object [("next", .ofUInt64 next), ("txs", .array [])]

/-- The offset that the page at this URL names: after 100 comes 200, and after all others 100. -/
def sampleNext (url : Url) : UInt64 :=
  if url.text = "http://fcd.test/v1/txs?block=9&limit=100&offset=100" then 200 else 100

/-- An endpoint whose pages name each other. -/
def goesRound : Endpoint.Request → Endpoint.Reply
  | .get url => .answered 200 (samplePage (sampleNext url)).text
  | .post .. => .lost

/-- The URL of the transactions. -/
def sampleUrl : Url :=
  { sampleSource.listing with path := "/v1/txs" }

theorem join_sampleSource : sampleSource.listing.asDirectory.join "v1/txs" = .ok sampleUrl := by
  decide +kernel

theorem resource_samplePage (url : Url) (next : UInt64) :
    Endpoint.resource url (.answered 200 (samplePage next).text) = .ok (samplePage next) := by
  have hplain : (samplePage next).isPlain Json.Reader.maxDepth := by
    have hlt : next.toNat < UInt64.size := next.toNat_lt
    simp [samplePage, Json.isPlain, Json.membersArePlain, Json.itemsArePlain,
      Json.Reader.maxDepth, Json.ofUInt64, Json.ofNat, JsonNumber.ofNat, hlt]
  exact Endpoint.resource_text url hplain

theorem ofJson?_samplePage (next : UInt64) :
    Page.ofJson? (samplePage next) = some ⟨some next, []⟩ := by
  have hnext : Json.uint64? (.ofUInt64 next) = some next := by
    have hlt : next.toNat < UInt64.size := next.toNat_lt
    simp [Json.uint64?, Json.natBelow?, Json.ofUInt64, Json.ofNat, JsonNumber.ofNat,
      JsonNumber.nat?, hlt]
  have hfields : Json.fields? [.defaulted "next", .defaulted "txs"] (samplePage next) =
      some [some (.ofUInt64 next), some (.array [])] := rfl
  unfold Page.ofJson?
  rw [hfields]
  change (do return (⟨← (Json.uint64? (.ofUInt64 next)).map some, []⟩ : Page)) = _
  rw [hnext]
  rfl

theorem page_goesRound (offset : Option UInt64) : (sampleSource.page 9 offset).against goesRound =
    .ok ⟨some (sampleNext (sampleUrl.withForm (pageForm 9 offset))), []⟩ := by
  unfold page
  rw [Endpoint.bind_against, Endpoint.getJson_against, join_sampleSource]
  dsimp only [goesRound]
  rw [resource_samplePage]
  dsimp only
  rw [ofJson?_samplePage]
  rfl

theorem next?_goesRound {offset : Option UInt64} {next : UInt64}
    (h : sampleNext (sampleUrl.withForm (pageForm 9 offset)) = next) (hne : some next ≠ offset) :
    sampleSource.next? goesRound 9 offset = some (some next) := by
  unfold next?
  rw [page_goesRound, h]
  exact if_neg hne

/-- The pages at 100 and 200 name each other: the reading never ends, and asks for both again and
again. -/
theorem paging_goes_round :
    (∀ offset page next, (sampleSource.page 9 offset).against goesRound = .ok page →
      page.next = some next → next ∈ ({100, 200} : Finset UInt64)) ∧
    (∀ rounds, (sampleSource.reading goesRound 9 rounds).1 = none) ∧
    sampleSource.offsets goesRound 9 4 = [none, some 100, some 200, some 100] ∧
    ¬(sampleSource.reading goesRound 9 4).2.Nodup := by
  have hfirst : sampleSource.next? goesRound 9 none = some (some 100) :=
    next?_goesRound (by decide +kernel) (by decide)
  have hthere : sampleSource.next? goesRound 9 (some 100) = some (some 200) :=
    next?_goesRound (by decide +kernel) (by decide)
  have hback : sampleSource.next? goesRound 9 (some 200) = some (some 100) :=
    next?_goesRound (by decide +kernel) (by decide)
  have hoffsets : sampleSource.offsets goesRound 9 4 = [none, some 100, some 200, some 100] := by
    unfold Source.offsets
    rw [trail_succ_of_some hfirst, trail_succ_of_some hthere, trail_succ_of_some hback,
      trail_succ_of_some hthere]
    rfl
  refine ⟨?_, ?_, hoffsets, ?_⟩
  · intro offset page next hpage hnext
    rw [page_goesRound] at hpage
    cases hpage
    cases hnext
    unfold sampleNext
    split_ifs <;> decide
  · intro rounds
    rw [reading_eq, if_neg]
    intro hstops
    exact exists_stops_iff.mp ⟨rounds, hstops⟩ (some 100) (.single hfirst)
      (.tail (.single hthere) hback)
  · rw [reading_eq, hoffsets]
    simp [request?, join_sampleSource, Except.toOption]

end Terra.Source

end RedemptionWatch
