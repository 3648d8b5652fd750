import RedemptionWatch.Proofs.Endpoint.FetchLog
import RedemptionWatch.Proofs.Plan.Rounds
import RedemptionWatch.Proofs.Plan.Rules
import RedemptionWatch.Proofs.Terra.Paging

/-!
# Listings are read through

The pages of a proper listing name offsets that increase, each the one of the page after it, and the
last page names none. Such a listing is read page by page, each asked for once and in order, and all
transactions come out in the order of the pages (`Source.listing_read_through`). If a page cannot be
had, its error is all that comes out, and no page after it is asked for.

What an endpoint replies is given by the calls with their replies (`PageCall`), so nothing is
assumed about replies to other requests, or to the same request at another time. One lemma says what
a round does by the reply that comes in (`logs_more`, `logs_last`, `logs_failed`), and induction
along the calls leads from there to the last one (`logs_earlier`).
-/

namespace RedemptionWatch

namespace Terra

open Endpoint

/-- The call for the page at an offset, with its reply. -/
structure PageCall where
  offset : Option UInt64
  reply : Reply

namespace PageCall

variable (root : Url) (height : UInt64) (c : PageCall)

/-- The event of the call, where transactions are listed at this URL. -/
def event : Event interface :=
  ⟨.get (root.withForm (pageForm height c.offset)), c.reply⟩

/-- What the call comes to: a page, or why there is none. -/
def page : Except FetchError Page :=
  match resource (root.withForm (pageForm height c.offset)) c.reply with
  | .error e => .error e
  | .ok answer =>
    match Page.ofJson? answer with
    | some p => .ok p
    | none => .error (.decode ("txs of block " ++ toString height.toNat))

end PageCall

namespace Source

section

variable (s : Source) (height : UInt64)

/-- Reads the pages of a block one after the other, to all transactions of the block. -/
def readThrough : Loop interface Pages (Except FetchError (List Transaction)) := fun pages => do
  match ← (s.readPage height pages).run with
  | .error e => return .inr (.error e)
  | .ok (.inl pages) => return .inl pages
  | .ok (.inr transactions) => return .inr (.ok transactions)

/-- From the first page on, the calls of the log are made, if they are answered as in the log, and
the reading ends with this result. -/
def Reads (log : Log interface) (result : Except FetchError (List Transaction)) : Prop :=
  (s.readThrough height).Logs (.done (.inl .start)) log (.done (.inr result))

/-- The redemptions among the transactions that were read, or the error. -/
def redeemed (result : Except FetchError (List Transaction)) :
    Except FetchError (Option (List Candidate)) :=
  (fun transactions => some (s.extract height transactions)) <$> result

end

variable {s : Source} {root : Url} {height : UInt64} {offset : Option UInt64}
  {transactions : List Transaction} {c : PageCall} {calls earlier : List PageCall}
  {named : List UInt64} {pages : List Page} {p : Page} {e : FetchError} {log : Log interface}
  {result : Except FetchError (List Transaction)}

/-! ## A round -/

theorem gives_page (hroot : s.listing.asDirectory.join "v1/txs" = .ok root) :
    (s.page height c.offset).Gives [c.event root height] (c.page root height) := by
  have hpage : s.page height c.offset =
      getJson s.listing "v1/txs" (pageForm height c.offset) >>= fun answer =>
        MonadExcept.ofExcept (match Page.ofJson? answer with
          | some p => .ok p
          | none => .error (.decode ("txs of block " ++ toString height.toNat))) := by
    refine bind_congr fun answer => ?_
    cases Page.ofJson? answer <;> rfl
  have hcall : (getJson s.listing "v1/txs" (pageForm height c.offset)).Gives
      [c.event root height] (resource (root.withForm (pageForm height c.offset)) c.reply) :=
    (Fetch.gives_getJson hroot).mpr ⟨c.reply, rfl, rfl⟩
  rw [hpage, Fetch.gives_bind]
  unfold PageCall.page
  cases hreply : resource (root.withForm (pageForm height c.offset)) c.reply with
  | error e =>
    rw [hreply] at hcall
    exact .inl ⟨e, rfl, hcall⟩
  | ok answer =>
    rw [hreply] at hcall
    exact .inr ⟨answer, _, [], (List.append_nil _).symm, hcall,
      Fetch.gives_ofExcept.mpr ⟨rfl, rfl⟩⟩

/-- After a page that names another offset, the reading goes on there. -/
theorem logs_more {next : UInt64} (hroot : s.listing.asDirectory.join "v1/txs" = .ok root)
    (hpage : c.page root height = .ok p) (hnext : p.next = some next)
    (hother : c.offset ≠ some next) :
    (s.readThrough height ⟨c.offset, transactions⟩).Logs [c.event root height]
      (.done (.inl ⟨some next, transactions ++ p.transactions⟩)) := by
  have hround : (s.readPage height ⟨c.offset, transactions⟩).Gives [c.event root height]
      (.ok (.inl ⟨some next, transactions ++ p.transactions⟩)) := by
    refine Fetch.gives_bind_ok.mpr ⟨p, _, [], (List.append_nil _).symm,
      hpage ▸ gives_page hroot, ?_⟩
    rw [hnext]
    dsimp only
    rw [if_neg hother]
    exact Fetch.gives_pure.mpr ⟨rfl, rfl⟩
  exact hround.bind (.nil _)

/-- After a page that names no offset, the reading ends. -/
theorem logs_last (hroot : s.listing.asDirectory.join "v1/txs" = .ok root)
    (hpage : c.page root height = .ok p) (hnext : p.next = none) :
    (s.readThrough height ⟨c.offset, transactions⟩).Logs [c.event root height]
      (.done (.inr (.ok (transactions ++ p.transactions)))) := by
  have hround : (s.readPage height ⟨c.offset, transactions⟩).Gives [c.event root height]
      (.ok (.inr (transactions ++ p.transactions))) := by
    refine Fetch.gives_bind_ok.mpr ⟨p, _, [], (List.append_nil _).symm,
      hpage ▸ gives_page hroot, ?_⟩
    rw [hnext]
    exact Fetch.gives_pure.mpr ⟨rfl, rfl⟩
  exact hround.bind (.nil _)

/-- After a page that cannot be had, the reading ends with its error. -/
theorem logs_failed (hroot : s.listing.asDirectory.join "v1/txs" = .ok root)
    (hpage : c.page root height = .error e) :
    (s.readThrough height ⟨c.offset, transactions⟩).Logs [c.event root height]
      (.done (.inr (.error e))) := by
  have hround : (s.readPage height ⟨c.offset, transactions⟩).Gives [c.event root height]
      (.error e) :=
    Fetch.gives_bind.mpr (.inl ⟨e, rfl, hpage ▸ gives_page hroot⟩)
  exact hround.bind (.nil _)

/-! ## All rounds -/

/-- From an offset on, calls whose pages name the offsets of the calls after them lead to the last
offset that is named, with the transactions of all these pages. -/
theorem logs_earlier (hroot : s.listing.asDirectory.join "v1/txs" = .ok root)
    (hoffsets : earlier.map (·.offset) ++ [c.offset] = offset :: named.map some)
    (hpages : earlier.map (·.page root height) = pages.map .ok)
    (hnext : pages.map (·.next) = named.map some)
    (hother : (offset :: named.map some).IsChain (· ≠ ·)) :
    (s.readThrough height).Logs (.done (.inl ⟨offset, transactions⟩))
      (earlier.map (·.event root height))
      (.done (.inl ⟨c.offset, transactions ++ pages.flatMap (·.transactions)⟩)) := by
  induction earlier generalizing offset named pages transactions with
  | nil =>
    obtain ⟨rfl, -⟩ := List.cons.inj hoffsets
    rw [List.map_eq_nil_iff.mp hpages.symm, List.flatMap_nil, List.append_nil]
    exact .nil _
  | cons first earlier ih =>
    obtain ⟨rfl, hrest⟩ := List.cons.inj hoffsets
    obtain ⟨p, pages, rfl, hfirst, hpages⟩ := List.map_eq_cons_iff.mp hpages.symm
    obtain ⟨next, named, rfl, hfirst', hnext⟩ := List.map_eq_cons_iff.mp hnext.symm
    rw [List.map_cons, List.isChain_cons_cons] at hother
    have hround : (s.readThrough height).Logs
        (.done (.inl ⟨first.offset, transactions⟩)) [first.event root height]
        (.done (.inl ⟨some next, transactions ++ p.transactions⟩)) :=
      .round (logs_more hroot hfirst.symm hfirst'.symm hother.1).loop
    rw [List.flatMap_cons, ← List.append_assoc]
    exact hround.trans (ih hrest hpages.symm hnext.symm hother.2)

/-- Offsets that increase are different from one to the next. -/
theorem isChain_of_increasing (h : named.Pairwise (· < ·)) :
    (none :: named.map some).IsChain (· ≠ ·) := by
  refine (List.pairwise_cons.mpr ⟨?_, List.pairwise_map.mpr ?_⟩).isChain
  · intro offset hoffset
    obtain ⟨n, -, rfl⟩ := List.mem_map.mp hoffset
    exact nofun
  · exact h.imp fun hlt heq => (UInt64.ne_of_lt hlt) (Option.some.inj heq)

/-- A proper listing is read to its end, each page by one call and in order. -/
theorem reads_all (hroot : s.listing.asDirectory.join "v1/txs" = .ok root)
    (hoffsets : calls.map (·.offset) = none :: named.map some) (hincreasing : named.Pairwise (· < ·))
    (hpages : calls.map (·.page root height) = pages.map .ok)
    (hnext : pages.map (·.next) = named.map some ++ [none]) :
    s.Reads height (calls.map (·.event root height)) (.ok (pages.flatMap (·.transactions))) := by
  obtain ⟨earlier, last, rfl, hearlier, hlast⟩ := List.map_eq_append_iff.mp hnext
  obtain ⟨p, rfl, hend⟩ := List.map_eq_singleton_iff.mp hlast
  rw [List.map_append] at hpages
  obtain ⟨before, final, rfl, hbefore, hfinal⟩ := List.map_eq_append_iff.mp hpages
  obtain ⟨c, rfl, hpage⟩ := List.map_eq_singleton_iff.mp hfinal
  rw [List.map_append] at hoffsets
  rw [List.map_append, List.flatMap_append, List.flatMap_singleton]
  exact (logs_earlier hroot hoffsets hbefore hearlier (isChain_of_increasing hincreasing)).trans
    (.round (logs_last hroot hpage hend).loop)

/-- The reading of a listing ends with the first page that cannot be had. -/
theorem reads_error (hroot : s.listing.asDirectory.join "v1/txs" = .ok root)
    (hoffsets : calls.map (·.offset) = none :: named.map some) (hincreasing : named.Pairwise (· < ·))
    (hpages : calls.map (·.page root height) = pages.map .ok ++ [.error e])
    (hnext : pages.map (·.next) = named.map some) :
    s.Reads height (calls.map (·.event root height)) (.error e) := by
  obtain ⟨before, final, rfl, hbefore, hfinal⟩ := List.map_eq_append_iff.mp hpages
  obtain ⟨c, rfl, hpage⟩ := List.map_eq_singleton_iff.mp hfinal
  rw [List.map_append] at hoffsets
  rw [List.map_append]
  exact (logs_earlier hroot hoffsets hbefore hnext (isChain_of_increasing hincreasing)).trans
    (.round (logs_failed hroot hpage).loop)

/-- Without a path to the listing nothing is asked. -/
theorem reads_without_path {reason : UrlError}
    (hroot : s.listing.asDirectory.join "v1/txs" = .error reason) :
    s.Reads height [] (.error (.decode ("bad path v1/txs: " ++ reason.message))) := by
  have hround : s.readThrough height .start =
      .done (.inr (.error (.decode ("bad path v1/txs: " ++ reason.message)))) := by
    unfold readThrough readPage page Endpoint.getJson
    rw [hroot]
    rfl
  exact .round (hround ▸ .nil _)

/-- The redemptions of a block are those among the transactions that are read. -/
theorem block_eq (s : Source) (height : UInt64) (pages : Pages) :
    (RedemptionWatch.Source.terra s).block height pages =
      s.readThrough height pages >>= fun r => .done (r.map id (s.redeemed height)) := by
  change (((s.readPage height pages).run >>= ExceptT.bindCont _) >>= ExceptT.bindCont _) >>= _ =
    ((s.readPage height pages).run >>= _) >>= _
  rw [Plan.bind_assoc, Plan.bind_assoc, Plan.bind_assoc]
  refine bind_congr fun outcome => ?_
  rcases outcome with e | pages | transactions <;> rfl

/-- By a handler that answers as in the log, both the listing and the block are read so. -/
theorem Reads.exists_run (h : s.Reads height log result) {S : Type}
    {answer : (q : interface.Request) → StateM S (interface.Answer q)} {begin finish : S}
    (hreplays : Replays (handles answer) begin log finish) :
    ∃ n, ∀ rounds ≥ n,
      (Loop.run (s.readThrough height) answer rounds .start).run begin = (some result, finish) ∧
      (Loop.run ((RedemptionWatch.Source.terra s).block height) answer rounds .start).run begin =
        (some (s.redeemed height result), finish) := by
  have hblock : ((RedemptionWatch.Source.terra s).block height).Logs (.done (.inl .start)) log
      (.done (.inr (s.redeemed height result))) :=
    Loop.Logs.embed _ id (fun r => .done (r.map id (s.redeemed height))) (fun _ => rfl)
      (block_eq s height) h
  obtain ⟨n, hn⟩ := Loop.Logs.exists_run h hreplays
  obtain ⟨m, hm⟩ := Loop.Logs.exists_run hblock hreplays
  exact ⟨max n m, fun rounds hle =>
    ⟨hn rounds (le_of_max_le_left hle), hm rounds (le_of_max_le_right hle)⟩⟩

/-- **Listings are read through.** Let the pages of a block name offsets that increase. If each is
asked for in turn, and the last one names no offset, these calls are all that is made, and what
comes out are the transactions of all pages in order. If the page at the last of the offsets cannot
be had, these calls are all that is made as well, and its error is all that comes out; so it is with
the error where there is no path to the listing, and then nothing is asked. Against any endpoint
that replies to the calls in this way, the reading ends so, and the block has the redemptions among
the transactions that come out. -/
theorem listing_read_through (s : Source) (height : UInt64) :
    (∀ root, s.listing.asDirectory.join "v1/txs" = .ok root →
      ∀ (calls : List PageCall) (named : List UInt64) (pages : List Page),
        calls.map (·.offset) = none :: named.map some → named.Pairwise (· < ·) →
        (calls.map (·.page root height) = pages.map .ok →
          pages.map (·.next) = named.map some ++ [none] →
          s.Reads height (calls.map (·.event root height))
            (.ok (pages.flatMap (·.transactions)))) ∧
        ∀ e, calls.map (·.page root height) = pages.map .ok ++ [.error e] →
          pages.map (·.next) = named.map some →
          s.Reads height (calls.map (·.event root height)) (.error e)) ∧
    (∀ reason, s.listing.asDirectory.join "v1/txs" = .error reason →
      s.Reads height [] (.error (.decode ("bad path v1/txs: " ++ reason.message)))) ∧
    ∀ log result, s.Reads height log result →
      ∀ (S : Type) (answer : (q : interface.Request) → StateM S (interface.Answer q))
        (begin finish : S), Replays (handles answer) begin log finish →
        ∃ n, ∀ rounds ≥ n,
          (Loop.run (s.readThrough height) answer rounds .start).run begin =
            (some result, finish) ∧
          (Loop.run ((RedemptionWatch.Source.terra s).block height) answer rounds .start).run
            begin = (some (s.redeemed height result), finish) := by
  refine ⟨?_, fun _ hroot => reads_without_path hroot, fun _ _ h _ _ _ _ => h.exists_run⟩
  intro root hroot calls named pages hoffsets hincreasing
  exact ⟨reads_all hroot hoffsets hincreasing,
    fun _ => reads_error hroot hoffsets hincreasing⟩

/-! ## A listing of three pages -/

/-- A page with one transaction. -/
def listedPage (next : Json) (hash : String) : Json :=
  .object [("next", next), ("txs", .array [.object [("tx", .object []), ("txhash", .string hash)]])]

/-- A transaction that has nothing but its hash. -/
def listedTransaction (hash : String) : Transaction := ⟨hash, none, none, .object [], []⟩

/-- Replies with three pages, of which the second one is up to the reply given. -/
def threePages (second : Reply) : Endpoint.Request → Reply
  | .get url =>
    if url.text = "http://fcd.test/v1/txs?block=9&limit=100" then
      .answered 200 (listedPage (.ofUInt64 100) "A1").text
    else if url.text = "http://fcd.test/v1/txs?block=9&limit=100&offset=100" then second
    else .answered 200 (listedPage .null "C3").text
  | .post .. => .lost

/-- The request for a page of the block. -/
def listingRequest (offset : Option UInt64) : Endpoint.Request :=
  .get (sampleUrl.withForm (pageForm 9 offset))

/-- The call for a page of the block, and what is replied to it. -/
def listingCall (second : Reply) (offset : Option UInt64) : PageCall :=
  ⟨offset, threePages second (listingRequest offset)⟩

theorem page_of_listed {c : PageCall} {next : Json} {offset : Option UInt64} {hash : String}
    (hreply : c.reply = .answered 200 (listedPage next hash).text)
    (hplain : (listedPage next hash).isPlain Json.Reader.maxDepth)
    (hpage : Page.ofJson? (listedPage next hash).canonical =
      some ⟨offset, [listedTransaction hash]⟩) :
    c.page root height = .ok ⟨offset, [listedTransaction hash]⟩ := by
  unfold PageCall.page
  rw [hreply, resource_text _ hplain]
  dsimp only
  rw [hpage]

theorem firstReply (second : Reply) : (listingCall second none).reply =
    .answered 200 (listedPage (.ofUInt64 100) "A1").text := by
  unfold listingCall listingRequest threePages
  dsimp only
  rw [if_pos]
  decide +kernel

theorem secondReply (second : Reply) : (listingCall second (some 100)).reply = second := by
  unfold listingCall listingRequest threePages
  dsimp only
  rw [if_neg, if_pos] <;> decide +kernel

theorem lastReply (second : Reply) : (listingCall second (some 200)).reply =
    .answered 200 (listedPage .null "C3").text := by
  unfold listingCall listingRequest threePages
  dsimp only
  rw [if_neg, if_neg] <;> decide +kernel

theorem firstPage (second : Reply) : (listingCall second none).page root height =
    .ok ⟨some 100, [listedTransaction "A1"]⟩ :=
  page_of_listed (firstReply second) (by decide +kernel) rfl

theorem lastPage (second : Reply) : (listingCall second (some 200)).page root height =
    .ok ⟨none, [listedTransaction "C3"]⟩ :=
  page_of_listed (lastReply second) (by decide +kernel) rfl

theorem lostPage : (listingCall .lost (some 100)).page sampleUrl 9 =
    .error (.remote "GET http://fcd.test/v1/txs?block=9&limit=100&offset=100") := by
  have htext : "GET " ++ (sampleUrl.withForm (pageForm 9 (some 100))).text =
      "GET http://fcd.test/v1/txs?block=9&limit=100&offset=100" := by decide +kernel
  unfold PageCall.page
  rw [secondReply]
  exact congrArg (fun text => Except.error (FetchError.remote text)) htext

theorem replays_listingCalls (second : Reply) (offsets : List (Option UInt64))
    (asked : List Endpoint.Request) :
    Replays (handles (recording (threePages second))) asked
      ((offsets.map (listingCall second)).map (·.event sampleUrl 9))
      (asked ++ offsets.map listingRequest) := by
  induction offsets generalizing asked with
  | nil =>
    simp only [List.map_nil, List.append_nil]
    exact .nil asked
  | cons offset offsets ih =>
    have hrest := ih (asked ++ [listingRequest offset])
    rw [List.append_assoc] at hrest
    exact .cons rfl hrest

/-- All three pages are read, or those before the one that is lost. -/
theorem listing_read_through_threePages :
    (∃ n, ∀ rounds ≥ n,
      (Loop.run (sampleSource.readThrough 9)
        (recording (threePages (.answered 200 (listedPage (.ofUInt64 200) "B2").text))) rounds
        .start).run [] =
        (some (.ok [listedTransaction "A1", listedTransaction "B2", listedTransaction "C3"]),
          [listingRequest none, listingRequest (some 100), listingRequest (some 200)])) ∧
    ∃ n, ∀ rounds ≥ n,
      (Loop.run (sampleSource.readThrough 9) (recording (threePages .lost)) rounds .start).run [] =
        (some (.error
          (.remote "GET http://fcd.test/v1/txs?block=9&limit=100&offset=100")),
          [listingRequest none, listingRequest (some 100)]) := by
  obtain ⟨hproper, -, hrun⟩ := listing_read_through sampleSource 9
  have hcalls := hproper sampleUrl join_sampleSource
  constructor
  · have hread := (hcalls ([none, some 100, some 200].map
      (listingCall (.answered 200 (listedPage (.ofUInt64 200) "B2").text))) [100, 200]
      [⟨some 100, [listedTransaction "A1"]⟩, ⟨some 200, [listedTransaction "B2"]⟩,
        ⟨none, [listedTransaction "C3"]⟩] rfl (by decide)).1 ?_ rfl
    · obtain ⟨n, hn⟩ := hrun _ _ hread _ _ _ _ (replays_listingCalls _ _ [])
      exact ⟨n, fun rounds hle => (hn rounds hle).1⟩
    · have hsecond : (listingCall (.answered 200 (listedPage (.ofUInt64 200) "B2").text)
          (some 100)).page sampleUrl 9 = .ok ⟨some 200, [listedTransaction "B2"]⟩ :=
        page_of_listed (secondReply _) (by decide +kernel) rfl
      simp only [List.map_cons, List.map_nil, firstPage, hsecond, lastPage]
  · have hread := (hcalls ([none, some 100].map (listingCall .lost)) [100]
      [⟨some 100, [listedTransaction "A1"]⟩] rfl (by decide)).2
      (.remote "GET http://fcd.test/v1/txs?block=9&limit=100&offset=100") ?_ rfl
    · obtain ⟨n, hn⟩ := hrun _ _ hread _ _ _ _ (replays_listingCalls _ _ [])
      exact ⟨n, fun rounds hle => (hn rounds hle).1⟩
    · simp only [List.map_cons, List.map_nil, firstPage, lostPage, List.singleton_append]

end Source

end Terra

end RedemptionWatch
