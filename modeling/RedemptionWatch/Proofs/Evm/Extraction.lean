import RedemptionWatch.Proofs.Ankr.Receipts
import RedemptionWatch.Proofs.Plan.Rounds
import RedemptionWatch.Proofs.Watch.Findings
import RedemptionWatch.Source

/-!
# What the extraction of a block asks and gives

A block is gone through in order. A transaction that does not redeem, or whose calldata carry no
attestation, costs nothing; for a redemption its receipt is asked for (`Inquiry`). `Inquires` says
how this goes on and ends: either all receipts are had, and each redemption is a candidate, or the
first one that is lost ends it, and what was found before is dropped.

A scan asks for a block under its retry policy, each time anew (`Attempt`). What it hands to the
store is what its attempts found (`BlockScan.scan_recorded`), so an attempt that lost a receipt
leaves nothing behind. `Source.extract_exact` states both.
-/

namespace RedemptionWatch.Evm

open Endpoint (Fetch Reply failure?)

/-! ## Inquiries -/

/-- A transaction that redeems is a tracked call whose calldata carry an attestation. -/
theorem Transaction.redeeming?_eq_some_iff {methods : MethodTable} {tx : Transaction}
    {r : Redeeming} : tx.redeeming? methods = some r ↔
      matchCall? methods tx.target tx.input = some r.call ∧
        Calldata.vaaOfText tx.input = .ok r.vaa := by
  unfold Transaction.redeeming?
  cases matchCall? methods tx.target tx.input with
  | none => exact iff_of_false nofun fun h => nomatch h.1
  | some call =>
    cases Calldata.vaaOfText tx.input with
    | error e => exact iff_of_false nofun fun h => nomatch h.2
    | ok vaa =>
      constructor
      · rintro ⟨⟩
        exact ⟨rfl, rfl⟩
      · obtain ⟨call', vaa'⟩ := r
        rintro ⟨⟨⟩, ⟨⟩⟩
        rfl

/-- What is redeemed goes by the target and the calldata alone. -/
theorem Transaction.redeeming?_congr {methods : MethodTable} {tx tx' : Transaction}
    (htarget : tx.target = tx'.target) (hinput : tx.input = tx'.input) :
    tx.redeeming? methods = tx'.redeeming? methods := by
  unfold Transaction.redeeming?
  rw [htarget, hinput]

/-- A transaction that redeems, with the tracked call that it is and the attestation that its
calldata carry. -/
structure Redemption where
  tx : Transaction
  call : MatchedCall
  vaa : SignedVaa

/-- The redemptions among transactions, in order. -/
def redemptions (methods : MethodTable) (txs : List Transaction) : List Redemption :=
  txs.filterMap fun tx =>
    match matchCall? methods tx.target tx.input, Calldata.vaaOfText tx.input with
    | some call, .ok vaa => some ⟨tx, call, vaa⟩
    | _, _ => none

section

variable {methods : MethodTable} {tx : Transaction} {txs : List Transaction}

theorem redemptions_cons_of_none (h : tx.redeeming? methods = none) :
    redemptions methods (tx :: txs) = redemptions methods txs := by
  refine List.filterMap_cons_none ?_
  unfold Transaction.redeeming? at h
  cases hcall : matchCall? methods tx.target tx.input with
  | none => rfl
  | some call =>
    cases hvaa : Calldata.vaaOfText tx.input with
    | error e => rfl
    | ok vaa =>
      rw [hcall, hvaa] at h
      exact nomatch h

theorem redemptions_cons_of_some {r : Redeeming} (h : tx.redeeming? methods = some r) :
    redemptions methods (tx :: txs) = ⟨tx, r.call, r.vaa⟩ :: redemptions methods txs := by
  obtain ⟨hcall, hvaa⟩ := Transaction.redeeming?_eq_some_iff.mp h
  refine List.filterMap_cons_some ?_
  rw [hcall, hvaa]

end

/-- The request for the receipt of a redemption, with its reply. -/
structure Inquiry where
  redemption : Redemption
  reply : Reply

namespace Inquiry

variable (q : Inquiry)

/-- The event of the inquiry. -/
def call (url : Url) : Event Endpoint.interface :=
  ⟨.post url "eth_getTransactionReceipt" (.array [.string q.redemption.tx.hash]), q.reply⟩

/-- The receipt that the reply holds. -/
def receipt : Except FetchError Json :=
  Endpoint.outcome "eth_getTransactionReceipt" q.reply

/-- Why the receipt could not be had, for a reason that may pass. -/
def lost? : Option FetchError :=
  match q.receipt with
  | .error (.throttled reason) => some (.throttled reason)
  | .error (.remote reason) => some (.remote reason)
  | _ => none

/-- The candidate is what the redemption and the reply say, in a block of this chain, number and
time. Its status goes by the word that the receipt states; it is unknown if this is another word, or
if there is none, as in a reply that is `null` or cannot be read. -/
structure Yields (chainId : ChainId) (number : UInt64) (timestamp : Timestamp) (c : Candidate) :
    Prop where
  messageId : c.messageId = .of q.redemption.vaa.body.emitterChain
    q.redemption.vaa.body.emitterAddress q.redemption.vaa.body.sequence
  chainId : c.chainId = chainId
  method : c.method = q.redemption.call.method
  txHash : c.txHash = Text.asciiLower q.redemption.tx.hash
  sender : Address.account? q.redemption.tx.sender = some c.sender ∨
    Address.account? q.redemption.tx.sender = none ∧ c.sender = q.redemption.tx.sender
  target : c.target = q.redemption.call.contract
  blockNumber : c.blockNumber = number
  timestamp : c.timestamp = timestamp
  confirmed : Ankr.StatesStatus q.reply (some "0x1") → c.status = .confirmed
  failed : Ankr.StatesStatus q.reply (some "0x0") → c.status = .failed
  unknown : ¬Ankr.StatesStatus q.reply (some "0x1") → ¬Ankr.StatesStatus q.reply (some "0x0") →
    c.status = .unknown

end Inquiry

/-- The receipts of redemptions are asked for one after the other. If all can be had, the result is
one candidate for each redemption, and otherwise the reason why the first one could not be had. -/
inductive Inquires (s : Source) (number : UInt64) (timestamp : Timestamp)
    (redemptions : List Redemption) :
    Log Endpoint.interface → Except FetchError (List Candidate) → Prop where
  | all {inquiries : List Inquiry} {found : List Candidate}
      (hall : inquiries.map (·.redemption) = redemptions)
      (hhad : ∀ q ∈ inquiries, q.lost? = none)
      (hfound : List.Forall₂ (·.Yields s.chainId number timestamp ·) inquiries found) :
      Inquires s number timestamp redemptions (inquiries.map (·.call s.url)) (.ok found)
  | lost {earlier : List Inquiry} {last : Inquiry} {reason : FetchError}
      (hfirst : (earlier ++ [last]).map (·.redemption) <+: redemptions)
      (hhad : ∀ q ∈ earlier, q.lost? = none) (hlost : last.lost? = some reason) :
      Inquires s number timestamp redemptions ((earlier ++ [last]).map (·.call s.url))
        (.error reason)

variable {s : Source} {number : UInt64} {timestamp : Timestamp}
  {rs : List Redemption} {log : Log Endpoint.interface}
  {result : Except FetchError (List Candidate)} {q : Inquiry}

theorem Inquires.cons (hq : q.lost? = none) {c : Candidate}
    (hc : q.Yields s.chainId number timestamp c)
    (h : Inquires s number timestamp rs log result) :
    Inquires s number timestamp (q.redemption :: rs) (q.call s.url :: log)
      ((c :: ·) <$> result) := by
  cases h with
  | @all inquiries found hall hhad hfound =>
    have hall' : (q :: inquiries).map (·.redemption) = q.redemption :: rs :=
      congrArg (q.redemption :: ·) hall
    exact .all hall' (List.forall_mem_cons.mpr ⟨hq, hhad⟩) (.cons hc hfound)
  | @lost earlier last reason hfirst hhad hlost =>
    have hfirst' : ((q :: earlier) ++ [last]).map (·.redemption) <+: q.redemption :: rs :=
      List.cons_prefix_cons.mpr ⟨rfl, hfirst⟩
    exact .lost hfirst' (List.forall_mem_cons.mpr ⟨hq, hhad⟩) hlost

/-- The first receipt is lost. -/
theorem Inquires.first {redemption : Redemption} {reason : FetchError}
    (hq : q.redemption = redemption) (hlost : q.lost? = some reason) :
    Inquires s number timestamp (redemption :: rs) [q.call s.url] (.error reason) := by
  have hfirst : ([] ++ [q]).map Inquiry.redemption <+: redemption :: rs :=
    List.cons_prefix_cons.mpr ⟨hq, List.nil_prefix⟩
  exact .lost hfirst (fun _ h => absurd h List.not_mem_nil) hlost

/-! ## Statuses -/

/-- The errors that are not answered by an unknown status. -/
def LosesReceipt : FetchError → Prop
  | .decode _ => False
  | _ => True

namespace Inquiry

theorem failure?_call (q : Inquiry) (url : Url) :
    failure? (q.call url) = Endpoint.errorOf? q.receipt :=
  rfl

theorem lost?_of_ok {receipt : Json} (h : q.receipt = .ok receipt) : q.lost? = none := by
  unfold lost?
  rw [h]

/-- No call is cancelled, so every error but one of reading may pass. -/
theorem lost?_of_error (url : Url) {reason : FetchError} (h : q.receipt = .error reason)
    (hloses : LosesReceipt reason) : q.lost? = some reason := by
  have hfailure : failure? (q.call url) = some reason := by
    rw [failure?_call, h]
    rfl
  unfold lost?
  rw [h]
  cases reason with
  | throttled text | remote text => rfl
  | decode text => exact hloses.elim
  | cancelled => exact absurd hfailure (Endpoint.failure?_ne_cancelled _)

theorem lost?_of_unread {reason : FetchError} (h : q.receipt = .error reason)
    (hmild : ¬LosesReceipt reason) : q.lost? = none := by
  unfold lost?
  rw [h]
  cases reason with
  | decode text => rfl
  | throttled text | remote text | cancelled => exact absurd trivial hmild

/-- The status by the receipt; it is unknown if the receipt cannot be read. -/
def status (q : Inquiry) : Status :=
  match q.receipt with
  | .ok receipt => statusOfReceipt receipt
  | .error _ => .unknown

theorem status_of_statesStatus {word : Option String} (h : Ankr.StatesStatus q.reply word) :
    q.status = statusOfWord word := by
  obtain ⟨receipt, hreceipt, rfl⟩ := h
  have hread : q.receipt = .ok receipt := hreceipt
  unfold status
  rw [hread]
  rfl

theorem status_of_other (hconfirmed : ¬Ankr.StatesStatus q.reply (some "0x1"))
    (hfailed : ¬Ankr.StatesStatus q.reply (some "0x0")) : q.status = .unknown := by
  unfold status
  cases hreceipt : q.receipt with
  | error reason => rfl
  | ok receipt =>
    have hstates : Ankr.StatesStatus q.reply ((receipt.get? "status").bind Json.string?) :=
      ⟨receipt, hreceipt, rfl⟩
    dsimp only
    unfold statusOfReceipt
    generalize (receipt.get? "status").bind Json.string? = word at hstates
    unfold statusOfWord
    split
    · exact absurd hstates hconfirmed
    · exact absurd hstates hfailed
    · rfl

theorem yields_candidate {tx : Transaction} {r : Redeeming} (h : q.redemption = ⟨tx, r.call, r.vaa⟩)
    (chainId : ChainId) (number : UInt64) (timestamp : Timestamp) :
    q.Yields chainId number timestamp (r.candidate tx chainId number timestamp q.status) := by
  refine ⟨?_, rfl, ?_, ?_, ?_, ?_, rfl, rfl, status_of_statesStatus, status_of_statesStatus,
    status_of_other⟩
  all_goals rw [h]
  · rfl
  · rfl
  · rfl
  · unfold Redeeming.candidate
    cases Address.account? tx.sender with
    | none => exact Or.inr ⟨rfl, rfl⟩
    | some sender => exact Or.inl rfl
  · rfl

end Inquiry

namespace Source

theorem catches_status (hash : String) :
    Fetch.Catches LosesReceipt .unknown
      (statusOfReceipt <$>
        Endpoint.call s.url "eth_getTransactionReceipt" (.array [.string hash]))
      (s.status hash) := by
  refine Fetch.catches_tryCatch (fun reason hloses => ?_) (fun reason hmild => ?_)
  · cases reason with
    | decode text => exact hloses.elim
    | throttled text | remote text | cancelled => rfl
  · cases reason with
    | decode text => rfl
    | throttled text | remote text | cancelled => exact absurd trivial hmild

/-- The receipt is asked for, and read as `statusOfReceipt` does. -/
theorem gives_receipt {tx : Transaction} {r : Redeeming} {status : Except FetchError Status}
    (h : (statusOfReceipt <$> Endpoint.call s.url "eth_getTransactionReceipt"
      (.array [.string tx.hash])).Gives log status) :
    ∃ q : Inquiry, q.redemption = ⟨tx, r.call, r.vaa⟩ ∧ log = [q.call s.url] ∧
      status = statusOfReceipt <$> q.receipt := by
  obtain ⟨receipt, hcall, rfl⟩ := Fetch.gives_map.mp h
  obtain ⟨reply, rfl, rfl⟩ := Fetch.gives_call.mp hcall
  exact ⟨⟨⟨tx, r.call, r.vaa⟩, reply⟩, rfl, rfl, rfl⟩

/-- A status comes of one inquiry, and it fails if the receipt is lost. -/
theorem gives_status {tx : Transaction} (r : Redeeming) {status : Except FetchError Status}
    (h : (s.status tx.hash).Gives log status) :
    ∃ q : Inquiry, q.redemption = ⟨tx, r.call, r.vaa⟩ ∧ log = [q.call s.url] ∧
      (q.lost? = none ∧ status = .ok q.status ∨
        ∃ reason, q.lost? = some reason ∧ status = .error reason) := by
  rcases catches_status tx.hash h with ⟨hgives, hloses⟩ | ⟨reason, hmild, hgives, rfl⟩
  · obtain ⟨q, hq, hlog, rfl⟩ := gives_receipt (r := r) hgives
    refine ⟨q, hq, hlog, ?_⟩
    unfold Inquiry.status
    cases hreceipt : q.receipt with
    | ok receipt => exact .inl ⟨Inquiry.lost?_of_ok hreceipt, rfl⟩
    | error reason =>
      rw [hreceipt] at hloses
      exact .inr ⟨reason, Inquiry.lost?_of_error s.url hreceipt (hloses reason rfl), rfl⟩
  · obtain ⟨q, hq, hlog, hstatus⟩ := gives_receipt (r := r) hgives
    refine ⟨q, hq, hlog, .inl ?_⟩
    unfold Inquiry.status
    cases hreceipt : q.receipt with
    | ok receipt =>
      rw [hreceipt] at hstatus
      exact nomatch hstatus
    | error reason' =>
      rw [hreceipt] at hstatus
      obtain rfl : reason = reason' := Except.error.inj hstatus
      exact ⟨Inquiry.lost?_of_unread hreceipt hmild, rfl⟩

/-- The transactions of a block are gone through in order. -/
theorem candidatesOf_inquires {txs : List Transaction}
    (h : (s.candidatesOf number timestamp txs).Gives log result) :
    Inquires s number timestamp (redemptions s.methods txs) log result := by
  induction txs generalizing log result with
  | nil =>
    obtain ⟨rfl, rfl⟩ := Fetch.gives_pure.mp h
    have hnone : ([] : List Inquiry).map (·.redemption) = redemptions s.methods [] := rfl
    exact .all hnone (fun _ h => absurd h List.not_mem_nil) .nil
  | cons tx txs ih =>
    rw [candidatesOf] at h
    cases hredeeming : tx.redeeming? s.methods with
    | none =>
      rw [hredeeming] at h
      rw [redemptions_cons_of_none hredeeming]
      exact ih h
    | some r =>
      rw [hredeeming] at h
      rw [redemptions_cons_of_some hredeeming]
      rcases Fetch.gives_bind.mp h with
        ⟨reason, rfl, hstatus⟩ | ⟨status, first, rest, rfl, hstatus, hrest⟩
      · obtain ⟨q, hq, rfl, ⟨-, hok⟩ | ⟨reason', hlost, herror⟩⟩ := gives_status r hstatus
        · cases hok
        · obtain rfl : reason = reason' := Except.error.inj herror
          exact .first hq hlost
      · obtain ⟨q, hq, rfl, ⟨hhad, hok⟩ | ⟨reason', hlost, herror⟩⟩ := gives_status r hstatus
        · obtain rfl : status = q.status := Except.ok.inj hok
          have hyields := Inquiry.yields_candidate hq s.chainId number timestamp
          rw [← hq]
          rcases Fetch.gives_bind.mp hrest with
            ⟨reason, rfl, hothers⟩ | ⟨others, second, last, rfl, hothers, hlast⟩
          · exact (ih hothers).cons hhad hyields
          · obtain ⟨rfl, rfl⟩ := Fetch.gives_pure.mp hlast
            rw [List.append_nil]
            exact (ih hothers).cons hhad hyields
        · cases herror

/-! ## Failures -/

theorem heeds_status (hash : String) : (s.status hash).Heeds LosesReceipt (fun _ => False) := by
  have hcall : (statusOfReceipt <$> Endpoint.call s.url "eth_getTransactionReceipt"
      (.array [.string hash])).Heeds (fun _ => True) (fun _ => False) :=
    .map (.call ..)
  exact .catches (catches_status hash) hcall fun _ => False.elim

theorem heeds_candidatesOf (txs : List Transaction) :
    (s.candidatesOf number timestamp txs).Heeds LosesReceipt (fun _ => False) := by
  induction txs with
  | nil => exact .pure _
  | cons tx txs ih =>
    rw [candidatesOf]
    split
    · exact ih
    · exact .bind (heeds_status _) fun _ => .bind ih fun _ => .pure _

theorem heeds_extract (b : Block) :
    (s.extract b).Heeds (fun reason => reason.isTransient = true) (fun _ => True) := by
  have hloses : ∀ reason : FetchError, reason.isTransient = true → LosesReceipt reason := by
    intro reason htransient
    cases reason with
    | throttled text | remote text => trivial
    | decode text | cancelled => exact nomatch htransient
  unfold extract
  split
  · exact .throw trivial
  · exact (heeds_candidatesOf b.transactions).mono hloses fun _ _ => trivial

theorem heeds_block (n : UInt64) :
    (s.block n).Heeds (fun reason => reason.isTransient = true) (fun _ => True) := by
  have hcall : ∀ params, (Endpoint.call s.url "eth_getBlockByNumber" params).Heeds
      (fun reason => reason.isTransient = true) (fun _ => True) := by
    intro params
    have hheeds : (Endpoint.call s.url "eth_getBlockByNumber" params).Heeds
        (fun _ => True) (fun _ => True) := .call ..
    exact hheeds.mono (fun _ _ => trivial) fun _ _ => trivial
  refine .bind (hcall _) fun answer => ?_
  split
  · exact .throw trivial
  · dsimp only
    split
    · exact .pure _
    · exact .throw trivial

/-- A call that fails for a reason that may pass is the last one for its block, which fails for this
reason. -/
theorem heeds_candidates (n : UInt64) :
    (s.candidates n).Heeds (fun reason => reason.isTransient = true) (fun _ => True) :=
  .bind (heeds_block n) heeds_extract

/-- The reading of a block is one round. -/
theorem block_logs {n : UInt64} {pages : Terra.Pages}
    {out : Terra.Pages ⊕ Except FetchError (Option (List Candidate))}
    (h : ((RedemptionWatch.Source.evm s).block n pages).Logs log (.done out)) :
    ∃ result, (s.candidates n).Gives log result ∧ out = .inr (some <$> result) := by
  obtain ⟨outcome, first, rest, rfl, hfirst, hrest⟩ :=
    Plan.Logs.of_bind (p := ((RedemptionWatch.Source.evm s).readBlock n pages).run) h
  have hread : (s.candidates n >>= fun candidates => pure (.inr (some candidates)) :
      Fetch (Terra.Pages ⊕ Option (List Candidate))).Gives first outcome := hfirst
  rcases Fetch.gives_bind.mp hread with
    ⟨reason, rfl, hgives⟩ | ⟨cs, calls, last, rfl, hgives, hlast⟩
  · cases hrest
    exact ⟨.error reason, by rwa [List.append_nil], rfl⟩
  · obtain ⟨rfl, rfl⟩ := Fetch.gives_pure.mp hlast
    cases hrest
    exact ⟨.ok cs, by rwa [List.append_nil, List.append_nil], rfl⟩

end Source

/-! ## Attempts of a scan -/

/-- Does the request ask for a block? -/
def asksBlock : Watch.interface.Request → Bool
  | Watch.Request.block _ => true
  | _ => false

/-- An attempt at a block: what was asked of the endpoint for it, and the answer to the scan. -/
structure Attempt where
  number : UInt64
  calls : Log Endpoint.interface
  answer : Except FetchError (Option (List Candidate))

namespace Attempt

/-- The event of the attempt in the scan. -/
def event (a : Attempt) : Event Watch.interface :=
  ⟨Watch.Request.block a.number, a.answer⟩

/-- What the attempt found. -/
def candidates (a : Attempt) : List Candidate :=
  Watch.foundBy a.answer

/-- The answer is what the block was read as with these calls. -/
def Made (s : Source) (a : Attempt) : Prop :=
  ((RedemptionWatch.Source.evm s).block a.number).Logs (.done (.inl Terra.Pages.start)) a.calls
    (.done (.inr a.answer))

variable {a : Attempt} {attempts : List Attempt} {scanned : Log Watch.interface}

theorem Made.gives (h : a.Made s) :
    ∃ result, (s.candidates a.number).Gives a.calls result ∧ a.answer = some <$> result := by
  obtain ⟨pages, past, calls, hcalls, hpast, hlast⟩ := h.ended
  cases hpast with
  | start =>
    obtain ⟨result, hgives, hanswer⟩ := Source.block_logs hlast
    rw [hcalls, List.nil_append]
    exact ⟨result, hgives, Sum.inr.inj hanswer⟩
  | snoc _ hround =>
    obtain ⟨_, _, hout⟩ := Source.block_logs hround
    exact nomatch hout

/-- What was found block by block is what the attempts found. -/
theorem found_eq (h : scanned.filter (fun e => asksBlock e.request) = attempts.map event) :
    Watch.found scanned = attempts.flatMap candidates := by
  have hasked : Watch.found scanned =
      Watch.found (scanned.filter fun e => asksBlock e.request) := by
    clear h
    induction scanned with
    | nil => rfl
    | cons e scanned ih =>
      obtain ⟨q, answer⟩ := e
      cases q with
      | block number => exact congrArg (Watch.Request.found (.block number) answer ++ ·) ih
      | _ => exact ih
  rw [hasked, h, Watch.found, List.flatMap_map]
  refine List.flatMap_congr fun a _ => ?_
  unfold candidates event
  cases a.answer <;> rfl

end Attempt

namespace Source

/-- **The extraction of a block is exact, and all or nothing.** If the number of a block can be
read, the receipts of its redemptions are asked for one after the other, once each and no others.
If all can be had, the result is one candidate for each redemption, in order, with what the
redemption and its receipt say (`Inquiry.Yields`); otherwise it is the reason why the first one
could not be had. A scan hands to the store what its attempts found, in order and nothing else. An
attempt has found what the extraction of a block gave, and one with a call that failed for a reason
that may pass has failed for this reason and found nothing. -/
theorem extract_exact (s : Source) :
    (∀ (b : Block) (number : UInt64) (log : Log Endpoint.interface)
        (result : Except FetchError (List Candidate)),
      Text.Hex.uint64? b.number = some number → (s.extract b).Gives log result →
      Inquires s number (.ofSeconds ((Text.Hex.uint64? b.timestamp).getD 0))
        (redemptions s.methods b.transactions) log result) ∧
    (∀ (retry : RetryPolicy) (options : ScanOptions) (range : BlockRange)
        (scanned : Log Watch.interface) (rest : Watch.Act (Except WatchError ScanReport))
        (attempts : List Attempt), (BlockScan.scan retry options range).Logs scanned rest →
      (∀ a ∈ attempts, a.Made s) →
      scanned.filter (fun e => asksBlock e.request) = attempts.map Attempt.event →
      Watch.recorded scanned <+: attempts.flatMap Attempt.candidates ∧
        (∀ outcome, rest = .done outcome →
          Watch.recorded scanned = attempts.flatMap Attempt.candidates) ∧
        ∀ a ∈ attempts,
          (∀ found, a.answer = .ok found → ∃ b first calls, a.calls = first ++ calls ∧
            (s.block a.number).Gives first (.ok b) ∧
            (s.extract b).Gives calls (.ok a.candidates)) ∧
          ∀ e ∈ a.calls, ∀ reason, failure? e = some reason → reason.isTransient = true →
            a.answer = .error reason ∧ a.candidates = []) := by
  refine ⟨fun b number log result hnumber h => ?_,
    fun retry options range scanned rest attempts hscan hmade hattempts => ?_⟩
  · unfold extract at h
    rw [hnumber] at h
    exact candidatesOf_inquires h
  · obtain ⟨hhanded, hend⟩ := BlockScan.scan_recorded hscan
    rw [Attempt.found_eq hattempts] at hhanded hend
    refine ⟨hhanded, hend, fun a ha => ?_⟩
    obtain ⟨result, hgives, hanswer⟩ := (hmade a ha).gives
    unfold Attempt.candidates
    rw [hanswer]
    constructor
    · rintro found hfound
      cases result with
      | error reason => exact nomatch hfound
      | ok candidates =>
        obtain ⟨b, first, calls, hcalls, hblock, hextract⟩ := Fetch.gives_bind_ok.mp hgives
        exact ⟨b, first, calls, hcalls, hblock, hextract⟩
    · rintro e he reason hfailure htransient
      obtain ⟨before, after, hcalls⟩ := List.append_of_mem he
      obtain ⟨-, rfl⟩ := (heeds_candidates a.number).ends hgives hcalls hfailure htransient
      exact ⟨rfl, rfl⟩

/-- The sample transaction with this hash, and a receipt that states this word as the status. -/
def sampleStated (hash word : String) : Ankr.Receipted where
  toTransaction := { Ankr.sampleReceipted.toTransaction with hash }
  status := some word
  reply := Endpoint.replyOf (.object [("status", .string word)])
  states := ⟨.object [("status", .string word)], Endpoint.outcome_replyOf _ rfl, rfl⟩

/-- The sample transaction with another hash, and no receipt yet. -/
def samplePending : Ankr.Receipted where
  toTransaction := { Ankr.sampleReceipted.toTransaction with hash := "0xDD" }
  status := none
  reply := Endpoint.replyOf .null
  states := ⟨.null, Endpoint.outcome_replyOf _ (by decide), rfl⟩

/-- A block of five transactions. The second one creates a contract, and the fourth one is a tracked
call whose calldata carry no attestation. -/
def sampleReceipts : List Ankr.Receipted :=
  [sampleStated "0xaa" "0x1", { sampleStated "0xbb" "0x1" with target := none },
    sampleStated "0xCC" "0x0", { sampleStated "0xcd" "0x1" with input := "0xc6878519" },
    samplePending]

def sampleBlock : Block :=
  ⟨"0x96", "0x10", sampleReceipts.map Ankr.Receipted.toTransaction⟩

/-- What comes of it. -/
def sampleFound : List Candidate :=
  [{ Ankr.Source.sampleCandidate with timestamp := .ofSeconds 16 },
    { Ankr.Source.sampleCandidate with
      timestamp := .ofSeconds 16, txHash := "0xcc", status := .failed },
    { Ankr.Source.sampleCandidate with
      timestamp := .ofSeconds 16, txHash := "0xdd", status := .unknown }]

theorem redeeming?_sampleStated (hash word : String) :
    (sampleStated hash word).redeeming? Ankr.sampleEvmSource.methods =
      some Ankr.Source.sampleRedeeming := by
  have htarget : (sampleStated hash word).target = Ankr.sampleReceipted.target := rfl
  have hinput : (sampleStated hash word).input = Ankr.sampleReceipted.input := rfl
  rw [Transaction.redeeming?_congr htarget hinput]
  exact Ankr.redeeming?_sampleReceipted

theorem redeeming?_samplePending :
    samplePending.redeeming? Ankr.sampleEvmSource.methods = some Ankr.Source.sampleRedeeming := by
  have htarget : samplePending.target = Ankr.sampleReceipted.target := rfl
  have hinput : samplePending.input = Ankr.sampleReceipted.input := rfl
  rw [Transaction.redeeming?_congr htarget hinput]
  exact Ankr.redeeming?_sampleReceipted

/-- No method is called where there is no target. -/
theorem redeeming?_sampleCreation :
    ({ sampleStated "0xbb" "0x1" with target := none } : Ankr.Receipted).redeeming?
      Ankr.sampleEvmSource.methods = none :=
  rfl

theorem redeeming?_sampleBare :
    ({ sampleStated "0xcd" "0x1" with input := "0xc6878519" } : Ankr.Receipted).redeeming?
      Ankr.sampleEvmSource.methods = none := by
  decide +kernel

theorem gives_sampleBlock : (Ankr.sampleEvmSource.extract sampleBlock).Gives
    [(sampleStated "0xaa" "0x1").call Ankr.sampleEvmSource.url,
      (sampleStated "0xCC" "0x0").call Ankr.sampleEvmSource.url,
      samplePending.call Ankr.sampleEvmSource.url] (.ok sampleFound) := by
  have hn : Text.Hex.uint64? sampleBlock.number = some 150 := by decide +kernel
  have hseconds : Text.Hex.uint64? sampleBlock.timestamp = some 16 := by decide +kernel
  unfold extract
  rw [hn, hseconds]
  exact Ankr.Receipted.gives_candidatesOf_cons_of_some (redeeming?_sampleStated "0xaa" "0x1") <|
    Ankr.Receipted.gives_candidatesOf_cons_of_none redeeming?_sampleCreation <|
    Ankr.Receipted.gives_candidatesOf_cons_of_some (redeeming?_sampleStated "0xCC" "0x0") <|
    Ankr.Receipted.gives_candidatesOf_cons_of_none redeeming?_sampleBare <|
    Ankr.Receipted.gives_candidatesOf_cons_of_some redeeming?_samplePending <|
    Fetch.gives_pure.mpr ⟨rfl, rfl⟩

theorem redemptions_sampleBlock :
    redemptions Ankr.sampleEvmSource.methods sampleBlock.transactions =
      [sampleStated "0xaa" "0x1", sampleStated "0xCC" "0x0", samplePending].map fun tx =>
        ⟨tx.toTransaction, Ankr.Source.sampleRedeeming.call, Ankr.Source.sampleRedeeming.vaa⟩ := by
  change redemptions _ [_, _, _, _, _] = _
  rw [redemptions_cons_of_some (redeeming?_sampleStated "0xaa" "0x1"),
    redemptions_cons_of_none redeeming?_sampleCreation,
    redemptions_cons_of_some (redeeming?_sampleStated "0xCC" "0x0"),
    redemptions_cons_of_none redeeming?_sampleBare,
    redemptions_cons_of_some redeeming?_samplePending]
  rfl

/-- The connection breaks when the receipt of the first redemption is asked for. -/
def lostInquiry : Inquiry :=
  ⟨⟨(sampleStated "0xaa" "0x1").toTransaction, Ankr.Source.sampleRedeeming.call,
    Ankr.Source.sampleVaa⟩, .lost⟩

/-- The connection breaks when block 150 is asked for. -/
def lostAttempt : Attempt where
  number := 150
  calls := [⟨.post Ankr.sampleEvmSource.url "eth_getBlockByNumber"
    (.array [.string "0x96", .bool true]), .lost⟩]
  answer := .error (.remote "eth_getBlockByNumber")

/-- A scan of block 150 that asks for it once. -/
def lostScan : Log Watch.interface :=
  [⟨Watch.Request.isCancelled, false⟩, lostAttempt.event]

theorem gives_lostInquiry :
    (Ankr.sampleEvmSource.extract sampleBlock).Gives
      [lostInquiry.call Ankr.sampleEvmSource.url]
      (.error (.remote "eth_getTransactionReceipt")) := by
  have hn : Text.Hex.uint64? sampleBlock.number = some 150 := by decide +kernel
  unfold extract
  rw [hn]
  change (candidatesOf _ _ _ (_ :: _)).Gives _ _
  rw [candidatesOf, redeeming?_sampleStated "0xaa" "0x1"]
  exact .ask (.nil _)

theorem made_lostAttempt : lostAttempt.Made Ankr.sampleEvmSource :=
  .round (.ask (.nil _))

theorem logs_lostScan :
    (BlockScan.scan ⟨1, 0⟩ ⟨10, false, false⟩ ⟨150, 150⟩).Logs lostScan
      (.done (.ok { ScanReport.start ⟨150, 150⟩ with
        blocksSkipped := 1, lastBlock := some 150, complete := true })) :=
  .ask (.ask (.nil _))

/-- The block has three redemptions, one that took effect, one that failed and one without a
receipt. If the connection breaks at the first receipt, nothing is found; if it breaks when the
block is asked for, nothing is handed to the store. -/
theorem extract_exact_samples :
    (redemptions Ankr.sampleEvmSource.methods sampleBlock.transactions).map (·.tx.hash) =
      ["0xaa", "0xCC", "0xDD"] ∧
    sampleFound.map (·.status) = [.confirmed, .failed, .unknown] ∧
    Inquires Ankr.sampleEvmSource 150 (.ofSeconds 16)
      (redemptions Ankr.sampleEvmSource.methods sampleBlock.transactions)
      [(sampleStated "0xaa" "0x1").call Ankr.sampleEvmSource.url,
        (sampleStated "0xCC" "0x0").call Ankr.sampleEvmSource.url,
        samplePending.call Ankr.sampleEvmSource.url] (.ok sampleFound) ∧
    Inquires Ankr.sampleEvmSource 150 (.ofSeconds 16)
      (redemptions Ankr.sampleEvmSource.methods sampleBlock.transactions)
      [lostInquiry.call Ankr.sampleEvmSource.url] (.error (.remote "eth_getTransactionReceipt")) ∧
    Watch.recorded lostScan = [lostAttempt].flatMap Attempt.candidates ∧
    lostAttempt.answer = .error (.remote "eth_getBlockByNumber") := by
  have hn : Text.Hex.uint64? sampleBlock.number = some 150 := by decide +kernel
  have hseconds : Text.Hex.uint64? sampleBlock.timestamp = some 16 := by decide +kernel
  obtain ⟨hblock, hscan⟩ := extract_exact Ankr.sampleEvmSource
  have hfound := hblock sampleBlock 150 _ _ hn gives_sampleBlock
  have hlost := hblock sampleBlock 150 _ _ hn gives_lostInquiry
  rw [hseconds] at hfound hlost
  obtain ⟨-, hend, hattempts⟩ := hscan _ _ _ _ _ [lostAttempt] logs_lostScan
    (by simpa using made_lostAttempt) rfl
  obtain ⟨-, hfails⟩ := hattempts lostAttempt List.mem_cons_self
  refine ⟨?_, rfl, hfound, hlost, hend _ rfl, (hfails _ List.mem_cons_self _ rfl rfl).1⟩
  rw [redemptions_sampleBlock]
  rfl

end Source

end RedemptionWatch.Evm
