import RedemptionWatch.Evm.Source
import RedemptionWatch.Proofs.Ankr.Coverage
import RedemptionWatch.Proofs.Endpoint.FetchLog

/-!
# The aggregator agrees with the receipts

There are two ways to the redemptions of a block: to ask for the receipt of each redeeming
transaction (`Evm.Source.extract`), or to read the transactions as the aggregator lists them, each
with its status (`Page.activity`). `Receipted` is a transaction of which both ways are told the same
status. Over all such transactions the two ways come to the same candidates, in the same order
(`extract_eq_activity`).

Both ways keep a transaction if it redeems, so they can be compared one by one: a transaction that
does not redeem costs no request and lists no candidate (`Receipted.candidate?_listed_of_none`), one
that does costs the request for its receipt, also if another one has the same hash
(`Receipted.gives_candidatesOf`).
-/

namespace RedemptionWatch.Ankr

open Endpoint (Fetch Reply)

/-- The reply to the request for a receipt states this status, or none if it is absent. -/
def StatesStatus (reply : Reply) (status : Option String) : Prop :=
  ∃ receipt, Endpoint.outcome "eth_getTransactionReceipt" reply = .ok receipt ∧
    (receipt.get? "status").bind Json.string? = status

/-- A transaction with its status and a receipt that states it. -/
structure Receipted extends Evm.Transaction where
  status : Option String
  reply : Reply
  states : StatesStatus reply status

namespace Receipted

/-- The transaction as the aggregator lists it in a block of this number and time. -/
def listed (number timestamp : String) (tx : Receipted) : Transaction :=
  { tx.toTransaction with
    blockNumber := number, status := tx.status, timestamp := some timestamp }

/-- The request for the receipt, and its reply. -/
def call (url : Url) (tx : Receipted) : Event Endpoint.interface :=
  ⟨.post url "eth_getTransactionReceipt" (.array [.string tx.hash]), tx.reply⟩

/-- Is the transaction a redemption by these methods? -/
def isRedeeming (methods : Evm.MethodTable) (tx : Receipted) : Bool :=
  (tx.redeeming? methods).isSome

variable {s : Evm.Source} {n : UInt64} {tx : Receipted} {r : Evm.Redeeming} {number : String}

theorem candidate?_listed_of_none (timestamp : String) (chainId : ChainId)
    (h : tx.redeeming? s.methods = none) :
    (tx.listed number timestamp).candidate? chainId s.methods = none := by
  have hlisted : (tx.listed number timestamp).redeeming? s.methods = none := h
  unfold Transaction.candidate?
  rw [hlisted]
  cases (tx.listed number timestamp).block? <;> rfl

theorem candidate?_listed (timestamp : String) (hn : Text.Hex.uint64? number = some n)
    (h : tx.redeeming? s.methods = some r) :
    (tx.listed number timestamp).candidate? s.chainId s.methods =
      some (r.candidate tx.toTransaction s.chainId n
        (.ofSeconds ((Text.Hex.uint64? timestamp).getD 0)) (Evm.statusOfWord tx.status)) := by
  have hlisted : (tx.listed number timestamp).redeeming? s.methods = some r := h
  have hblock : (tx.listed number timestamp).block? = some n := hn
  unfold Transaction.candidate?
  rw [hlisted, hblock]
  rfl

/-- The receipt is asked for, and gives the status that it states. -/
theorem gives_status (s : Evm.Source) (tx : Receipted) :
    (s.status tx.hash).Gives [tx.call s.url] (.ok (Evm.statusOfWord tx.status)) := by
  obtain ⟨receipt, hreceipt, hstatus⟩ := tx.states
  have hcall : (Endpoint.call s.url "eth_getTransactionReceipt" (.array [.string tx.hash])).Gives
      [tx.call s.url] (.ok receipt) :=
    Fetch.gives_call.mpr ⟨tx.reply, rfl, hreceipt.symm⟩
  have hreads : Evm.statusOfReceipt receipt = Evm.statusOfWord tx.status :=
    congrArg Evm.statusOfWord hstatus
  refine Fetch.gives_tryCatch.mpr (Or.inl ⟨_, rfl, Fetch.gives_map.mpr ⟨.ok receipt, hcall, ?_⟩⟩)
  rw [← hreads]
  rfl

section

variable {t : Timestamp} {txs : List Evm.Transaction} {log : Log Endpoint.interface}

/-- A transaction that does not redeem costs nothing. -/
theorem gives_candidatesOf_cons_of_none {first : Evm.Transaction}
    {result : Except FetchError (List Candidate)} (h : first.redeeming? s.methods = none)
    (hrest : (s.candidatesOf n t txs).Gives log result) :
    (s.candidatesOf n t (first :: txs)).Gives log result := by
  rw [Evm.Source.candidatesOf, h]
  exact hrest

/-- A redemption costs the request for its receipt, and is a candidate with the status that this
states. -/
theorem gives_candidatesOf_cons_of_some {cs : List Candidate}
    (h : tx.redeeming? s.methods = some r) (hrest : (s.candidatesOf n t txs).Gives log (.ok cs)) :
    (s.candidatesOf n t (tx.toTransaction :: txs)).Gives (tx.call s.url :: log)
      (.ok (r.candidate tx.toTransaction s.chainId n t (Evm.statusOfWord tx.status) :: cs)) := by
  rw [Evm.Source.candidatesOf, h]
  exact Fetch.gives_bind_ok.mpr ⟨_, [_], _, rfl, gives_status s tx,
    Fetch.gives_bind_ok.mpr ⟨_, _, [], (List.append_nil _).symm, hrest,
      Fetch.gives_pure.mpr ⟨rfl, rfl⟩⟩⟩

end

/-- Over the transactions of a block, the receipts of the redemptions are asked for, in order, and
what they state goes into the same candidates that the aggregator gives. -/
theorem gives_candidatesOf (s : Evm.Source) (timestamp : String)
    (hn : Text.Hex.uint64? number = some n) (txs : List Receipted) :
    (s.candidatesOf n (.ofSeconds ((Text.Hex.uint64? timestamp).getD 0))
      (txs.map Receipted.toTransaction)).Gives
      ((txs.filter (isRedeeming s.methods)).map (call s.url))
      (.ok ((txs.map (listed number timestamp)).filterMap
        (Transaction.candidate? s.chainId s.methods))) := by
  induction txs with
  | nil => exact Fetch.gives_pure.mpr ⟨rfl, rfl⟩
  | cons tx txs ih =>
    cases h : tx.redeeming? s.methods with
    | none =>
      have hskip : ¬isRedeeming s.methods tx := by simp [isRedeeming, h]
      rw [List.map_cons, List.map_cons, List.filter_cons_of_neg hskip,
        List.filterMap_cons_none (candidate?_listed_of_none timestamp s.chainId h)]
      exact gives_candidatesOf_cons_of_none h ih
    | some r =>
      have hkeep : isRedeeming s.methods tx := by simp [isRedeeming, h]
      rw [List.map_cons, List.map_cons, List.filter_cons_of_pos hkeep,
        List.filterMap_cons_some (candidate?_listed timestamp hn h), List.map_cons]
      exact gives_candidatesOf_cons_of_some h ih

end Receipted

/-- **The aggregator and the receipts agree.** Let the transactions of a block, whose number can be
read, be listed by the aggregator with the status that their receipts state. Then the extraction by
receipts comes to the candidates of the aggregator's page, one for one and in the same order, and to
nothing else. -/
theorem extract_eq_activity (s : Evm.Source) (txs : List Receipted) (number timestamp : String)
    (token : Option String) (hnumber : (Text.Hex.uint64? number).isSome)
    (result : Except FetchError (List Candidate)) :
    (s.extract ⟨number, timestamp, txs.map Receipted.toTransaction⟩).Gives
        ((txs.filter (Receipted.isRedeeming s.methods)).map (Receipted.call s.url)) result ↔
      result = .ok (Page.activity s.chainId s.methods
        ⟨txs.map (Receipted.listed number timestamp), token⟩).candidates := by
  obtain ⟨n, hn⟩ := Option.isSome_iff_exists.mp hnumber
  have hgives := Receipted.gives_candidatesOf s timestamp hn txs
  unfold Evm.Source.extract
  rw [hn]
  constructor
  · intro h
    exact Plan.done.inj (Plan.Logs.unique h hgives)
  · rintro rfl
    exact hgives

/-- The receipt of a transaction that has taken effect. -/
def sampleReceipt : Json :=
  .object [("status", .string "0x1")]

/-- The sample transaction with that receipt. -/
def sampleReceipted : Receipted where
  toTransaction := Source.sampleTransaction.toTransaction
  status := some "0x1"
  reply := Endpoint.replyOf sampleReceipt
  states := ⟨sampleReceipt, Endpoint.outcome_replyOf _ (by decide), rfl⟩

/-- The same token bridge, with its endpoint in place of the aggregator. -/
def sampleEvmSource : Evm.Source :=
  ⟨⟨2⟩, Source.sampleSource.url, Source.sampleSource.methods⟩

theorem redeeming?_sampleReceipted :
    sampleReceipted.redeeming? sampleEvmSource.methods = some Source.sampleRedeeming :=
  Source.redeeming?_sampleTransaction

theorem isRedeeming_sampleReceipted : sampleReceipted.isRedeeming sampleEvmSource.methods := by
  rw [Receipted.isRedeeming, redeeming?_sampleReceipted]
  rfl

theorem candidate?_sampleReceipted :
    (sampleReceipted.listed "0x96" "0x10").candidate? sampleEvmSource.chainId
      sampleEvmSource.methods = some { Source.sampleCandidate with timestamp := .ofSeconds 16 } := by
  have hn : Text.Hex.uint64? "0x96" = some 150 := by decide +kernel
  have hseconds : Text.Hex.uint64? "0x10" = some 16 := by decide +kernel
  rw [Receipted.candidate?_listed "0x10" hn redeeming?_sampleReceipted, hseconds]
  rfl

theorem extract_eq_activity_sampleReceipted :
    (Text.Hex.uint64? "0x96").isSome ∧
    (sampleEvmSource.extract ⟨"0x96", "0x10", [sampleReceipted.toTransaction]⟩).Gives
      [sampleReceipted.call sampleEvmSource.url]
      (.ok [{ Source.sampleCandidate with timestamp := .ofSeconds 16 }]) := by
  have hn : (Text.Hex.uint64? "0x96").isSome := by decide +kernel
  have hagree := extract_eq_activity sampleEvmSource [sampleReceipted] "0x96" "0x10" none hn
    (.ok [{ Source.sampleCandidate with timestamp := .ofSeconds 16 }])
  rw [List.filter_cons_of_pos isRedeeming_sampleReceipted] at hagree
  refine ⟨hn, hagree.mpr (congrArg Except.ok ?_)⟩
  unfold Page.activity
  rw [List.map_cons, List.map_nil, List.filterMap_cons_some candidate?_sampleReceipted,
    List.filterMap_nil]

end RedemptionWatch.Ankr
