import RedemptionWatch.Proofs.Ankr.Coverage
import RedemptionWatch.Proofs.Endpoint.FetchLog
import RedemptionWatch.Proofs.Evm.Extraction
import RedemptionWatch.Proofs.Watch.ListingEnd

/-!
# Pages of the aggregator, transaction by transaction

What a page says is put together from what its transactions say, one by one. The candidates of
transactions in a row are those of the first ones and then those of the others, and the highest
block is the higher one of both (`Page.candidates_append`, `Page.highest_append`). As
`Listing.higher` is associative and commutative, the highest block does not depend on the order of
the transactions (`Page.highest_perm`).

The block of a transaction counts before it is known whether the transaction redeems anything. So
the highest block is that of all transactions whose block number is a number
(`Page.highest_eq_some_iff`), and no candidate lies above it (`Page.exists_highest_of_candidate`).
When a scan by listings moves its cursor, it is to the highest block of all its pages
(`Listing.recorded_of_moves`), so not below any candidate that it has handed to the store
(`Source.le_of_recorded`).
-/

namespace RedemptionWatch

open Watch (interface)

attribute [ext] ActivityPage

/-! ## The higher one of two blocks -/

namespace Listing

theorem higher_none (m : Option UInt64) : higher m none = m := by
  cases m <;> rfl

theorem higher_comm (m n : Option UInt64) : higher m n = higher n m := by
  rcases m with _ | a <;> rcases n with _ | b
  · rfl
  · rfl
  · rfl
  · refine congrArg some (UInt64.toNat_inj.mp ?_)
    rw [BlockRange.toNat_max, BlockRange.toNat_max, Nat.max_comm]

theorem higher_assoc (l m n : Option UInt64) : higher (higher l m) n = higher l (higher m n) := by
  rcases l with _ | a <;> rcases m with _ | b <;> rcases n with _ | c
  case some.some.some =>
    refine congrArg some (UInt64.toNat_inj.mp ?_)
    simp only [BlockRange.toNat_max, Nat.max_assoc]
  all_goals rfl

instance : Std.Commutative higher := ⟨higher_comm⟩

instance : Std.Associative higher := ⟨higher_assoc⟩

end Listing

namespace Ankr

open Listing (higher)

theorem highest?_append (ms ns : List UInt64) :
    highest? (ms ++ ns) = higher (highest? ms) (highest? ns) := by
  simp only [highest?_eq_foldl]
  calc (List.map some (ms ++ ns)).foldl higher none
      = (ns.map some).foldl higher (higher ((ms.map some).foldl higher none) none) := by
        rw [List.map_append, List.foldl_append, Listing.higher_none]
    _ = higher ((ms.map some).foldl higher none) ((ns.map some).foldl higher none) :=
        List.foldl_assoc

theorem highest?_perm {ms ns : List UInt64} (h : ms.Perm ns) : highest? ms = highest? ns := by
  rw [highest?_eq_foldl, highest?_eq_foldl]
  exact (h.map some).foldl_op_eq

theorem highest?_eq_some_iff {ns : List UInt64} {b : UInt64} :
    highest? ns = some b ↔ b ∈ ns ∧ ∀ n ∈ ns, n ≤ b := by
  rw [highest?_eq_foldl]
  have hmem : ∀ {n : UInt64}, some n ∈ ns.map some ↔ n ∈ ns :=
    List.mem_map_of_injective (Option.some_injective UInt64)
  constructor
  · intro h
    refine ⟨hmem.mp (Listing.mem_of_foldl_higher h), fun n hn => ?_⟩
    obtain ⟨a, ha, hle⟩ := Listing.le_foldl_higher (hmem.mpr hn)
    obtain rfl := Option.some_inj.mp (h.symm.trans ha)
    exact hle
  · rintro ⟨hb, hle⟩
    obtain ⟨a, ha, hba⟩ := Listing.le_foldl_higher (hmem.mpr hb)
    have hab : a ≤ b := hle a (hmem.mp (Listing.mem_of_foldl_higher ha))
    rw [UInt64.le_antisymm hba hab]
    exact ha

theorem highest?_eq_none_iff {ns : List UInt64} : highest? ns = none ↔ ns = [] := by
  constructor
  · intro h
    refine List.eq_nil_iff_forall_not_mem.mpr fun n hn => ?_
    obtain ⟨a, ha, -⟩ := Listing.le_foldl_higher (List.mem_map_of_mem (f := some) hn)
    rw [← highest?_eq_foldl, h] at ha
    exact nomatch ha
  · rintro rfl
    rfl

/-! ## Transactions -/

variable {chainId : ChainId} {methods : Evm.MethodTable}

namespace Transaction

variable {tx : Transaction} {c : Candidate}

/-- A candidate is a transaction that redeems, in a block whose number is a number. -/
theorem candidate?_eq_some_iff : tx.candidate? chainId methods = some c ↔
    ∃ b r, tx.block? = some b ∧ tx.redeeming? methods = some r ∧
      r.candidate tx.toTransaction chainId b
        (.ofSeconds ((tx.timestamp.bind Text.Hex.uint64?).getD 0))
        (Evm.statusOfWord tx.status) = c := by
  unfold candidate?
  simp only [Option.bind_eq_bind, Option.bind_eq_some_iff, Option.pure_def, Option.some.injEq]
  constructor
  · rintro ⟨b, hb, r, hr, hc⟩
    exact ⟨b, r, hb, hr, hc⟩
  · rintro ⟨b, r, hb, hr, hc⟩
    exact ⟨b, hb, r, hr, hc⟩

/-- A candidate has the block of its transaction. -/
theorem block?_of_candidate? (h : tx.candidate? chainId methods = some c) :
    tx.block? = some c.blockNumber := by
  obtain ⟨b, r, hb, -, rfl⟩ := candidate?_eq_some_iff.mp h
  exact hb

/-- There are three things that can keep a transaction from being a candidate: its block number, the
method that it calls, and its calldata. -/
theorem isSome_candidate?_iff : (tx.candidate? chainId methods).isSome ↔ tx.block?.isSome ∧
    (Evm.matchCall? methods tx.target tx.input).isSome ∧
      ∃ vaa, Evm.Calldata.vaaOfText tx.input = .ok vaa := by
  simp only [Option.isSome_iff_exists]
  constructor
  · rintro ⟨c, hc⟩
    obtain ⟨b, r, hb, hr, -⟩ := candidate?_eq_some_iff.mp hc
    obtain ⟨hcall, hvaa⟩ := Evm.Transaction.redeeming?_eq_some_iff.mp hr
    exact ⟨⟨b, hb⟩, ⟨r.call, hcall⟩, r.vaa, hvaa⟩
  · rintro ⟨⟨b, hb⟩, ⟨call, hcall⟩, vaa, hvaa⟩
    have hr : tx.redeeming? methods = some ⟨call, vaa⟩ :=
      Evm.Transaction.redeeming?_eq_some_iff.mpr ⟨hcall, hvaa⟩
    exact ⟨_, candidate?_eq_some_iff.mpr ⟨b, _, hb, hr, rfl⟩⟩

/-- The transaction cannot be read: its block number is no number, or its calldata carry no
attestation. -/
def IsUnreadable (tx : Transaction) : Prop :=
  tx.block? = none ∨ ∃ reason, Evm.Calldata.vaaOfText tx.input = .error reason

theorem IsUnreadable.candidate?_eq_none (h : tx.IsUnreadable) :
    tx.candidate? chainId methods = none := by
  rw [← Option.not_isSome_iff_eq_none, isSome_candidate?_iff]
  rintro ⟨hblock, -, vaa, hvaa⟩
  rcases h with hnone | ⟨reason, hreason⟩
  · rw [hnone] at hblock
    exact nomatch hblock
  · exact nomatch hreason.symm.trans hvaa

end Transaction

/-! ## Pages -/

namespace Page

variable {p q : Page} {b : UInt64} {tx : Transaction}

theorem candidates_singleton (tx : Transaction) (token : Option String) :
    (activity chainId methods ⟨[tx], token⟩).candidates =
      (tx.candidate? chainId methods).toList := by
  cases h : tx.candidate? chainId methods with
  | none => exact List.filterMap_cons_none h
  | some c => exact List.filterMap_cons_some h

theorem highest_singleton (tx : Transaction) (token : Option String) :
    (activity chainId methods ⟨[tx], token⟩).highest = tx.block? := by
  cases h : tx.block? with
  | none => exact congrArg highest? (List.filterMap_cons_none h)
  | some b => exact congrArg highest? (List.filterMap_cons_some h)

theorem candidates_append (xs ys : List Transaction) (token before after : Option String) :
    (activity chainId methods ⟨xs ++ ys, token⟩).candidates =
      (activity chainId methods ⟨xs, before⟩).candidates ++
        (activity chainId methods ⟨ys, after⟩).candidates :=
  List.filterMap_append

theorem highest_append (xs ys : List Transaction) (token before after : Option String) :
    (activity chainId methods ⟨xs ++ ys, token⟩).highest =
      higher (activity chainId methods ⟨xs, before⟩).highest
        (activity chainId methods ⟨ys, after⟩).highest :=
  (congrArg highest? List.filterMap_append).trans (highest?_append _ _)

/-- The highest block of a page is that of one of its transactions, and no other one is higher. -/
theorem highest_eq_some_iff : (p.activity chainId methods).highest = some b ↔
    (∃ tx ∈ p.transactions, tx.block? = some b) ∧
      ∀ tx ∈ p.transactions, ∀ n ∈ tx.block?, n ≤ b := by
  unfold activity
  rw [highest?_eq_some_iff, List.mem_filterMap]
  refine and_congr_right fun _ => ⟨fun h tx htx n hn => ?_, fun h n hn => ?_⟩
  · exact h n (List.mem_filterMap.mpr ⟨tx, htx, hn⟩)
  · obtain ⟨tx, htx, hblock⟩ := List.mem_filterMap.mp hn
    exact h tx htx n hblock

/-- There is none if the block number of no transaction is a number. -/
theorem highest_eq_none_iff : (p.activity chainId methods).highest = none ↔
    ∀ tx ∈ p.transactions, tx.block? = none := by
  unfold activity
  rw [highest?_eq_none_iff, List.filterMap_eq_nil_iff]

/-- It does not depend on the order of the transactions. -/
theorem highest_perm (h : p.transactions.Perm q.transactions) :
    (p.activity chainId methods).highest = (q.activity chainId methods).highest :=
  highest?_perm (h.filterMap _)

/-- No candidate of a page lies above its highest block. -/
theorem exists_highest_of_candidate {c : Candidate}
    (hc : c ∈ (p.activity chainId methods).candidates) :
    ∃ b ∈ (p.activity chainId methods).highest, c.blockNumber ≤ b := by
  obtain ⟨tx, htx, hcandidate⟩ := List.mem_filterMap.mp hc
  have hblock := Transaction.block?_of_candidate? hcandidate
  cases hhighest : (p.activity chainId methods).highest with
  | none => exact nomatch hblock.symm.trans (highest_eq_none_iff.mp hhighest tx htx)
  | some b => exact ⟨b, rfl, (highest_eq_some_iff.mp hhighest).2 tx htx _ hblock⟩

/-- The block of a transaction counts wherever it is listed, and whatever else is known of it. -/
theorem highest_insert (tx : Transaction) (xs ys : List Transaction) (token : Option String) :
    (activity chainId methods ⟨xs ++ tx :: ys, token⟩).highest =
      higher (activity chainId methods ⟨xs ++ ys, token⟩).highest tx.block? := by
  have hperm : (xs ++ tx :: ys).Perm (xs ++ ys ++ [tx]) :=
    List.perm_middle.trans (List.perm_append_singleton tx (xs ++ ys)).symm
  calc (activity chainId methods ⟨xs ++ tx :: ys, token⟩).highest
      = (activity chainId methods ⟨xs ++ ys ++ [tx], token⟩).highest := highest_perm hperm
    _ = higher (activity chainId methods ⟨xs ++ ys, token⟩).highest tx.block? := by
        rw [highest_append (xs ++ ys) [tx] token token token, highest_singleton]

/-- A transaction that cannot be read leaves the other candidates as they are. -/
theorem candidates_insert (h : tx.IsUnreadable) (xs ys : List Transaction)
    (token : Option String) : (activity chainId methods ⟨xs ++ tx :: ys, token⟩).candidates =
      (activity chainId methods ⟨xs ++ ys, token⟩).candidates := by
  rw [candidates_append xs (tx :: ys) token token token,
    candidates_append xs ys token token token]
  exact congrArg _ (List.filterMap_cons_none h.candidate?_eq_none)

end Page

/-! ## Scans -/

namespace Source

variable {s : Source} {range : BlockRange} {token : Option String} {calls : Log Endpoint.interface}
  {activity : ActivityPage} {log : Log interface}

/-- What the source gets is a page that a reply holds. -/
theorem exists_page_of_gives (h : (s.activity range token).Gives calls (.ok activity)) :
    ∃ page : Page, activity = page.activity s.chainId s.methods := by
  obtain ⟨answer, _, _, -, -, hpage⟩ := Endpoint.Fetch.gives_bind_ok.mp h
  split at hpage
  · exact ⟨_, Except.ok.inj (Endpoint.Fetch.gives_pure.mp hpage).2⟩
  · exact nomatch (Endpoint.Fetch.gives_throw.mp hpage).2

/-- A reply that holds a page gives it. -/
theorem gives_activity {reply : Endpoint.Reply} {page : Page} (h : Holds reply page) :
    (s.activity range token).Gives
      [⟨.post s.url "ankr_getTransactionsByAddress" (s.parameters range token), reply⟩]
      (.ok (page.activity s.chainId s.methods)) := by
  obtain ⟨answer, hreply, hpage⟩ := h
  have houtcome : Endpoint.outcome "ankr_getTransactionsByAddress" reply = .ok answer := by
    unfold Endpoint.outcome
    rw [hreply]
  refine Endpoint.Fetch.gives_bind_ok.mpr ⟨answer, _, [], (List.append_nil _).symm,
    Endpoint.Fetch.gives_call.mpr ⟨reply, rfl, houtcome.symm⟩, ?_⟩
  rw [hpage]
  exact Endpoint.Fetch.gives_pure.mpr ⟨rfl, rfl⟩

/-- Every page that is answered is what the source comes to by some replies. A request for a page
may also fail, for whatever reason. -/
def Answers (s : Source) (log : Log interface) : Prop :=
  ∀ range token activity, (⟨.activity range token, .ok activity⟩ : Event interface) ∈ log →
    ∃ calls, (s.activity range token).Gives calls (.ok activity)

theorem Answers.exists_page (h : s.Answers log) (hactivity : activity ∈ Watch.listed log) :
    ∃ page : Page, activity = page.activity s.chainId s.methods := by
  obtain ⟨⟨q, a⟩, he, hlisted⟩ := List.mem_filterMap.mp hactivity
  split at hlisted
  case h_1 heq =>
    cases heq
    obtain rfl := Option.some_inj.mp hlisted
    obtain ⟨calls, hgives⟩ := h _ _ _ he
    exact exists_page_of_gives hgives
  case h_2 => exact nomatch hlisted

variable {retry : RetryPolicy} {options : ScanOptions} {block : UInt64} {c : Candidate}
  {p : Watch.Act (Listing ⊕ Except WatchError ScanReport)}

/-- A scan moves its cursor no lower than to the block of any candidate that it has handed to the
store. -/
theorem le_of_recorded
    (h : Loop.Logs (Listing.next retry options) (.done (.inl (.start range))) log p)
    (hanswers : s.Answers log) (hblock : block ∈ Watch.moves log) (hc : c ∈ Watch.recorded log) :
    c.blockNumber ≤ block := by
  obtain ⟨hrecorded, hhighest⟩ := Listing.recorded_of_moves h hblock
  rw [hrecorded] at hc
  obtain ⟨activity, hactivity, hc⟩ := List.mem_flatMap.mp hc
  obtain ⟨page, rfl⟩ := hanswers.exists_page hactivity
  obtain ⟨b, hb, hle⟩ := Page.exists_highest_of_candidate hc
  rcases hhighest with ⟨-, hlower⟩ | ⟨hnone, -⟩
  · exact UInt64.le_trans hle (hlower _ hactivity b hb)
  · exact nomatch (hnone _ hactivity).symm.trans hb

end Source

/-- **Pages are put together transaction by transaction.**

* A transaction by itself is a candidate if its block number is a number, it calls a tracked method,
  and its calldata carry an attestation. Its block counts whatever it calls.
* The candidates of transactions in a row are those of the first ones and then those of the others,
  and the highest block is the higher one of both.
* The highest block is the highest one of all transactions whose block number is a number, be they
  candidates or not. There is none if there is no such transaction. It does not depend on the order
  in which the transactions are listed, and no candidate lies above it.
* A transaction that cannot be read leaves out itself only.
* A scan by listings, whatever the source is answered, moves its cursor no lower than to the block
  of any candidate that it has handed to the store. -/
theorem pages_compose (chainId : ChainId) (methods : Evm.MethodTable) :
    (∀ tx token,
      (Page.activity chainId methods ⟨[tx], token⟩).candidates =
        (tx.candidate? chainId methods).toList ∧
      (Page.activity chainId methods ⟨[tx], token⟩).highest = tx.block? ∧
      ((tx.candidate? chainId methods).isSome ↔ tx.block?.isSome ∧
        (Evm.matchCall? methods tx.target tx.input).isSome ∧
          ∃ vaa, Evm.Calldata.vaaOfText tx.input = .ok vaa)) ∧
    (∀ xs ys token before after,
      (Page.activity chainId methods ⟨xs ++ ys, token⟩).candidates =
        (Page.activity chainId methods ⟨xs, before⟩).candidates ++
          (Page.activity chainId methods ⟨ys, after⟩).candidates ∧
      (Page.activity chainId methods ⟨xs ++ ys, token⟩).highest =
        higher (Page.activity chainId methods ⟨xs, before⟩).highest
          (Page.activity chainId methods ⟨ys, after⟩).highest) ∧
    (∀ (page : Page) b, (page.activity chainId methods).highest = some b ↔
      (∃ tx ∈ page.transactions, tx.block? = some b) ∧
        ∀ tx ∈ page.transactions, ∀ n ∈ tx.block?, n ≤ b) ∧
    (∀ page : Page, (page.activity chainId methods).highest = none ↔
      ∀ tx ∈ page.transactions, tx.block? = none) ∧
    (∀ page page' : Page, page.transactions.Perm page'.transactions →
      (page.activity chainId methods).highest = (page'.activity chainId methods).highest) ∧
    (∀ page : Page, ∀ c ∈ (page.activity chainId methods).candidates,
      ∃ b ∈ (page.activity chainId methods).highest, c.blockNumber ≤ b) ∧
    (∀ tx xs ys token,
      (Page.activity chainId methods ⟨xs ++ tx :: ys, token⟩).highest =
        higher (Page.activity chainId methods ⟨xs ++ ys, token⟩).highest tx.block? ∧
      (tx.IsUnreadable → (Page.activity chainId methods ⟨xs ++ tx :: ys, token⟩).candidates =
        (Page.activity chainId methods ⟨xs ++ ys, token⟩).candidates)) ∧
    ∀ (s : Source) retry options range log p,
      Loop.Logs (Listing.next retry options) (.done (.inl (.start range))) log p →
      s.Answers log →
      ∀ block ∈ Watch.moves log, ∀ c ∈ Watch.recorded log, c.blockNumber ≤ block := by
  refine ⟨fun tx token => ⟨?_, ?_, ?_⟩, fun xs ys token before after => ⟨?_, ?_⟩,
    fun page b => Page.highest_eq_some_iff, fun page => Page.highest_eq_none_iff,
    fun page page' h => Page.highest_perm h,
    fun page c hc => Page.exists_highest_of_candidate hc,
    fun tx xs ys token => ⟨?_, fun h => ?_⟩,
    fun s retry options range log p h hanswers block hblock c hc =>
      Source.le_of_recorded h hanswers hblock hc⟩
  · exact Page.candidates_singleton tx token
  · exact Page.highest_singleton tx token
  · exact Transaction.isSome_candidate?_iff
  · exact Page.candidates_append xs ys token before after
  · exact Page.highest_append xs ys token before after
  · exact Page.highest_insert tx xs ys token
  · exact Page.candidates_insert h xs ys token

/-! ## A page with transactions that cannot be read -/

/-- The sample transaction with a block number that is no number. -/
def sampleUnplaced : Transaction :=
  { Source.sampleTransaction with blockNumber := "latest" }

/-- One in block 152, with a selector only. -/
def sampleEmpty : Transaction :=
  { Source.sampleTransaction with blockNumber := "0x98", input := "0xc6878519" }

/-- The page that lists the sample transaction between these two. -/
def mixedPage : Page :=
  ⟨[sampleUnplaced, Source.sampleTransaction, sampleEmpty], none⟩

/-- How a transaction stands in the answer of the aggregator. -/
def listedAs (blockNumber : String) (input : List Char) : Json :=
  .array [.string "0xaa", .string blockNumber, .string "0xbb",
    .string "0x3ee18b2214aff97000d974cf647e7c347e8fa585", .string (.ofList input), .string "0x1"]

/-- The answer that holds the page. -/
def mixedAnswer : Json :=
  .array [.array [listedAs "latest" Source.sampleInput, listedAs "0x96" Source.sampleInput,
    listedAs "0x98" "0xc6878519".toList]]

/-- The scan of the blocks 100 to 200 hands over the redemption in block 150, and moves its cursor
to block 152. -/
def mixedLog : Log interface :=
  samplePage ⟨[Source.sampleCandidate], some 152, none⟩ ++
    [⟨.record Source.sampleCandidate, .ok .written⟩, ⟨.moveCursor 152, .ok ()⟩]

theorem block?_sampleUnplaced : sampleUnplaced.block? = none := by
  decide +kernel

theorem block?_sampleEmpty : sampleEmpty.block? = some 152 := by
  decide +kernel

theorem isUnreadable_sampleEmpty : sampleEmpty.IsUnreadable := by
  refine Or.inr ⟨.tooShort 4, ?_⟩
  decide +kernel

theorem holds_mixedAnswer : Holds (Endpoint.replyOf mixedAnswer) mixedPage := by
  refine ⟨mixedAnswer.canonical, Endpoint.rpcAnswer_replyOf _ (by decide), ?_⟩
  simp only [mixedAnswer, listedAs, Json.canonical, Json.canonicalItems]
  rfl

/-- The page in the log is what the sample source comes to. -/
theorem answers_mixedLog (h : Page.activity Source.sampleSource.chainId Source.sampleSource.methods
    mixedPage = ⟨[Source.sampleCandidate], some 152, none⟩) :
    Source.sampleSource.Answers mixedLog := by
  intro range token activity hmem
  rcases hmem with _ | ⟨_, _ | ⟨_, _ | ⟨_, _ | ⟨_, hnil⟩⟩⟩⟩
  · rw [← h]
    exact ⟨_, Source.gives_activity holds_mixedAnswer⟩
  · exact absurd hnil List.not_mem_nil

/-- The page has one candidate, and block 152 as its highest one, in whatever order its transactions
are listed. The cursor moves to this block. -/
theorem pages_compose_mixedPage :
    sampleUnplaced.IsUnreadable ∧ sampleEmpty.IsUnreadable ∧
    Page.activity Source.sampleSource.chainId Source.sampleSource.methods mixedPage =
      ⟨[Source.sampleCandidate], some 152, none⟩ ∧
    (Page.activity Source.sampleSource.chainId Source.sampleSource.methods
      ⟨mixedPage.transactions.reverse, none⟩).highest = some 152 ∧
    (∃ p, Loop.Logs (Listing.next sampleLister.retry sampleLister.liveOptions)
      (.done (.inl (.start ⟨100, 200⟩))) mixedLog p) ∧
    Source.sampleSource.Answers mixedLog ∧ Source.sampleCandidate.blockNumber ≤ 152 := by
  have hunplaced : sampleUnplaced.IsUnreadable := Or.inl block?_sampleUnplaced
  have hempty : sampleEmpty.IsUnreadable := isUnreadable_sampleEmpty
  obtain ⟨-, -, -, -, hperm, -, hinsert, hscan⟩ :=
    pages_compose Source.sampleSource.chainId Source.sampleSource.methods
  obtain ⟨hfirst, hfirst'⟩ :=
    hinsert sampleUnplaced [] [Source.sampleTransaction, sampleEmpty] none
  obtain ⟨hlast, hlast'⟩ := hinsert sampleEmpty [Source.sampleTransaction] [] none
  simp only [List.nil_append] at hfirst hfirst'
  rw [List.append_nil, Source.activity_samplePage, List.singleton_append] at hlast hlast'
  rw [block?_sampleEmpty] at hlast
  rw [block?_sampleUnplaced, Listing.higher_none] at hfirst
  have hcandidates : (Page.activity Source.sampleSource.chainId Source.sampleSource.methods
      mixedPage).candidates = [Source.sampleCandidate] := (hfirst' hunplaced).trans (hlast' hempty)
  have hhighest : (Page.activity Source.sampleSource.chainId Source.sampleSource.methods
      mixedPage).highest = some 152 := hfirst.trans hlast
  have hpage : Page.activity Source.sampleSource.chainId Source.sampleSource.methods mixedPage =
      ⟨[Source.sampleCandidate], some 152, none⟩ :=
    ActivityPage.ext hcandidates hhighest rfl
  have hlog : Loop.Logs (Listing.next sampleLister.retry sampleLister.liveOptions)
      (.done (.inl (.start ⟨100, 200⟩))) mixedLog _ :=
    .round <| .ask <| .ask <| .ask <| .ask <| .nil _
  have hreversed := hperm ⟨mixedPage.transactions.reverse, none⟩ mixedPage
    mixedPage.transactions.reverse_perm
  rw [hpage] at hreversed
  have hanswers := answers_mixedLog hpage
  exact ⟨hunplaced, hempty, hpage, hreversed, ⟨_, hlog⟩, hanswers,
    hscan Source.sampleSource sampleLister.retry sampleLister.liveOptions ⟨100, 200⟩ mixedLog _
      hlog hanswers 152 (List.mem_singleton_self _) Source.sampleCandidate
      (List.mem_singleton_self _)⟩

end Ankr

end RedemptionWatch
