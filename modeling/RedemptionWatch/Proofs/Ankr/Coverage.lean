import RedemptionWatch.Proofs.Ankr.Aggregator
import RedemptionWatch.Proofs.Evm.Calldata
import RedemptionWatch.Proofs.Text.Hex
import RedemptionWatch.Proofs.Watch.ListedCursor

/-!
# A live loop over an aggregator misses no redemption

When a live loop over an aggregator moves its cursor, every redemption of the history from the block
it started at up to the cursor has been handed to the record store
(`Source.live_covers_history`). The cursor moves only after a listing has come to its end, and then
all that it listed has been handed over. A listing that fails on the way leaves the cursor, and the
next one starts where this one started.

`Aggregator.Keeps` is what the log, the aggregator and the survey have to do with each other. One
event keeps it (`Aggregator.Keeps.snoc`), so it holds of every log.
-/

namespace RedemptionWatch.Ankr

open Watch (interface)

namespace Aggregator

variable {s : Source} {history : List Transaction} {log : Log interface} {tx : Transaction}

/-- If the transaction is a redemption, its candidate has been handed to the record store. -/
def Handed (s : Source) (log : Log interface) (tx : Transaction) : Prop :=
  (tx.redeeming? s.methods).isSome →
    ∃ c, tx.candidate? s.chainId s.methods = some c ∧ .record c ∈ Watch.requests log

theorem Handed.append (h : Handed s log tx) (log' : Log interface) : Handed s (log ++ log') tx := by
  intro hredeeming
  obtain ⟨c, hc, hrecord⟩ := h hredeeming
  rw [Watch.requests_append]
  exact ⟨c, hc, List.mem_append_left _ hrecord⟩

/-- What holds after every event: the survey is sound and follows the listing under way, the
candidates of its pages are handed over or pending, and before its position nothing is missing. -/
structure Keeps (s : Source) (history : List Transaction) (start : UInt64) (log : Log interface)
    (listing : Option (BlockRange × List Page)) (v : Survey) : Prop where
  sound : Survey.Sound (Survey.start true start) log v
  listed : Listed s history listing v
  recorded : ∀ page ∈ v.pages, ∀ c ∈ page.candidates,
    .record c ∈ Watch.requests log ∨ c ∈ v.pending
  covered : ∀ tx ∈ history, ∀ b ∈ tx.block?, start ≤ b → b < v.position → Handed s log tx

namespace Keeps

variable {start b block : UInt64} {listing listing' : Option (BlockRange × List Page)}
  {v v' : Survey} {e : Event interface}

theorem recorded_append (h : Keeps s history start log listing v) (e : Event interface)
    (page : ActivityPage) (hpage : page ∈ v.pages) (c : Candidate) (hc : c ∈ page.candidates) :
    .record c ∈ Watch.requests (log ++ [e]) ∨ c ∈ v.pending := by
  rw [Watch.requests_append]
  exact (h.recorded page hpage c hc).imp_left (List.mem_append_left _)

theorem covered_append (h : Keeps s history start log listing v) (e : Event interface)
    (tx : Transaction) (htx : tx ∈ history) (b : UInt64) (hb : b ∈ tx.block?) (hstart : start ≤ b)
    (hlt : b < v.position) : Handed s (log ++ [e]) tx :=
  (h.covered tx htx b hb hstart hlt).append [e]

/-- When the listing has ended, nothing is missing up to the block to which the cursor moves: it
lies in the range, and all that is listed there has been handed over. -/
theorem handed_of_commits (h : Keeps s history start log listing v) (hp : v.pending = [])
    (hcommits : v.Commits block) (htx : tx ∈ history) (hb : b ∈ tx.block?) (hstart : start ≤ b)
    (hle : b ≤ block) : Handed s log tx := by
  by_cases hlt : b < v.position
  · exact h.covered tx htx b hb hstart hlt
  obtain ⟨hended, range, hrange, rfl⟩ := hcommits
  rcases h.listed with ⟨-, -, hnot⟩ |
    ⟨range', read, last, unread, -, hlisting, hrange', hpages, -, hunread⟩
  · exact nomatch hended.symm.trans hnot
  obtain rfl := Option.some_inj.mp (hrange.symm.trans hrange')
  obtain rfl := hunread.mp hended
  have hlast : (ActivityPage.highestOf v.pages).getD range.last ≤ range.last := by
    cases hhighest : ActivityPage.highestOf v.pages with
    | none => exact UInt64.le_refl _
    | some a =>
      obtain ⟨activity, hmem, ha⟩ := ActivityPage.exists_of_highestOf hhighest
      rw [hpages] at hmem
      obtain ⟨page, hpage, rfl⟩ := List.mem_map.mp hmem
      obtain ⟨tx', htx', ha'⟩ := Page.exists_of_highest ha
      obtain ⟨-, b', hb', -, hle'⟩ := (hlisting.mem_iff tx').mp ⟨page, hpage, htx'⟩
      obtain rfl := Option.some_inj.mp (ha'.symm.trans hb')
      exact hle'
  have hfirst : range.first ≤ b := by
    rw [(h.sound.scan range hrange).1]
    exact UInt64.not_lt.mp hlt
  obtain ⟨page, hpage, hlists⟩ :=
    (hlisting.mem_iff tx).mpr ⟨htx, b, hb, hfirst, UInt64.le_trans hle hlast⟩
  intro hredeeming
  obtain ⟨c, hc⟩ : ∃ c, tx.candidate? s.chainId s.methods = some c :=
    Transaction.exists_candidate? hb hredeeming
  have hmem : page.activity s.chainId s.methods ∈ v.pages := by
    rw [hpages]
    exact List.mem_map_of_mem hpage
  rcases h.recorded _ hmem c (List.mem_filterMap.mpr ⟨tx, hlists, hc⟩) with hrecord | hpending
  · exact ⟨c, hc, hrecord⟩
  · rw [hp] at hpending
    exact absurd hpending List.not_mem_nil

/-- An event that changes neither the listing nor the survey. -/
theorem unchanged (h : Keeps s history start log listing v)
    (hsound : Survey.Sound (Survey.start true start) (log ++ [e]) v) :
    Keeps s history start (log ++ [e]) listing v :=
  ⟨hsound, h.listed, h.recorded_append e, h.covered_append e⟩

/-- One more event keeps it. -/
theorem snoc (h : Keeps s history start log listing v) (hm : v.Moves e v')
    (hserves : Serves s history listing e listing') :
    Keeps s history start (log ++ [e]) listing' v' := by
  have hsound := h.sound.snoc hm
  cases hm with
  | activity range token answer hp hasks =>
    cases answer with
    | error reason =>
      rw [hserves.of_error]
      exact h.unchanged hsound
    | ok page =>
      refine ⟨hsound, h.listed.read hasks hserves, fun page' hmem c hc => ?_, h.covered_append _⟩
      rcases List.mem_append.mp hmem with hmem | hmem
      · have hrecorded := h.recorded_append ⟨.activity range token, .ok page⟩ page' hmem c hc
        rw [hp] at hrecorded
        exact Or.inl (hrecorded.resolve_right List.not_mem_nil)
      · rw [List.mem_singleton.mp hmem] at hc
        exact Or.inr hc
  | record c rest outcome hpending =>
    rw [hserves.of_other nofun]
    refine ⟨hsound, h.listed, fun page hmem c' hc => ?_, h.covered_append _⟩
    rcases h.recorded_append ⟨.record c, outcome⟩ page hmem c' hc with hrecord | hpend
    · exact Or.inl hrecord
    · rw [hpending] at hpend
      rcases List.mem_cons.mp hpend with rfl | hrest
      · rw [Watch.requests_append]
        exact Or.inl (List.mem_append_right _ (List.mem_singleton_self _))
      · exact Or.inr hrest
  | moveCursor block result hp hcommits =>
    refine ⟨hsound, .of_pages_nil rfl rfl rfl, fun _ hmem => absurd hmem List.not_mem_nil,
      fun tx htx b hb hstart hlt => ?_⟩
    by_cases hposition : b < v.position
    · exact h.covered_append _ tx htx b hb hstart hposition
    · have hmax : b.toNat < max v.position.toNat block.toNat := by
        rw [← BlockRange.toNat_max]
        exact UInt64.lt_iff_toNat_lt.mp hlt
      have hle : b ≤ block := by
        rw [UInt64.lt_iff_toNat_lt] at hposition
        rw [UInt64.le_iff_toNat_le]
        omega
      exact (h.handed_of_commits hp hcommits htx hb hstart hle).append _
  | latestBlock answer hp hlive =>
    rw [hserves.of_other nofun]
    cases answer with
    | error reason => exact h.unchanged hsound
    | ok head =>
      by_cases hlt : v.position < head
      · have hsighted : v.sighted (.ok head) = Survey.begin v.live ⟨v.position, head⟩ := if_pos hlt
        rw [hsighted] at hsound ⊢
        exact ⟨hsound, .of_pages_nil rfl rfl rfl, fun _ hmem => absurd hmem List.not_mem_nil,
          h.covered_append _⟩
      · have hsighted : v.sighted (.ok head) = Survey.start v.live v.position := if_neg hlt
        rw [hsighted] at hsound ⊢
        exact ⟨hsound, .of_pages_nil rfl rfl rfl, fun _ hmem => absurd hmem List.not_mem_nil,
          h.covered_append _⟩
  | pause millis pauseEnd =>
    rw [hserves.of_other nofun]
    exact h.unchanged hsound
  | isCancelled answer =>
    rw [hserves.of_other nofun]
    exact h.unchanged hsound
  | publish state =>
    rw [hserves.of_other nofun]
    exact h.unchanged hsound

end Keeps

theorem keeps_of_foldlM {start : UInt64} {listing listing' : Option (BlockRange × List Page)}
    {v : Survey} (h : log.foldlM Survey.step (Survey.start true start) = some v)
    (hserves : Replays (Serves s history) listing log listing') :
    Keeps s history start log listing' v := by
  induction log using List.reverseRecOn generalizing v listing' with
  | nil =>
    cases h
    refine ⟨Survey.sound_start true start, .of_pages_nil rfl rfl rfl,
      fun _ hmem => absurd hmem List.not_mem_nil, fun tx _ b _ hstart hlt => ?_⟩
    exact absurd hlt (UInt64.not_lt.mpr hstart)
  | append_singleton log e ih =>
    obtain ⟨v', hv', he⟩ := Log.foldlM_snoc.mp h
    obtain ⟨listing₁, hlog, hlast⟩ := hserves.of_snoc
    exact (ih hv' hlog).snoc (Survey.moves_of_step he) hlast

end Aggregator

namespace Source

open Aggregator

/-- **No redemption is missed.** Let an aggregator list the transactions of a history, in pages of
its own choice and with failures where it likes. When a live loop over its source moves the cursor,
every redemption of the history from the block the loop started at up to the cursor has been handed
to the record store. -/
theorem live_covers_history (s : Source) (history : List Transaction) (w : Watcher)
    (hmode : w.mode = .activity) {log before after : Log interface} {p : Watch.Act Watcher.Turn}
    {listing : Option (BlockRange × List Page)} {block : UInt64} {result : Except StoreError Unit}
    (h : Loop.Logs w.live (.done (.inl .start)) log p)
    (hserves : Replays (Aggregator.Serves s history) none log listing)
    (hlog : log = before ++ ⟨.moveCursor block, result⟩ :: after) :
    ∃ start rest, before = ⟨.cursor w.initialBlock, .ok start⟩ :: rest ∧
      ∀ tx ∈ history, ∀ b ∈ tx.block?, start ≤ b → b ≤ block →
        (tx.redeeming? s.methods).isSome →
        ∃ c, tx.candidate? s.chainId s.methods = some c ∧ .record c ∈ Watch.requests before := by
  obtain ⟨start, rest, rfl, hrest⟩ := Watcher.exists_rest_of_moveCursor h hlog
  obtain ⟨v, hv⟩ := Watcher.listings_accepted w hmode hrest
  obtain ⟨m, n, hm, hstep⟩ := Log.exists_of_foldlM hv
  rw [hlog] at hserves
  obtain ⟨listing₁, hbefore, -⟩ := hserves.of_append
  cases hbefore with
  | cons first hbefore =>
    have hkeeps := keeps_of_foldlM hm hbefore
    refine ⟨start, rest, rfl, fun tx htx b hb hstart hle hredeeming => ?_⟩
    cases Survey.moves_of_step hstep with
    | moveCursor _ _ hp hcommits =>
      obtain ⟨c, hc, hrecord⟩ :=
        hkeeps.handed_of_commits hp hcommits htx hb hstart hle hredeeming
      exact ⟨c, hc, List.mem_cons_of_mem _ hrecord⟩

/-- A token bridge whose transfers are completed by calls. -/
def sampleSource : Source where
  chainId := ⟨2⟩
  url := ⟨"http", "", "", some (.domain "rpc.test"), none, "/", none, none⟩
  blockchain := "eth"
  methods := ⟨[("0x3ee18b2214aff97000d974cf647e7c347e8fa585",
    ⟨[("0xc6878519", "completeTransfer")]⟩)]⟩
  pageSize := 1000

/-- A message that is redeemed there. -/
def sampleVaa : SignedVaa := ⟨1, 3, 0, ⟨5, 6, ⟨2⟩, .fill 0xab, 77, 1⟩, []⟩

/-- The data of the call: the selector, and the message as the only argument. -/
def sampleData : List UInt8 :=
  [0xc6, 0x87, 0x85, 0x19] ++ Octets.bigEndian 32 32 ++
    Octets.bigEndian 32 (sampleVaa.bytes []).length ++ sampleVaa.bytes []

/-- The input of the call. -/
def sampleInput : List Char :=
  '0' :: 'x' :: Text.Hex.encodeChars sampleData

/-- The transaction that redeems it, in block 150. -/
def sampleTransaction : Transaction where
  hash := "0xaa"
  blockNumber := "0x96"
  sender := "0xbb"
  target := some "0x3ee18b2214aff97000d974cf647e7c347e8fa585"
  input := String.ofList sampleInput
  status := some "0x1"
  timestamp := none

/-- The answer of the aggregator that lists it. -/
def sampleAnswer : Json :=
  .array [.array [.array [.string "0xaa", .string "0x96", .string "0xbb",
    .string "0x3ee18b2214aff97000d974cf647e7c347e8fa585", .string (.ofList sampleInput),
    .string "0x1"]]]

/-- The redemption that it is. -/
def sampleRedeeming : Evm.Redeeming :=
  ⟨⟨"completeTransfer", "0x3ee18b2214aff97000d974cf647e7c347e8fa585"⟩, sampleVaa⟩

/-- The candidate that comes of it. -/
def sampleCandidate : Candidate :=
  sampleRedeeming.candidate sampleTransaction.toTransaction ⟨2⟩ 150 (.ofSeconds 0) .confirmed

theorem holds_sampleAnswer :
    Holds (Endpoint.replyOf sampleAnswer) ⟨[sampleTransaction], none⟩ := by
  refine ⟨sampleAnswer.canonical, Endpoint.rpcAnswer_replyOf _ (by decide), ?_⟩
  simp only [sampleAnswer, Json.canonical, Json.canonicalItems]
  rfl

theorem redeeming?_sampleTransaction :
    sampleTransaction.redeeming? sampleSource.methods = some sampleRedeeming := by
  have hinput : sampleTransaction.input.toList = sampleInput := String.toList_ofList
  have hcall : Evm.matchCall? sampleSource.methods sampleTransaction.target
      sampleTransaction.input = some sampleRedeeming.call := by
    unfold Evm.matchCall? Evm.selectorOf?
    rw [hinput]
    decide +kernel
  have htext : sampleTransaction.input = String.ofList sampleInput := rfl
  have hdecode : Text.Hex.decode sampleTransaction.input = .ok sampleData := by
    rw [htext, sampleInput, Text.Hex.decode_marked]
  have hdata : Evm.Calldata.vaa sampleData = .ok sampleVaa := by decide +kernel
  have hvaa : Evm.Calldata.vaaOfText sampleTransaction.input = .ok sampleVaa :=
    (Evm.Calldata.vaaOfText_of_decode hdecode).trans hdata
  unfold Evm.Transaction.redeeming?
  rw [hcall, hvaa]
  rfl

theorem block?_sampleTransaction : sampleTransaction.block? = some 150 := by
  decide +kernel

theorem candidate?_sampleTransaction :
    sampleTransaction.candidate? sampleSource.chainId sampleSource.methods =
      some sampleCandidate := by
  unfold Transaction.candidate?
  rw [block?_sampleTransaction, redeeming?_sampleTransaction]
  rfl

theorem activity_samplePage : Page.activity sampleSource.chainId sampleSource.methods
    ⟨[sampleTransaction], none⟩ = ⟨[sampleCandidate], some 150, none⟩ := by
  unfold Page.activity
  rw [List.filterMap_cons_some candidate?_sampleTransaction,
    List.filterMap_cons_some block?_sampleTransaction]
  rfl

/-- The live loop from block 100 on finds it, hands it over, and moves its cursor to block 150. -/
def sampleLog : Log interface :=
  sampleListing ⟨[sampleCandidate], some 150, none⟩ ++ [⟨.record sampleCandidate, .ok .written⟩]

theorem isListing_sampleTransaction :
    IsListing [sampleTransaction] ⟨100, 200⟩ [⟨[sampleTransaction], none⟩] where
  mem_iff tx := by
    constructor
    · rintro ⟨page, hpage, htx⟩
      rw [List.mem_singleton.mp hpage] at htx
      obtain rfl := List.mem_singleton.mp htx
      exact ⟨List.mem_singleton_self _, 150, block?_sampleTransaction, by decide, by decide⟩
    · rintro ⟨htx, -⟩
      exact ⟨_, List.mem_singleton_self _, htx⟩
  next_eq_none_iff before page after h := by
    cases before with
    | nil =>
      obtain ⟨rfl, rfl⟩ := List.cons.inj h
      exact ⟨fun _ => rfl, fun _ => rfl⟩
    | cons first before => simp at h
  nodup := List.nodup_nil

theorem live_covers_history_sampleLog :
    sampleLister.mode = .activity ∧
    (∃ p, Loop.Logs sampleLister.live (.done (.inl .start))
      (sampleLog ++ [⟨.moveCursor 150, .ok ()⟩]) p) ∧
    (∃ listing, Replays (Aggregator.Serves sampleSource [sampleTransaction]) none
      (sampleLog ++ [⟨.moveCursor 150, .ok ()⟩]) listing) ∧
    .record sampleCandidate ∈ Watch.requests sampleLog := by
  have hlogs : Loop.Logs sampleLister.live (.done (.inl .start))
      (sampleLog ++ [⟨.moveCursor 150, .ok ()⟩]) _ :=
    .round <| .ask <| .round <| .ask <| .ask <| .ask <| .round <| .ask <| .ask <| .ask <| .ask <|
      .nil _
  have hanswer : Except.ok ⟨[sampleCandidate], some 150, none⟩ =
      (sampleSource.activity ⟨100, 200⟩ none).against fun _ => Endpoint.replyOf sampleAnswer := by
    rw [sampleSource.activity_against holds_sampleAnswer, activity_samplePage]
  have hserves : Replays (Aggregator.Serves sampleSource [sampleTransaction]) none
      (sampleLog ++ [⟨.moveCursor 150, .ok ()⟩])
      (some (⟨100, 200⟩, [⟨[sampleTransaction], none⟩])) :=
    .cons (.other _ nofun) <| .cons (.other _ nofun) <| .cons (.other _ nofun) <|
      .cons (.other _ nofun) <| .cons (.other _ nofun) <|
      .cons (.first isListing_sampleTransaction holds_sampleAnswer hanswer) <|
      .cons (.other _ nofun) <| .cons (.other _ nofun) <| .nil _
  obtain ⟨start, rest, hbefore, hcovers⟩ :=
    sampleSource.live_covers_history [sampleTransaction] sampleLister rfl hlogs hserves rfl
  cases hbefore
  have hredeeming : (sampleTransaction.redeeming? sampleSource.methods).isSome := by
    rw [redeeming?_sampleTransaction]
    rfl
  obtain ⟨c, hc, hrecord⟩ := hcovers sampleTransaction (List.mem_singleton_self _) 150
    block?_sampleTransaction (by decide) (by decide) hredeeming
  obtain rfl := Option.some_inj.mp (candidate?_sampleTransaction.symm.trans hc)
  exact ⟨rfl, ⟨_, hlogs⟩, ⟨_, hserves⟩, hrecord⟩

end Source

end RedemptionWatch.Ankr
