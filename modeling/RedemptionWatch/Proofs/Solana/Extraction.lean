import RedemptionWatch.Proofs.Endpoint.FetchLog
import RedemptionWatch.Proofs.Text.Base58
import RedemptionWatch.Solana.Source

/-!
# What becomes of failed calls

The extraction of a block looks up the attestation of one redemption after the other
(`Source.LooksUp`). A call that is throttled ends it and is its error, and it has no other errors
(`Source.heeds_extract`). A call that fails for any other reason, be it only that the connection
broke, ends its look-up alone: the redemption is left out, and the block counts as read
(`Source.extract_failures`). So a redemption can be lost to a failure that would have passed
(`Source.lost_call_extracts_nothing`).
-/

namespace RedemptionWatch

open Endpoint

/-- The errors that end the extraction of a block. -/
def FetchError.EndsBlock : FetchError → Prop
  | .throttled _ => True
  | .cancelled => True
  | _ => False

namespace Solana

/-! ## Look-ups -/

/-- The transfers that a transaction completes. One that failed completes none. -/
def Transaction.completed (tx : Transaction) (tokenBridge : String) : List Redeeming :=
  if tx.execution.failed then [] else tx.redeemings tokenBridge

/-- The redemptions of transactions, each with its transaction. -/
def redemptions (tokenBridge : String) (txs : List Transaction) : List (Transaction × Redeeming) :=
  txs.flatMap fun tx => (tx.completed tokenBridge).map (tx, ·)

/-- The look-up of the attestation of a redemption: its calls, and what it came to. -/
structure Lookup where
  redemption : Transaction × Redeeming
  log : Log interface
  found : Except FetchError (Option PostedVaa)

namespace Source

variable (s : Source) (slot : UInt64) (timestamp : Timestamp)

/-- The candidate of a redemption whose look-up found an attestation. -/
def candidateOf? (l : Lookup) : Option Candidate :=
  l.found.toOption.join.map (s.candidate slot timestamp l.redemption.1 l.redemption.2)

/-- These are the look-ups of the redemptions, one after the other, with all their calls and with
the candidates of those that found an attestation. -/
structure LooksUp (rs : List (Transaction × Redeeming)) (lookups : List Lookup)
    (log : Log interface) (candidates : List Candidate) : Prop where
  redemptions : lookups.map (·.redemption) = rs
  made : ∀ l ∈ lookups, (s.postedVaa l.redemption.2.account).Gives l.log l.found
  log : lookups.flatMap (·.log) = log
  candidates : lookups.filterMap (s.candidateOf? slot timestamp) = candidates

namespace LooksUp

variable {s slot timestamp} {rs rs' : List (Transaction × Redeeming)}
  {lookups lookups' : List Lookup} {log log' : Log interface}
  {candidates candidates' : List Candidate}

theorem nil : LooksUp s slot timestamp [] [] [] [] :=
  ⟨rfl, fun _ h => absurd h List.not_mem_nil, rfl, rfl⟩

theorem append (h : LooksUp s slot timestamp rs lookups log candidates)
    (h' : LooksUp s slot timestamp rs' lookups' log' candidates') :
    LooksUp s slot timestamp (rs ++ rs') (lookups ++ lookups') (log ++ log')
      (candidates ++ candidates') where
  redemptions := by rw [List.map_append, h.redemptions, h'.redemptions]
  made l hmem := (List.mem_append.mp hmem).elim (h.made l) (h'.made l)
  log := by rw [List.flatMap_append, h.log, h'.log]
  candidates := by rw [List.filterMap_append, h.candidates, h'.candidates]

/-- One look-up. -/
theorem singleton {l : Lookup} (h : (s.postedVaa l.redemption.2.account).Gives l.log l.found) :
    LooksUp s slot timestamp [l.redemption] [l] l.log (s.candidateOf? slot timestamp l).toList where
  redemptions := rfl
  made l' hmem := by
    rw [List.mem_singleton.mp hmem]
    exact h
  log := List.flatMap_singleton ..
  candidates := by cases hc : s.candidateOf? slot timestamp l <;> simp [hc]

end LooksUp

/-! ## Extractions -/

variable {s slot timestamp} {log : Log interface}

theorem catches_attestation (account : String) :
    Fetch.Catches FetchError.EndsBlock none (s.postedVaa account) (s.attestation account) := by
  refine Fetch.catches_tryCatch (fun reason hends => ?_) (fun reason hmild => ?_)
  · cases reason with
    | throttled text => rfl
    | cancelled => rfl
    | remote text => exact hends.elim
    | decode text => exact hends.elim
  · cases reason with
    | throttled text => exact absurd trivial hmild
    | cancelled => exact absurd trivial hmild
    | remote text => rfl
    | decode text => rfl

/-- An attestation comes of a look-up, and none of one that failed. -/
theorem gives_attestation {account : String} {vaa : Option PostedVaa}
    (h : (s.attestation account).Gives log (.ok vaa)) :
    ∃ found, (s.postedVaa account).Gives log found ∧ found.toOption.join = vaa := by
  rcases catches_attestation account h with ⟨hfound, -⟩ | ⟨reason, -, hfound, hnone⟩
  · exact ⟨_, hfound, rfl⟩
  · cases hnone
    exact ⟨_, hfound, rfl⟩

theorem extractFrom_cons (tx : Transaction) (txs : List Transaction) :
    s.extractFrom slot timestamp (tx :: txs) = (do
      let candidates ← s.candidatesOf slot timestamp tx (tx.completed s.tokenBridge)
      let others ← s.extractFrom slot timestamp txs
      return candidates ++ others) := by
  rw [extractFrom, Transaction.completed]
  split <;> rfl

theorem candidatesOf_looksUp {tx : Transaction} {rs : List Redeeming} {candidates : List Candidate}
    (h : (s.candidatesOf slot timestamp tx rs).Gives log (.ok candidates)) :
    ∃ lookups, s.LooksUp slot timestamp (rs.map (tx, ·)) lookups log candidates := by
  induction rs generalizing log candidates with
  | nil =>
    obtain ⟨rfl, hnil⟩ := Fetch.gives_pure.mp h
    cases hnil
    exact ⟨[], .nil⟩
  | cons r rs ih =>
    obtain ⟨vaa, first, rest, rfl, hvaa, hrest⟩ := Fetch.gives_bind_ok.mp h
    obtain ⟨others, second, last, rfl, hothers, hlast⟩ := Fetch.gives_bind_ok.mp hrest
    obtain ⟨rfl, hcandidates⟩ := Fetch.gives_pure.mp hlast
    cases hcandidates
    rw [List.append_nil]
    obtain ⟨found, hfound, rfl⟩ := gives_attestation hvaa
    obtain ⟨lookups, hlookups⟩ := ih hothers
    have hfirst := @LooksUp.singleton s slot timestamp ⟨(tx, r), first, found⟩ hfound
    exact ⟨_, hfirst.append hlookups⟩

theorem extractFrom_looksUp {txs : List Transaction} {candidates : List Candidate}
    (h : (s.extractFrom slot timestamp txs).Gives log (.ok candidates)) :
    ∃ lookups, s.LooksUp slot timestamp (Solana.redemptions s.tokenBridge txs) lookups log
      candidates := by
  induction txs generalizing log candidates with
  | nil =>
    obtain ⟨rfl, hnil⟩ := Fetch.gives_pure.mp h
    cases hnil
    exact ⟨[], .nil⟩
  | cons tx txs ih =>
    rw [extractFrom_cons] at h
    obtain ⟨own, first, rest, rfl, hown, hrest⟩ := Fetch.gives_bind_ok.mp h
    obtain ⟨others, second, last, rfl, hothers, hlast⟩ := Fetch.gives_bind_ok.mp hrest
    obtain ⟨rfl, hcandidates⟩ := Fetch.gives_pure.mp hlast
    cases hcandidates
    rw [List.append_nil]
    obtain ⟨lookups, hlookups⟩ := candidatesOf_looksUp hown
    obtain ⟨lookups', hlookups'⟩ := ih hothers
    exact ⟨_, hlookups.append hlookups'⟩

/-! ## Failures -/

/-- The error of a history that cannot be read. -/
theorem heeds_history (account : String) :
    (s.history account).Heeds (fun _ => True) (· = .decode "getSignaturesForAddress") := by
  refine .bind (.call ..) fun answer => ?_
  split
  · exact .pure _
  · exact .throw rfl

theorem heeds_firstPosted {own : FetchError → Prop} (signatures : List String) :
    (s.firstPosted signatures).Heeds (fun _ => True) own := by
  induction signatures with
  | nil => exact .pure _
  | cons signature rest ih =>
    refine .bind (.bind (.call ..) fun answer => .pure _) fun tx => ?_
    split
    · exact .pure _
    · exact ih

theorem heeds_postedVaa (account : String) :
    (s.postedVaa account).Heeds (fun _ => True) (· = .decode "getSignaturesForAddress") :=
  .bind (heeds_history account) fun _ => heeds_firstPosted _

theorem heeds_attestation (account : String) :
    (s.attestation account).Heeds FetchError.EndsBlock (fun _ => False) := by
  refine .catches (catches_attestation account) (heeds_postedVaa account) fun reason hreason => ?_
  rw [hreason]
  exact id

theorem heeds_candidatesOf (tx : Transaction) (rs : List Redeeming) :
    (s.candidatesOf slot timestamp tx rs).Heeds FetchError.EndsBlock (fun _ => False) := by
  induction rs with
  | nil => exact .pure _
  | cons r rs ih => exact .bind (heeds_attestation _) fun _ => .bind ih fun _ => .pure _

theorem heeds_extractFrom (txs : List Transaction) :
    (s.extractFrom slot timestamp txs).Heeds FetchError.EndsBlock (fun _ => False) := by
  induction txs with
  | nil => exact .pure _
  | cons tx txs ih =>
    rw [extractFrom_cons]
    exact .bind (heeds_candidatesOf _ _) fun _ => .bind ih fun _ => .pure _

/-- A call that is throttled ends the extraction of a block, and no other error ends it. -/
theorem heeds_extract (slot : UInt64) (b : Block) :
    (s.extract slot b).Heeds FetchError.EndsBlock (fun _ => False) :=
  heeds_extractFrom _

/-- A failure that ends a block is that of a throttled call, for no call is cancelled. -/
theorem exists_throttled {e : Event interface} {reason : FetchError}
    (hfailure : failure? e = some reason) (hends : reason.EndsBlock) :
    ∃ text, reason = .throttled text := by
  cases reason with
  | throttled text => exact ⟨text, rfl⟩
  | cancelled => exact absurd hfailure (failure?_ne_cancelled e)
  | remote text => exact hends.elim
  | decode text => exact hends.elim

/-- **What becomes of failed calls.** A block can be read if and only if no call is throttled. An
error of a block is the failure of its last call, which was throttled. A block that can be read has
one look-up for each redemption, and the candidates are those of the look-ups that found an
attestation; a call that failed is the last one of its look-up, which came to this failure, so that
the redemption is left out. -/
theorem extract_failures {b : Block} {log : Log interface}
    {result : Except FetchError (List Candidate)} (h : (s.extract slot b).Gives log result) :
    ((∃ candidates, result = .ok candidates) ↔
      ∀ e ∈ log, ∀ text, failure? e ≠ some (.throttled text)) ∧
    (∀ reason, result = .error reason → ∃ text before e, reason = .throttled text ∧
      log = before ++ [e] ∧ failure? e = some reason) ∧
    (∀ candidates, result = .ok candidates → ∃ lookups,
      s.LooksUp slot (Source.timestamp b) (redemptions s.tokenBridge b.transactions) lookups log
        candidates ∧
      ∀ l ∈ lookups, ∀ before e after reason, l.log = before ++ e :: after →
        failure? e = some reason → after = [] ∧ l.found = .error reason) := by
  have hcause : ∀ reason, result = .error reason → ∃ text before e, reason = .throttled text ∧
      log = before ++ [e] ∧ failure? e = some reason := by
    rintro reason rfl
    obtain ⟨⟨⟩⟩ | ⟨hends, before, e, hlog, hfailure⟩ := (heeds_extract slot b).cause h
    obtain ⟨text, rfl⟩ := exists_throttled hfailure hends
    exact ⟨text, before, e, rfl, hlog, hfailure⟩
  refine ⟨⟨?_, ?_⟩, hcause, ?_⟩
  · rintro ⟨candidates, rfl⟩ e hmem text hfailure
    obtain ⟨before, after, hlog⟩ := List.append_of_mem hmem
    exact nomatch ((heeds_extract slot b).ends h hlog hfailure trivial).2
  · intro hnone
    cases result with
    | ok candidates => exact ⟨candidates, rfl⟩
    | error reason =>
      obtain ⟨text, before, e, rfl, rfl, hfailure⟩ := hcause reason rfl
      exact absurd hfailure (hnone e (by simp) text)
  · rintro candidates rfl
    obtain ⟨lookups, hlookups⟩ := extractFrom_looksUp h
    refine ⟨lookups, hlookups, fun l hmem before e after reason hlog hfailure => ?_⟩
    exact (heeds_postedVaa _).ends (hlookups.made l hmem) hlog hfailure trivial

/-- A token bridge and a transaction that completes a transfer by the attestation in account A. -/
def sampleSource : Source where
  chainId := ⟨1⟩
  url := ⟨"http", "", "", some (.domain "rpc.test"), none, "/", none, none⟩
  tokenBridge := "T"
  coreBridge := "W"

def sampleTransaction : Transaction where
  signatures := ["s"]
  keys := ["T", "A"]
  instructions := [⟨0, [1, 1, 1], Text.Base58.encode [2]⟩]
  execution := .none

theorem completed_sampleTransaction :
    sampleTransaction.completed "T" = [⟨"completeNative", "A"⟩] := by
  have hdata : Instruction.redeeming? ["T", "A"] ⟨0, [1, 1, 1], Text.Base58.encode [2]⟩ =
      some ⟨"completeNative", "A"⟩ := by
    simp only [Instruction.redeeming?, Text.Base58.decode_encode]
    rfl
  exact congrArg Option.toList hdata

/-- The call of a run in which the connection breaks at once. -/
def lostCall : Event interface :=
  ⟨.post sampleSource.url "getSignaturesForAddress"
    (.array [.string "A", .object [("commitment", .string "confirmed")]]), .lost⟩

/-- The connection breaks when the history of account A is asked for, and the block is read. -/
theorem gives_lostCall :
    (sampleSource.extract 7 ⟨none, [sampleTransaction]⟩).Gives [lostCall] (.ok []) := by
  have hrun : sampleSource.extract 7 ⟨none, [sampleTransaction]⟩ = (do
      let candidates ← sampleSource.candidatesOf 7 .epoch sampleTransaction
        [⟨"completeNative", "A"⟩]
      let others ← sampleSource.extractFrom 7 .epoch []
      return candidates ++ others) := by
    rw [← completed_sampleTransaction]
    exact extractFrom_cons _ _
  rw [hrun]
  exact .ask (.nil _)

/-- A block that can be read and has a redemption comes to no candidates, though its only call
failed for a reason that may pass. -/
theorem lost_call_extracts_nothing :
    (sampleSource.extract 7 ⟨none, [sampleTransaction]⟩).Gives [lostCall] (.ok []) ∧
      sampleTransaction.completed "T" = [⟨"completeNative", "A"⟩] ∧
      ∃ reason, failure? lostCall = some reason ∧ reason.isTransient :=
  ⟨gives_lostCall, completed_sampleTransaction, _, rfl, rfl⟩

/-- The look-up of this redemption is the lost call. -/
theorem extract_failures_lostCall :
    (sampleSource.extract 7 ⟨none, [sampleTransaction]⟩).Gives [lostCall] (.ok []) ∧
      (∀ e ∈ [lostCall], ∀ text, failure? e ≠ some (.throttled text)) ∧
      ∃ lookups, sampleSource.LooksUp 7 .epoch (redemptions "T" [sampleTransaction]) lookups
        [lostCall] [] := by
  obtain ⟨hread, -, hlookups⟩ := extract_failures gives_lostCall
  obtain ⟨lookups, hlookups, -⟩ := hlookups [] rfl
  exact ⟨gives_lostCall, hread.mp ⟨[], rfl⟩, lookups, hlookups⟩

end Source

end Solana

end RedemptionWatch
