import RedemptionWatch.Proofs.Endpoint.Answers
import RedemptionWatch.Proofs.Solana.Extraction
import RedemptionWatch.Proofs.Vaa.Posted

/-!
# The attestation that a look-up finds

A look-up reads the instructions of the core bridge in the history of an account, from the oldest
transaction on, and finds the attestation of the first one that posts any
(`Source.postedVaa_against`). It does not ask which account an instruction posts to. So it finds the
attestation of another account if that one was posted first, be it in the same transaction
(`Source.lookup_finds_other`), and the one of the account itself if no instruction posts to another
account only before it (`Source.lookup_finds_first`).
-/

namespace RedemptionWatch.Solana

open Endpoint

/-! ## Histories -/

/-- An instruction of the core bridge in a transaction. -/
structure Posting where
  transaction : Transaction
  instruction : Instruction

namespace Posting

/-- The attestation that the instruction posts, if it can be read as one that does. -/
def vaa? (p : Posting) : Option PostedVaa :=
  p.instruction.postedVaa?

/-- The accounts that the instruction refers to. -/
def accounts (p : Posting) : List String :=
  p.instruction.accounts.filterMap fun place => p.transaction.accountKeys[place]?

end Posting

/-- The instructions of the core bridge, those of the top level first. -/
def Transaction.postings (tx : Transaction) (coreBridge : String) : List Posting :=
  (ofProgram tx.accountKeys coreBridge tx.allInstructions).map (⟨tx, ·⟩)

/-- What an endpoint knows of an account. -/
structure AccountHistory where
  /-- Newest first. -/
  entries : List HistoryEntry
  /-- The transaction with a signature, if it is there and can be read. -/
  transaction? : String → Option Transaction

namespace AccountHistory

/-- The signatures of the transactions that did not fail, oldest first. -/
def signatures (history : AccountHistory) : List String :=
  (history.entries.reverse.filter fun e => !e.failed).map (·.signature)

/-- The instructions of the core bridge in those transactions. -/
def postings (history : AccountHistory) (coreBridge : String) : List Posting :=
  (history.signatures.filterMap history.transaction?).flatMap (·.postings coreBridge)

end AccountHistory

/-- The endpoint answers with this history of the account and its transactions. -/
structure Source.ServesHistory (s : Source) (answer : Request → Reply) (account : String)
    (history : AccountHistory) : Prop where
  entries : (s.history account).against answer = .ok history.entries
  transaction : ∀ signature ∈ history.signatures,
    (s.transaction? signature).against answer = .ok (history.transaction? signature)

/-! ## Look-ups -/

theorem postedVaa?_eq (tx : Transaction) (coreBridge : String) :
    tx.postedVaa? coreBridge = (tx.postings coreBridge).findSome? Posting.vaa? := by
  rw [Transaction.postings, List.findSome?_map]
  rfl

namespace Source

variable {s : Source} {answer : Request → Reply} {account : String} {history : AccountHistory}

theorem firstPosted_against {transaction? : String → Option Transaction} {signatures : List String}
    (h : ∀ signature ∈ signatures,
      (s.transaction? signature).against answer = .ok (transaction? signature)) :
    (s.firstPosted signatures).against answer = .ok
      (((signatures.filterMap transaction?).flatMap (·.postings s.coreBridge)).findSome?
        Posting.vaa?) := by
  induction signatures with
  | nil => rfl
  | cons signature rest ih =>
    have hfirst := h signature List.mem_cons_self
    have hrest := ih fun signature hmem => h signature (List.mem_cons_of_mem _ hmem)
    rw [firstPosted, bind_against, hfirst]
    cases htx : transaction? signature with
    | none =>
      rw [List.filterMap_cons_none htx]
      exact hrest
    | some tx =>
      rw [List.filterMap_cons_some htx, List.flatMap_cons, List.findSome?_append,
        ← postedVaa?_eq]
      dsimp only [Option.bind]
      cases tx.postedVaa? s.coreBridge with
      | none => exact hrest
      | some vaa => rfl

/-- A look-up finds the attestation of the first instruction in the history that posts any. -/
theorem postedVaa_against (h : s.ServesHistory answer account history) :
    (s.postedVaa account).against answer =
      .ok ((history.postings s.coreBridge).findSome? Posting.vaa?) := by
  rw [postedVaa, bind_against, h.entries]
  exact firstPosted_against h.transaction

/-- What is found is the attestation of a redemption by the account. -/
theorem candidatesOf_against {vaa : PostedVaa}
    (h : (s.postedVaa account).against answer = .ok (some vaa)) (slot : UInt64)
    (timestamp : Timestamp) (tx : Transaction) (method : String) :
    (s.candidatesOf slot timestamp tx [⟨method, account⟩]).against answer =
      .ok [s.candidate slot timestamp tx ⟨method, account⟩ vaa] := by
  have hattestation : (s.attestation account).against answer = .ok (some vaa) := by
    rw [attestation, tryCatch_against, h]
  rw [candidatesOf, bind_against, hattestation]
  rfl

/-- **The attestation that a look-up finds.** If of all instructions of the core bridge in the
history exactly one refers to the account and posts an attestation, then a look-up finds the
attestation of the first instruction that posts any, which is this one or one before it. It finds
the one of the account, and the candidate has its message id, if all instructions before it that
refer to other accounts only post none. -/
theorem lookup_finds_first (hserves : s.ServesHistory answer account history)
    {before after : List Posting} {p : Posting} {vaa : PostedVaa}
    (hpostings : history.postings s.coreBridge = before ++ p :: after)
    (haccount : account ∈ p.accounts) (hvaa : p.vaa? = some vaa)
    (honly : ∀ q ∈ before ++ after, account ∈ q.accounts → q.vaa? = none) :
    (∃ earlier q later found, before ++ [p] = earlier ++ q :: later ∧
      (∀ r ∈ earlier, r.vaa? = none) ∧ q.vaa? = some found ∧
      (account ∈ q.accounts ↔ later = []) ∧
      (s.postedVaa account).against answer = .ok (some found)) ∧
    ((∀ q ∈ before, account ∉ q.accounts → q.vaa? = none) →
      (s.postedVaa account).against answer = .ok (some vaa) ∧
      ∀ slot timestamp tx method,
        (s.candidatesOf slot timestamp tx [⟨method, account⟩]).against answer =
          .ok [s.candidate slot timestamp tx ⟨method, account⟩ vaa] ∧
        (s.candidate slot timestamp tx ⟨method, account⟩ vaa).messageId = vaa.messageId) := by
  have hfound : ∃ found, (before ++ [p]).findSome? Posting.vaa? = some found := by
    rw [← Option.isSome_iff_exists, List.findSome?_isSome_iff]
    exact ⟨p, by simp, by simp [hvaa]⟩
  obtain ⟨found, hfound⟩ := hfound
  have hlookup : (s.postedVaa account).against answer = .ok (some found) := by
    rw [postedVaa_against hserves, hpostings, List.append_cons, List.findSome?_append, hfound]
    rfl
  constructor
  · obtain ⟨earlier, q, later, hsplit, hq, hearlier⟩ := List.findSome?_eq_some_iff.mp hfound
    refine ⟨earlier, q, later, found, hsplit, hearlier, hq, ?_, hlookup⟩
    rcases List.eq_nil_or_concat later with rfl | ⟨rest, last, rfl⟩
    · obtain ⟨-, hlast⟩ := List.append_inj' hsplit rfl
      cases hlast
      exact iff_of_true haccount rfl
    · have hmem : q ∈ before := by
        rw [List.concat_eq_append, ← List.cons_append, ← List.append_assoc] at hsplit
        rw [(List.append_inj' hsplit rfl).1]
        simp
      refine iff_of_false (fun hrefers => ?_) (by simp)
      exact nomatch hq.symm.trans (honly q (List.mem_append_left _ hmem) hrefers)
  · intro hothers
    have hbefore : before.findSome? Posting.vaa? = none := by
      rw [List.findSome?_eq_none_iff]
      intro q hmem
      by_cases hq : account ∈ q.accounts
      · exact honly q (List.mem_append_left _ hmem) hq
      · exact hothers q hmem hq
    have hown : found = vaa := by
      rw [List.findSome?_append, hbefore, Option.none_or, List.findSome?_singleton, hvaa] at hfound
      exact (Option.some_inj.mp hfound).symm
    rw [hown] at hlookup
    exact ⟨hlookup, fun slot timestamp tx method =>
      ⟨candidatesOf_against hlookup slot timestamp tx method, rfl⟩⟩

/-! ## Two instructions in one transaction -/

/-- An attestation of chain 2 with this sequence number. -/
def sampleVaa (sequence : UInt64) : PostedVaa :=
  ⟨1, 0, ⟨0, 0, ⟨2⟩, .fill 0xab, sequence, 1⟩, []⟩

/-- The instruction that posts it to the account at a place. -/
def samplePost (place : Nat) (sequence : UInt64) : Instruction :=
  ⟨0, [place], Text.Base58.encode (sampleVaa sequence).bytes⟩

theorem postedVaa?_samplePost (place : Nat) (sequence : UInt64) :
    (samplePost place sequence).postedVaa? = some (sampleVaa sequence) := by
  have hparse : PostedVaa.parse (sampleVaa sequence).bytes = .ok (sampleVaa sequence) :=
    PostedVaa.parse_eq_ok_iff.mpr ⟨Nat.two_pow_pos 32, [], (List.append_nil _).symm⟩
  simp only [Instruction.postedVaa?, samplePost, Text.Base58.decode_encode]
  rw [Option.bind_eq_bind, Option.bind_some, hparse]
  rfl

/-- A transaction that posts attestation 1 to account B and then attestation 2 to account A. -/
def samplePosts : Transaction where
  signatures := ["s"]
  keys := ["W", "A", "B"]
  instructions := [samplePost 2 1, samplePost 1 2]
  execution := .none

/-- The instruction as an endpoint writes it. -/
def instructionJson (i : Instruction) : Json :=
  .object [("accounts", .array (i.accounts.map .ofNat)), ("data", .string i.data),
    ("programIdIndex", .ofNat i.program)]

/-- The transaction as an endpoint writes it. -/
def transactionJson (tx : Transaction) : Json :=
  .object [("transaction", .object [
    ("message", .object [
      ("accountKeys", .array (tx.keys.map .string)),
      ("instructions", .array (tx.instructions.map instructionJson))]),
    ("signatures", .array (tx.signatures.map .string))])]

/-- An endpoint that knows this transaction only, in the history of every account. -/
def sampleAnswer : Request → Reply
  | .post _ "getSignaturesForAddress" _ => replyOf (.array [.object [("signature", .string "s")]])
  | _ => replyOf (transactionJson samplePosts)

/-- The history that it answers with. -/
def sampleHistory : AccountHistory where
  entries := [⟨"s", false⟩]
  transaction? _ := some samplePosts

theorem servesHistory_sampleAnswer (account : String) :
    sampleSource.ServesHistory sampleAnswer account sampleHistory where
  entries := by
    have hanswer : rpcAnswer "getSignaturesForAddress"
        (replyOf (.array [.object [("signature", .string "s")]])) =
        .ok (.ok (.array [.object [("signature", .string "s")]])) := by
      rw [rpcAnswer_replyOf _ (by decide)]
      simp only [Json.canonical, Json.canonicalItems, Json.canonicalMembers, Json.insertMember]
    rw [history, bind_against, call_against, sampleAnswer, hanswer]
    rfl
  transaction signature _ := by
    have hread :
        Transaction.ofJson? (transactionJson samplePosts).canonical = some samplePosts := by
      simp only [transactionJson, samplePosts, List.map, instructionJson, samplePost,
        Json.canonical, Json.canonicalItems, Json.canonicalMembers, Json.insertMember]
      rfl
    have hanswer : rpcAnswer "getTransaction" (replyOf (transactionJson samplePosts)) =
        .ok (.ok (transactionJson samplePosts).canonical) :=
      rpcAnswer_replyOf _ (by decide)
    have hcall (params : Json) : sampleAnswer (.post sampleSource.url "getTransaction" params) =
        replyOf (transactionJson samplePosts) := rfl
    rw [transaction?, bind_against, call_against, hcall, hanswer]
    exact congrArg Except.ok hread

theorem postings_sampleHistory : sampleHistory.postings sampleSource.coreBridge =
    [⟨samplePosts, samplePost 2 1⟩, ⟨samplePosts, samplePost 1 2⟩] := by
  rfl

/-- Only the second instruction refers to account A, and the look-up of account A finds attestation
1, of another message than attestation 2. -/
theorem lookup_finds_other :
    sampleSource.ServesHistory sampleAnswer "A" sampleHistory ∧
    sampleHistory.postings sampleSource.coreBridge =
      [⟨samplePosts, samplePost 2 1⟩, ⟨samplePosts, samplePost 1 2⟩] ∧
    Posting.accounts ⟨samplePosts, samplePost 2 1⟩ = ["B"] ∧
    Posting.accounts ⟨samplePosts, samplePost 1 2⟩ = ["A"] ∧
    Posting.vaa? ⟨samplePosts, samplePost 1 2⟩ = some (sampleVaa 2) ∧
    (sampleSource.postedVaa "A").against sampleAnswer = .ok (some (sampleVaa 1)) ∧
    (sampleVaa 1).messageId ≠ (sampleVaa 2).messageId := by
  have hfound : [⟨samplePosts, samplePost 2 1⟩, ⟨samplePosts, samplePost 1 2⟩].findSome?
      Posting.vaa? = some (sampleVaa 1) :=
    List.findSome?_eq_some_iff.mpr ⟨[], _, _, rfl, postedVaa?_samplePost 2 1, nofun⟩
  refine ⟨servesHistory_sampleAnswer "A", postings_sampleHistory, rfl, rfl,
    postedVaa?_samplePost 1 2, ?_, by decide⟩
  rw [postedVaa_against (servesHistory_sampleAnswer "A"), postings_sampleHistory, hfound]

/-- The look-up of account B finds attestation 1, and the candidate has its message id. -/
theorem lookup_finds_first_sampleAnswer :
    "B" ∈ Posting.accounts ⟨samplePosts, samplePost 2 1⟩ ∧
    (sampleSource.postedVaa "B").against sampleAnswer = .ok (some (sampleVaa 1)) ∧
    (sampleSource.candidatesOf 7 .epoch samplePosts [⟨"completeNative", "B"⟩]).against
      sampleAnswer = .ok [sampleSource.candidate 7 .epoch samplePosts ⟨"completeNative", "B"⟩
        (sampleVaa 1)] := by
  have hrefers : "B" ∈ Posting.accounts ⟨samplePosts, samplePost 2 1⟩ := List.mem_singleton_self _
  have hother : ∀ q ∈ [] ++ [⟨samplePosts, samplePost 1 2⟩], "B" ∈ Posting.accounts q →
      q.vaa? = none := by
    intro q hmem hB
    rw [List.mem_singleton.mp hmem] at hB
    exact absurd hB (by decide)
  obtain ⟨-, hown⟩ := lookup_finds_first (servesHistory_sampleAnswer "B") postings_sampleHistory
    hrefers (postedVaa?_samplePost 2 1) hother
  obtain ⟨hlookup, hcandidate⟩ := hown fun q hmem => absurd hmem List.not_mem_nil
  exact ⟨hrefers, hlookup, (hcandidate 7 .epoch samplePosts "completeNative").1⟩

end Source

end RedemptionWatch.Solana
