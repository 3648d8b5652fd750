import RedemptionWatch.Proofs.Terra.Paging
import RedemptionWatch.Proofs.Vaa.Carriers

/-!
# Redemptions of Terra

A message submits a text to the contract if it is for the contract and asks, in JSON or in JSON in
base 64, that this be submitted (`Submits`). It redeems an attestation if the text is that of the
attestation (`Redeems`).

Two searches go through the messages of a transaction. The one looks for the first message that
submits anything, and the transaction is recorded by what is submitted there
(`Transaction.candidate?_eq_some_iff`). So a redemption is recorded if nothing is submitted before
it, and a transaction is skipped if what it submits first is no attestation
(`Source.redemptions_recorded`). The other search looks for the first message of any kind that has a
sender. Where another message has one before, the candidate does not have the sender of the message
that redeems (`Transaction.candidate_names_first`).
-/

namespace RedemptionWatch

namespace Terra

/-! ## Messages -/

/-- What a message asks of a contract. -/
inductive Asks (m : Json) : Json → Prop where
  | plain {body : Json} (message : (m.get? "execute_msg" <|> m.get? "msg") = some body)
      (json : ∀ s, body ≠ .string s) : Asks m body
  | encoded {s text : String} {bs : List UInt8} {body : Json}
      (message : (m.get? "execute_msg" <|> m.get? "msg") = some (.string s))
      (bytes : Text.Base64.decode s = some bs) (read : Octets.text? bs = some text)
      (json : Json.ofText? text = some body) : Asks m body.canonical

/-- The message submits this text to the contract. -/
structure Submits (contract : String) (m : Json) (text : String) : Prop where
  target : m.get? "contract" = some (.string contract)
  data : ∃ body, Asks m body ∧ follow? body ["submit_vaa", "data"] = some (.string text)

/-- The message submits this attestation to the contract. -/
def Redeems (contract : String) (m : Json) (vaa : SignedVaa) : Prop :=
  ∃ text bs, Submits contract m text ∧ Text.Base64.decode text = some bs ∧
    SignedVaa.parse bs = .ok vaa

/-- The sender of a message. -/
def senderOf? (m : Json) : Option String :=
  (m.get? "sender").bind Json.string?

namespace Transaction

/-- This is the first message that submits anything to the contract, and what it submits. -/
structure FirstSubmits (tx : Transaction) (contract : String) (before : List Json) (m : Json)
    (after : List Json) (text : String) : Prop where
  messages : tx.messages = before ++ m :: after
  submits : Submits contract m text
  first : ∀ x ∈ before, ∀ other, ¬Submits contract x other

/-- A tracked method is among the logged actions, or the transaction failed. -/
def Counts (tx : Transaction) (methods : List String) : Prop :=
  (∃ a ∈ tx.attributes, a.key = "action" ∧ ∃ method ∈ methods, a.value = some method) ∨
    tx.status = .failed

end Transaction

variable {m body : Json} {contract text other : String} {vaa : SignedVaa} {tx : Transaction}
  {methods : List String} {chainId : ChainId} {height : UInt64} {c : Candidate}
  {before after : List Json}

theorem string?_eq_some_iff {j : Json} {s : String} : j.string? = some s ↔ j = .string s := by
  cases j <;> simp [Json.string?]

theorem isFor_iff : isFor contract m = true ↔ m.get? "contract" = some (.string contract) := by
  unfold isFor
  rw [beq_iff_eq, Option.bind_eq_some_iff]
  simp only [string?_eq_some_iff, exists_eq_right]

theorem messageBody?_eq_some_iff : messageBody? m = some body ↔ Asks m body := by
  constructor
  · intro h
    obtain ⟨value, hmessage, h⟩ := Option.bind_eq_some_iff.mp h
    cases value with
    | string s =>
      obtain ⟨bs, hbytes, h⟩ := Option.bind_eq_some_iff.mp h
      obtain ⟨text, hread, h⟩ := Option.bind_eq_some_iff.mp h
      obtain ⟨body, hjson, h⟩ := Option.bind_eq_some_iff.mp h
      cases h
      exact .encoded hmessage hbytes hread hjson
    | _ =>
      cases h
      exact .plain hmessage nofun
  · intro h
    unfold messageBody?
    cases h with
    | plain hmessage hjson =>
      rw [hmessage]
      cases body with
      | string s => exact absurd rfl (hjson s)
      | _ => rfl
    | encoded hmessage hbytes hread hjson =>
      simp only [hmessage, hbytes, hread, hjson, Option.bind_eq_bind, Option.bind_some]
      rfl

theorem submittedText?_eq_some_iff : submittedText? m = some text ↔
    ∃ body, Asks m body ∧ follow? body ["submit_vaa", "data"] = some (.string text) := by
  unfold submittedText?
  simp only [Option.bind_eq_bind, Option.bind_eq_some_iff, messageBody?_eq_some_iff,
    string?_eq_some_iff, exists_eq_right]

theorem submits_iff :
    (if isFor contract m = true then submittedText? m else none) = some text ↔
      Submits contract m text := by
  rw [Option.ite_none_right_eq_some, isFor_iff, submittedText?_eq_some_iff]
  exact ⟨fun ⟨target, data⟩ => ⟨target, data⟩, fun h => ⟨h.target, h.data⟩⟩

/-- A message submits one text. -/
theorem Submits.unique (h : Submits contract m text) (h' : Submits contract m other) :
    text = other :=
  Option.some.inj ((submits_iff.mpr h).symm.trans (submits_iff.mpr h'))

theorem vaaOfText_eq_ok_iff : vaaOfText text = .ok vaa ↔
    ∃ bs, Text.Base64.decode text = some bs ∧ SignedVaa.parse bs = .ok vaa := by
  unfold vaaOfText
  cases Text.Base64.decode text with
  | none => simp
  | some bs =>
    simp only [Option.some.injEq, exists_eq_left']
    cases SignedVaa.parse bs <;> simp

/-- A message redeems what the text that it submits decodes to. -/
theorem Submits.redeems_iff (h : Submits contract m text) :
    Redeems contract m vaa ↔ vaaOfText text = .ok vaa := by
  rw [vaaOfText_eq_ok_iff]
  constructor
  · rintro ⟨other, bs, hother, hbytes, hparse⟩
    rw [h.unique hother]
    exact ⟨bs, hbytes, hparse⟩
  · rintro ⟨bs, hbytes, hparse⟩
    exact ⟨text, bs, h, hbytes, hparse⟩

/-! ## Transactions -/

namespace Transaction

theorem submitted?_eq_some_iff {result : Except SubmitError SignedVaa} :
    tx.submitted? contract = some result ↔
      ∃ before m after text, tx.FirstSubmits contract before m after text ∧
        vaaOfText text = result := by
  have hfirst : (tx.messages.filter (isFor contract)).findSome? submittedText? =
      tx.messages.findSome? fun m => if isFor contract m = true then submittedText? m else none := by
    rw [← List.head?_filterMap, List.filterMap_filter, List.head?_filterMap]
  unfold submitted?
  rw [hfirst, Option.map_eq_some_iff]
  constructor
  · rintro ⟨text, hfound, rfl⟩
    obtain ⟨before, m, after, hmessages, hm, hbefore⟩ := List.findSome?_eq_some_iff.mp hfound
    refine ⟨before, m, after, text, ⟨hmessages, submits_iff.mp hm, ?_⟩, rfl⟩
    intro x hx other hother
    exact nomatch (hbefore x hx).symm.trans (submits_iff.mpr hother)
  · rintro ⟨before, m, after, text, h, rfl⟩
    refine ⟨text, List.findSome?_eq_some_iff.mpr
      ⟨before, m, after, h.messages, submits_iff.mpr h.submits, fun x hx => ?_⟩, rfl⟩
    exact Option.eq_none_iff_forall_ne_some.mpr fun other hother =>
      h.first x hx other (submits_iff.mp hother)

theorem action?_isSome_iff : (tx.action? methods).isSome ↔
    ∃ a ∈ tx.attributes, a.key = "action" ∧ ∃ method ∈ methods, a.value = some method := by
  unfold action?
  rw [List.findSome?_isSome_iff]
  simp only [List.mem_filter, decide_eq_true_eq, and_assoc, Option.isSome_iff_exists,
    Option.filter_eq_some_iff]
  exact exists_congr fun a => and_congr_right fun _ => and_congr_right fun _ =>
    exists_congr fun method => and_comm

theorem method?_isSome_iff : (tx.method? methods).isSome ↔ tx.Counts methods := by
  unfold method? Counts
  rw [← action?_isSome_iff]
  cases tx.action? methods with
  | some action => simp
  | none => by_cases h : tx.status = .failed <;> simp [h]

/-- A candidate is what a transaction that counts submits first, and the rest of it is that of the
transaction. -/
theorem candidate?_eq_some_iff : tx.candidate? chainId contract methods height = some c ↔
    ∃ before m after text vaa method, tx.FirstSubmits contract before m after text ∧
      vaaOfText text = .ok vaa ∧ tx.method? methods = some method ∧
      c = { messageId := vaa.messageId, chainId, method, txHash := tx.hash, sender := tx.sender,
            target := contract, blockNumber := height,
            timestamp := (tx.timestamp.bind Timestamp.ofText?).getD .epoch,
            status := tx.status } := by
  constructor
  · intro h
    obtain ⟨result, hsubmitted, h⟩ := Option.bind_eq_some_iff.mp h
    obtain ⟨before, m, after, text, hfirst, rfl⟩ := submitted?_eq_some_iff.mp hsubmitted
    cases hvaa : vaaOfText text with
    | error reason =>
      rw [hvaa] at h
      exact nomatch h
    | ok vaa =>
      rw [hvaa] at h
      obtain ⟨method, hmethod, h⟩ := Option.bind_eq_some_iff.mp h
      exact ⟨before, m, after, text, vaa, method, hfirst, hvaa, hmethod,
        (Option.some.inj h).symm⟩
  · rintro ⟨before, m, after, text, vaa, method, hfirst, hvaa, hmethod, rfl⟩
    unfold candidate?
    rw [submitted?_eq_some_iff.mpr ⟨before, m, after, text, hfirst, rfl⟩, hvaa, hmethod]
    rfl

/-- A transaction that counts is recorded by its first submission, if that is an attestation. -/
theorem FirstSubmits.exists_candidate (h : tx.FirstSubmits contract before m after text)
    (hcounts : tx.Counts methods) (hredeems : Redeems contract m vaa) :
    ∃ c, tx.candidate? chainId contract methods height = some c ∧
      c.messageId = vaa.messageId ∧ c.txHash = tx.hash ∧ c.status = tx.status ∧
      c.sender = tx.sender := by
  obtain ⟨method, hmethod⟩ := Option.isSome_iff_exists.mp (method?_isSome_iff.mpr hcounts)
  exact ⟨_, candidate?_eq_some_iff.mpr
    ⟨before, m, after, text, vaa, method, h, h.submits.redeems_iff.mp hredeems, hmethod, rfl⟩,
    rfl, rfl, rfl, rfl⟩

/-- A transaction whose first submission is no attestation is skipped. -/
theorem FirstSubmits.candidate?_eq_none (h : tx.FirstSubmits contract before m after text)
    (hnone : ∀ vaa, ¬Redeems contract m vaa) :
    tx.candidate? chainId contract methods height = none := by
  have hsubmitted := submitted?_eq_some_iff.mpr ⟨before, m, after, text, h, rfl⟩
  unfold candidate?
  rw [hsubmitted]
  cases hvaa : vaaOfText text with
  | error reason => rfl
  | ok vaa => exact absurd (h.submits.redeems_iff.mpr hvaa) (hnone vaa)

/-! ## Senders -/

theorem sender_eq (tx : Transaction) : tx.sender = (tx.messages.findSome? senderOf?).getD "" := rfl

/-- The sender of a transaction is that of its first message that has one. -/
theorem sender_of_first (hmessages : tx.messages = before ++ m :: after)
    (hbefore : ∀ x ∈ before, senderOf? x = none) {name : String} (hm : senderOf? m = some name) :
    tx.sender = name := by
  rw [sender_eq, List.findSome?_eq_some_iff.mpr ⟨before, m, after, hmessages, hm, hbefore⟩]
  rfl

theorem sender_of_none (h : ∀ x ∈ tx.messages, senderOf? x = none) : tx.sender = "" := by
  rw [sender_eq, List.findSome?_eq_none_iff.mpr h]
  rfl

/-- Either no message has a sender, or there is a first one that has. -/
theorem sender_cases (tx : Transaction) :
    (∀ x ∈ tx.messages, senderOf? x = none) ∨
      ∃ before m after name, tx.messages = before ++ m :: after ∧
        (∀ x ∈ before, senderOf? x = none) ∧ senderOf? m = some name := by
  cases hfound : tx.messages.findSome? senderOf? with
  | none => exact .inl (List.findSome?_eq_none_iff.mp hfound)
  | some name =>
    obtain ⟨before, m, after, hmessages, hm, hbefore⟩ := List.findSome?_eq_some_iff.mp hfound
    exact .inr ⟨before, m, after, name, hmessages, hbefore, hm⟩

/-- A message has the sender of its transaction if no message before it has another one and, where
it has none, no message after it has one. -/
theorem sender_eq_own (hmessages : tx.messages = before ++ m :: after)
    (hbefore : ∀ x ∈ before, ∀ name, senderOf? x = some name → senderOf? m = some name)
    (hafter : senderOf? m = none → ∀ x ∈ after, senderOf? x = none) :
    tx.sender = (senderOf? m).getD "" := by
  cases hm : senderOf? m with
  | none =>
    refine sender_of_none fun x hx => ?_
    rw [hmessages, List.mem_append, List.mem_cons] at hx
    rcases hx with hx | rfl | hx
    · exact Option.eq_none_iff_forall_ne_some.mpr fun name hname =>
        nomatch hm.symm.trans (hbefore x hx name hname)
    · exact hm
    · exact hafter hm x hx
  | some name =>
    have hfound : tx.messages.findSome? senderOf? = some name := by
      rw [hmessages, List.findSome?_append, List.findSome?_cons, hm]
      cases hearlier : before.findSome? senderOf? with
      | none => rfl
      | some earlier =>
        obtain ⟨x, hx, hname⟩ := List.exists_of_findSome?_eq_some hearlier
        exact ((hbefore x hx earlier hname).symm.trans hm : some earlier = some name)
    rw [sender_eq, hfound]

/-- **A candidate names the first message that submits, and the first sender.** There is a message
of the transaction to the contract, the first that submits anything, whose attestation gives the
identity of the candidate. The sender of the candidate is that of the first message of any kind that
has one, and empty if none has. So it is the message's own one, empty if it has none, unless a
message before it has another sender, or it has none and a message after it has one. -/
theorem candidate_names_first (h : tx.candidate? chainId contract methods height = some c) :
    ∃ before m after vaa, tx.messages = before ++ m :: after ∧ Redeems contract m vaa ∧
      c.messageId = vaa.messageId ∧ (∀ x ∈ before, ∀ other, ¬Submits contract x other) ∧
      ((∀ x ∈ tx.messages, senderOf? x = none) ∧ c.sender = "" ∨
        ∃ earlier x later, tx.messages = earlier ++ x :: later ∧
          (∀ y ∈ earlier, senderOf? y = none) ∧ senderOf? x = some c.sender) ∧
      ((∀ x ∈ before, ∀ name, senderOf? x = some name → senderOf? m = some name) →
        (senderOf? m = none → ∀ x ∈ after, senderOf? x = none) →
        c.sender = (senderOf? m).getD "") := by
  obtain ⟨before, m, after, text, vaa, method, hfirst, hvaa, -, rfl⟩ :=
    candidate?_eq_some_iff.mp h
  refine ⟨before, m, after, vaa, hfirst.messages, hfirst.submits.redeems_iff.mpr hvaa, rfl,
    hfirst.first, ?_, sender_eq_own hfirst.messages⟩
  rcases tx.sender_cases with hnone | ⟨earlier, x, later, name, hmessages, hearlier, hx⟩
  · exact .inl ⟨hnone, sender_of_none hnone⟩
  · refine .inr ⟨earlier, x, later, hmessages, hearlier, ?_⟩
    rw [hx, sender_of_first hmessages hearlier hx]

/-- A message to a contract that submits a text. -/
def sampleMessage (contract sender data : String) : Json :=
  .object [("sender", .string sender), ("contract", .string contract),
    ("execute_msg", .object [("submit_vaa", .object [("data", .string data)])])]

/-- A successful transaction of these messages, with a tracked action. -/
def sampleOf (messages : List Json) : Transaction where
  hash := "A1"
  timestamp := none
  code := some 0
  content := .object [("value", .object [("msg", .array messages)])]
  attributes := [⟨"action", some "complete_transfer_wrapped"⟩]

/-- The attestation of message 77 in base 64. -/
def sampleData : String := Text.Base64.encode (SignedVaa.carried.bytes [])

theorem submits_sampleMessage (contract sender data : String) :
    Submits contract (sampleMessage contract sender data) data :=
  ⟨rfl, _, .plain rfl nofun, rfl⟩

theorem vaaOfText_sampleData : vaaOfText sampleData = .ok SignedVaa.carried :=
  (vaaOfText_encode _).trans (by decide +kernel)

theorem redeems_sampleMessage (contract sender : String) :
    Redeems contract (sampleMessage contract sender sampleData) SignedVaa.carried :=
  (submits_sampleMessage ..).redeems_iff.mpr vaaOfText_sampleData

theorem counts_sampleOf (messages : List Json) :
    (sampleOf messages).Counts ["complete_transfer_wrapped"] :=
  .inl ⟨_, List.mem_singleton_self _, rfl, _, List.mem_singleton_self _, rfl⟩

/-- A message of another sender to another contract, and then one that redeems. -/
def traderFirst : Transaction :=
  sampleOf [sampleMessage "terra1swap" "terra1trader" sampleData,
    sampleMessage "terra1bridge" "terra1sender" sampleData]

theorem not_submits_trader (text : String) :
    ¬Submits "terra1bridge" (sampleMessage "terra1swap" "terra1trader" sampleData) text :=
  fun h => absurd (isFor_iff.mpr h.target) (by decide +kernel)

theorem firstSubmits_traderFirst : traderFirst.FirstSubmits "terra1bridge"
    [sampleMessage "terra1swap" "terra1trader" sampleData]
    (sampleMessage "terra1bridge" "terra1sender" sampleData) [] sampleData :=
  ⟨rfl, submits_sampleMessage .., fun _ hx => List.mem_singleton.mp hx ▸ not_submits_trader⟩

/-- The candidate has the identity that the second message gives, and the sender of the first one.
-/
theorem candidate_names_first_traderFirst :
    ∃ c, traderFirst.candidate? ⟨3⟩ "terra1bridge" ["complete_transfer_wrapped"] 9 = some c ∧
      c.messageId = SignedVaa.carried.messageId ∧ c.sender = "terra1trader" := by
  have hrecorded : ∃ c, traderFirst.candidate? ⟨3⟩ "terra1bridge" ["complete_transfer_wrapped"] 9 =
      some c := by
    obtain ⟨c, hc, -⟩ :=
      firstSubmits_traderFirst.exists_candidate (counts_sampleOf _) (redeems_sampleMessage ..)
    exact ⟨c, hc⟩
  obtain ⟨c, hc⟩ := hrecorded
  obtain ⟨before, m, after, vaa, hmessages, hredeems, hid, -, hsender, -⟩ :=
    candidate_names_first hc
  refine ⟨c, hc, ?_, ?_⟩
  · have hm : m ∈ traderFirst.messages := hmessages ▸ List.mem_append_cons_self
    obtain rfl | rfl := List.mem_pair.mp hm
    · obtain ⟨text, -, hsubmits, -⟩ := hredeems
      exact absurd hsubmits (not_submits_trader text)
    · have hvaa := (submits_sampleMessage ..).redeems_iff.mp hredeems
      rw [hid, Except.ok.inj (hvaa.symm.trans vaaOfText_sampleData)]
  · obtain ⟨hnone, -⟩ | ⟨earlier, x, later, hsplit, hearlier, hx⟩ := hsender
    · exact nomatch hnone _ List.mem_cons_self
    · cases earlier with
      | nil =>
        obtain ⟨rfl, -⟩ := List.cons_eq_cons.mp hsplit
        exact (Option.some.inj hx).symm
      | cons y rest =>
        obtain ⟨rfl, -⟩ := List.cons_eq_cons.mp hsplit
        exact nomatch hearlier _ List.mem_cons_self

/-- The candidate has the sender of the other message, and not that of one that redeems. -/
theorem candidate_has_other_sender :
    ∃ c, traderFirst.candidate? ⟨3⟩ "terra1bridge" ["complete_transfer_wrapped"] 9 = some c ∧
      c.sender = "terra1trader" ∧ ∀ m ∈ traderFirst.messages, ∀ vaa,
        Redeems "terra1bridge" m vaa → (senderOf? m).getD "" ≠ c.sender := by
  obtain ⟨c, hc, -, -, -, hsender⟩ :=
    firstSubmits_traderFirst.exists_candidate (counts_sampleOf _) (redeems_sampleMessage ..)
  refine ⟨c, hc, hsender, fun m hm vaa hredeems => ?_⟩
  rw [hsender]
  obtain rfl | rfl := List.mem_pair.mp hm
  · obtain ⟨text, -, hsubmits, -⟩ := hredeems
    exact absurd hsubmits (not_submits_trader text)
  · change "terra1sender" ≠ "terra1trader"
    decide

end Transaction

/-! ## Blocks -/

namespace Source

theorem mem_extract_iff {s : Source} {txs : List Transaction} : c ∈ s.extract height txs ↔
    ∃ tx ∈ txs, tx.candidate? s.chainId s.contract s.methods height = some c :=
  List.mem_filterMap

/-- **Redemptions are recorded.** If a transaction counts, a message of it redeems an attestation,
and no message before that one submits anything, then the block has a candidate with the identity of
the attestation, for this transaction and with its status. If what a transaction submits first is no
attestation, the transaction is skipped and all others are extracted as without it. Each candidate
has the identity of an attestation that a message of a transaction that counts redeems, and the hash
and the status of this transaction. -/
theorem redemptions_recorded (s : Source) (height : UInt64) (txs : List Transaction) :
    (∀ tx ∈ txs, tx.Counts s.methods → ∀ before m after text vaa,
      tx.FirstSubmits s.contract before m after text → Redeems s.contract m vaa →
      ∃ c ∈ s.extract height txs,
        c.messageId = vaa.messageId ∧ c.txHash = tx.hash ∧ c.status = tx.status) ∧
    (∀ earlier tx later, txs = earlier ++ tx :: later → ∀ before m after text,
      tx.FirstSubmits s.contract before m after text → (∀ vaa, ¬Redeems s.contract m vaa) →
      s.extract height txs = s.extract height (earlier ++ later)) ∧
    ∀ c ∈ s.extract height txs, ∃ tx ∈ txs, tx.Counts s.methods ∧ ∃ m ∈ tx.messages, ∃ vaa,
      Redeems s.contract m vaa ∧ c.messageId = vaa.messageId ∧ c.txHash = tx.hash ∧
      c.status = tx.status := by
  refine ⟨?_, ?_, ?_⟩
  · intro tx htx hcounts before m after text vaa hfirst hredeems
    obtain ⟨c, hc, hid, hhash, hstatus, -⟩ := hfirst.exists_candidate hcounts hredeems
    exact ⟨c, mem_extract_iff.mpr ⟨tx, htx, hc⟩, hid, hhash, hstatus⟩
  · rintro earlier tx later rfl before m after text hfirst hnone
    have hskipped : tx.candidate? s.chainId s.contract s.methods height = none :=
      hfirst.candidate?_eq_none hnone
    simp only [extract, List.filterMap_append, List.filterMap_cons, hskipped]
  · intro c hc
    obtain ⟨tx, htx, hc⟩ := mem_extract_iff.mp hc
    obtain ⟨before, m, after, text, vaa, method, hfirst, hvaa, hmethod, rfl⟩ :=
      Transaction.candidate?_eq_some_iff.mp hc
    have hcounts := Transaction.method?_isSome_iff.mp (Option.isSome_of_eq_some hmethod)
    have hm : m ∈ tx.messages := hfirst.messages ▸ List.mem_append_cons_self
    exact ⟨tx, htx, hcounts, m, hm, vaa, hfirst.submits.redeems_iff.mpr hvaa, rfl, rfl, rfl⟩

/-- A message to the contract of the sample source. -/
def sampleSubmission (data : String) : Json :=
  Transaction.sampleMessage sampleSource.contract "terra1sender" data

theorem not_redeems_undecodable (vaa : SignedVaa) :
    ¬Redeems sampleSource.contract (sampleSubmission "AAEC") vaa := by
  have herror : vaaOfText "AAEC" = .error (.vaa (.tooShort 3 6)) := by decide +kernel
  unfold sampleSubmission
  rw [(Transaction.submits_sampleMessage ..).redeems_iff, herror]
  exact nofun

/-- A transaction that redeems, and one that submits what is no attestation. -/
theorem redemptions_recorded_sampleOf :
    let txs := [Transaction.sampleOf [sampleSubmission Transaction.sampleData],
      Transaction.sampleOf [sampleSubmission "AAEC"]]
    (∃ c ∈ sampleSource.extract 9 txs, c.messageId = SignedVaa.carried.messageId) ∧
      sampleSource.extract 9 txs = sampleSource.extract 9
        [Transaction.sampleOf [sampleSubmission Transaction.sampleData]] := by
  intro txs
  obtain ⟨hrecorded, hskipped, -⟩ := redemptions_recorded sampleSource 9 txs
  constructor
  · obtain ⟨c, hc, hid, -⟩ := hrecorded _ List.mem_cons_self (Transaction.counts_sampleOf _)
      [] _ [] _ _ ⟨rfl, Transaction.submits_sampleMessage .., nofun⟩
      (Transaction.redeems_sampleMessage ..)
    exact ⟨c, hc, hid⟩
  · exact hskipped [_] _ [] rfl [] _ [] _
      ⟨rfl, Transaction.submits_sampleMessage .., nofun⟩ not_redeems_undecodable

/-- The attestation of message 78. -/
def nextCarried : SignedVaa :=
  { SignedVaa.carried with body := { SignedVaa.carried.body with sequence := 78 } }

/-- The same redemption after a submission that is no attestation, and the redemption of another
attestation after it. Neither second redemption is recorded. -/
theorem second_redemptions_lost :
    let behindUndecodable := Transaction.sampleOf
      [sampleSubmission "AAEC", sampleSubmission Transaction.sampleData]
    let behindOther := Transaction.sampleOf [sampleSubmission Transaction.sampleData,
      sampleSubmission (Text.Base64.encode (nextCarried.bytes []))]
    (behindUndecodable.code = some 0 ∧ behindUndecodable.Counts sampleSource.methods ∧
      (∃ m ∈ behindUndecodable.messages,
        Redeems sampleSource.contract m SignedVaa.carried) ∧
      sampleSource.extract 9 [behindUndecodable] = []) ∧
    behindOther.code = some 0 ∧ behindOther.Counts sampleSource.methods ∧
      (∃ m ∈ behindOther.messages, Redeems sampleSource.contract m nextCarried) ∧
      ∀ c ∈ sampleSource.extract 9 [behindOther], c.messageId ≠ nextCarried.messageId := by
  intro behindUndecodable behindOther
  refine ⟨⟨rfl, Transaction.counts_sampleOf _, ?_, ?_⟩, rfl, Transaction.counts_sampleOf _, ?_, ?_⟩
  · exact ⟨sampleSubmission Transaction.sampleData, List.mem_of_getLast? rfl,
      Transaction.redeems_sampleMessage ..⟩
  · have hfirst : behindUndecodable.FirstSubmits sampleSource.contract [] (sampleSubmission "AAEC")
        [sampleSubmission Transaction.sampleData] "AAEC" :=
      ⟨rfl, Transaction.submits_sampleMessage .., nofun⟩
    exact List.filterMap_cons_none (hfirst.candidate?_eq_none not_redeems_undecodable)
  · have hvaa : vaaOfText (Text.Base64.encode (nextCarried.bytes [])) = .ok nextCarried :=
      (vaaOfText_encode _).trans (by decide +kernel)
    exact ⟨_, List.mem_of_getLast? rfl,
      (Transaction.submits_sampleMessage ..).redeems_iff.mpr hvaa⟩
  · intro c hc
    obtain ⟨tx, htx, hc⟩ := mem_extract_iff.mp hc
    obtain rfl := List.mem_singleton.mp htx
    have hfirst : behindOther.FirstSubmits sampleSource.contract []
        (sampleSubmission Transaction.sampleData)
        [sampleSubmission (Text.Base64.encode (nextCarried.bytes []))] Transaction.sampleData :=
      ⟨rfl, Transaction.submits_sampleMessage .., nofun⟩
    obtain ⟨c', hc', hid, -⟩ :=
      hfirst.exists_candidate (Transaction.counts_sampleOf _) (Transaction.redeems_sampleMessage ..)
    rw [Option.some.inj (hc.symm.trans hc'), hid]
    decide

end Source

end Terra

end RedemptionWatch
