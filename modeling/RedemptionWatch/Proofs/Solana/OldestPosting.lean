import RedemptionWatch.Proofs.Endpoint.FetchLog
import RedemptionWatch.Proofs.Solana.Answers
import RedemptionWatch.Proofs.Solana.Lookup

/-!
# A look-up takes the oldest posting

After the history of an account, a look-up calls for the transactions that did not fail, from the
oldest on (`oldestFirst`). It passes over answers that hold no transaction, or one that posts
nothing, and ends with the first transaction that posts an attestation, or with the first call that
fails (`Source.Seeks`). `Source.lookup_takes_oldest` says so of its calls and of its result, for any
replies.

Which transaction an answer holds is said by the values that it writes (`Transaction.WrittenAs`).
Which attestation a transaction posts is said by its instructions (`Transaction.FirstPosts`): those
of the top level come before those that they made. An instruction whose place for the program is
beyond the keys of its transaction posts none (`Transaction.postedVaa?_listed`).
-/

namespace RedemptionWatch.Solana

open Endpoint

/-! ## What a transaction posts -/

namespace Transaction

variable {tx : Transaction} {coreBridge : String} {vaa : PostedVaa} {i : Instruction}

/-- The instruction is one of the core bridge, by its place among the keys of the message and the
loaded ones, and its data are those of an instruction that posts the attestation. -/
def Posts (tx : Transaction) (coreBridge : String) (i : Instruction) (vaa : PostedVaa) : Prop :=
  (tx.keys ++ tx.execution.writable ++ tx.execution.readonly)[i.program]? = some coreBridge ∧
    ∃ data, Text.Base58.decode i.data = some data ∧ PostedVaa.parse data = .ok vaa

/-- The attestation is the one of the first instruction that posts any. -/
def FirstPosts (tx : Transaction) (coreBridge : String) (vaa : PostedVaa) : Prop :=
  ∃ before i after, tx.instructions ++ tx.execution.inner = before ++ i :: after ∧
    tx.Posts coreBridge i vaa ∧ ∀ j ∈ before, ∀ other, ¬tx.Posts coreBridge j other

/-- No instruction posts an attestation. -/
def PostsNothing (tx : Transaction) (coreBridge : String) : Prop :=
  ∀ i ∈ tx.instructions ++ tx.execution.inner, ∀ vaa, ¬tx.Posts coreBridge i vaa

/-- The transaction without the instructions whose program has no place among its keys. -/
def listed (tx : Transaction) : Transaction :=
  let inList (i : Instruction) : Bool :=
    i.program < (tx.keys ++ tx.execution.writable ++ tx.execution.readonly).length
  { tx with
    instructions := tx.instructions.filter inList
    execution := { tx.execution with inner := tx.execution.inner.filter inList } }

/-- What an instruction posts, if it is one of the core bridge. -/
def postOf? (tx : Transaction) (coreBridge : String) (i : Instruction) : Option PostedVaa :=
  if tx.accountKeys[i.program]? = some coreBridge then i.postedVaa? else none

theorem postOf?_eq_some_iff : tx.postOf? coreBridge i = some vaa ↔ tx.Posts coreBridge i vaa := by
  have hdata : i.postedVaa? = some vaa ↔
      ∃ data, Text.Base58.decode i.data = some data ∧ PostedVaa.parse data = .ok vaa := by
    unfold Instruction.postedVaa?
    cases Text.Base58.decode i.data with
    | none => exact iff_of_false nofun nofun
    | some data => cases hparse : PostedVaa.parse data <;> simp [hparse, Except.toOption]
  unfold postOf? Posts accountKeys
  split_ifs with hprogram
  · rw [hdata]
    exact (and_iff_right hprogram).symm
  · exact iff_of_false nofun fun h => hprogram h.1

theorem postOf?_eq_none_iff :
    tx.postOf? coreBridge i = none ↔ ∀ vaa, ¬tx.Posts coreBridge i vaa := by
  rw [Option.eq_none_iff_forall_ne_some]
  exact forall_congr' fun vaa => not_congr postOf?_eq_some_iff

theorem postedVaa?_eq_findSome? (tx : Transaction) (coreBridge : String) :
    tx.postedVaa? coreBridge =
      (tx.instructions ++ tx.execution.inner).findSome? (tx.postOf? coreBridge) := by
  unfold postedVaa? ofProgram allInstructions
  induction tx.instructions ++ tx.execution.inner with
  | nil => rfl
  | cons i rest ih =>
    rw [List.findSome?_cons, ← ih, postOf?]
    by_cases hprogram : tx.accountKeys[i.program]? = some coreBridge
    · rw [List.filter_cons_of_pos (by simpa using hprogram), if_pos hprogram, List.findSome?_cons]
    · rw [List.filter_cons_of_neg (by simpa using hprogram), if_neg hprogram]

theorem postedVaa?_eq_some_iff :
    tx.postedVaa? coreBridge = some vaa ↔ tx.FirstPosts coreBridge vaa := by
  rw [postedVaa?_eq_findSome?, List.findSome?_eq_some_iff]
  simp only [postOf?_eq_some_iff, postOf?_eq_none_iff, FirstPosts]

theorem postedVaa?_eq_none_iff : tx.postedVaa? coreBridge = none ↔ tx.PostsNothing coreBridge := by
  rw [postedVaa?_eq_findSome?, List.findSome?_eq_none_iff]
  simp only [postOf?_eq_none_iff, PostsNothing]

/-- Instructions without a place for their program are passed over. -/
theorem postedVaa?_listed (tx : Transaction) (coreBridge : String) :
    tx.listed.postedVaa? coreBridge = tx.postedVaa? coreBridge := by
  have hfilter (instructions : List Instruction) :
      (instructions.filter fun i => decide (i.program < tx.accountKeys.length)).findSome?
        (tx.postOf? coreBridge) = instructions.findSome? (tx.postOf? coreBridge) := by
    induction instructions with
    | nil => rfl
    | cons i rest ih =>
      by_cases hplace : i.program < tx.accountKeys.length
      · rw [List.filter_cons_of_pos (by simpa using hplace), List.findSome?_cons,
          List.findSome?_cons, ih]
      · have hnone : tx.postOf? coreBridge i = none := by
          rw [postOf?, List.getElem?_eq_none (Nat.le_of_not_lt hplace)]
          exact if_neg nofun
        rw [List.filter_cons_of_neg (by simpa using hplace), List.findSome?_cons, hnone, ih]
  rw [postedVaa?_eq_findSome?, postedVaa?_eq_findSome?, ← hfilter, List.filter_append]
  rfl

end Transaction

/-! ## Calls -/

/-- The signatures of the transactions that did not fail, from the oldest on. A history has the
newest first. -/
def oldestFirst (entries : List HistoryEntry) : List String :=
  (entries.reverse.filter fun e => !e.failed).map (·.signature)

/-- What the reply to the call for a history comes to: the entries that the answer writes, or an
error if there is no answer or it writes none. -/
inductive IsHistory (reply : Reply) : Except FetchError (List HistoryEntry) → Prop where
  | failed {reason : FetchError} (h : outcome "getSignaturesForAddress" reply = .error reason) :
      IsHistory reply (.error reason)
  | unread {answer : Json} (h : outcome "getSignaturesForAddress" reply = .ok answer)
      (hread : ∀ entries, ¬Json.ListOf HistoryEntry.WrittenAs entries answer) :
      IsHistory reply (.error (.decode "getSignaturesForAddress"))
  | entries {answer : Json} {entries : List HistoryEntry}
      (h : outcome "getSignaturesForAddress" reply = .ok answer)
      (hread : Json.ListOf HistoryEntry.WrittenAs entries answer) : IsHistory reply (.ok entries)

/-- The history that an answer is read as. -/
def entriesOf (answer : Json) : Except FetchError (List HistoryEntry) :=
  match Json.list? HistoryEntry.ofJson? answer with
  | some entries => .ok entries
  | none => .error (.decode "getSignaturesForAddress")

/-- What the reply to the call for a history is read as. -/
def historyOf (reply : Reply) : Except FetchError (List HistoryEntry) :=
  match outcome "getSignaturesForAddress" reply with
  | .error reason => .error reason
  | .ok answer => entriesOf answer

theorem historyOf_eq_iff {reply : Reply} {history : Except FetchError (List HistoryEntry)} :
    historyOf reply = history ↔ IsHistory reply history := by
  have hentries (answer : Json) (entries : List HistoryEntry) :
      Json.list? HistoryEntry.ofJson? answer = some entries ↔
        Json.ListOf HistoryEntry.WrittenAs entries answer :=
    Json.list?_eq_some_iff HistoryEntry.ofJson?_eq_some_iff
  unfold historyOf
  constructor
  · rintro rfl
    cases hanswer : outcome "getSignaturesForAddress" reply with
    | error reason => exact .failed hanswer
    | ok answer =>
      dsimp only [entriesOf]
      cases hread : Json.list? HistoryEntry.ofJson? answer with
      | none =>
        exact .unread hanswer fun entries h => nomatch hread.symm.trans ((hentries _ _).mpr h)
      | some entries => exact .entries hanswer ((hentries _ _).mp hread)
  · intro h
    cases h with
    | failed hanswer => rw [hanswer]
    | unread hanswer hread =>
      rw [hanswer]
      dsimp only [entriesOf]
      split
      next entries h => exact absurd ((hentries _ _).mp h) (hread entries)
      next => rfl
    | entries hanswer hread =>
      rw [hanswer]
      dsimp only [entriesOf]
      rw [(hentries _ _).mpr hread]

/-- The call for the history of an account, with its reply. -/
def historyCall (url : Url) (account : String) (reply : Reply) : Event interface :=
  ⟨.post url "getSignaturesForAddress"
    (.array [.string account, .object [("commitment", .string "confirmed")]]), reply⟩

/-- The call for a transaction, with its reply. -/
structure Probe where
  signature : String
  reply : Reply

namespace Probe

variable (p : Probe)

/-- The event of the call. -/
def call (url : Url) : Event interface :=
  ⟨.post url "getTransaction" (.array [.string p.signature, .object [
    ("commitment", .string "confirmed"),
    ("encoding", .string "json"),
    ("maxSupportedTransactionVersion", .ofNat 0)]]), p.reply⟩

/-- What the call comes to. -/
def answer : Except FetchError Json :=
  outcome "getTransaction" p.reply

/-- The answer is null, or writes no transaction, or one that posts nothing. -/
inductive PassedOver (coreBridge : String) : Prop where
  | null (h : p.answer = .ok .null)
  | unread {answer : Json} (h : p.answer = .ok answer)
      (hread : ∀ tx : Transaction, ¬tx.WrittenAs answer)
  | silent {answer : Json} {tx : Transaction} (h : p.answer = .ok answer)
      (hread : tx.WrittenAs answer) (hposts : tx.PostsNothing coreBridge)

/-- The answer writes a transaction, and this is the first attestation that it posts. -/
def Finds (coreBridge : String) (vaa : PostedVaa) : Prop :=
  ∃ (answer : Json) (tx : Transaction), p.answer = .ok answer ∧ tx.WrittenAs answer ∧
    tx.FirstPosts coreBridge vaa

/-- The transaction that is read from the answer, if it is one. -/
def found : Except FetchError (Option Transaction) :=
  Transaction.ofJson? <$> p.answer

/-- The attestation that this transaction posts, if there is one. -/
def verdict (coreBridge : String) : Except FetchError (Option PostedVaa) :=
  (fun tx => tx.bind (·.postedVaa? coreBridge)) <$> p.found

variable {p} {coreBridge : String}

theorem found_eq_error_iff {reason : FetchError} :
    p.found = .error reason ↔ p.answer = .error reason := by
  unfold found
  cases p.answer with
  | error _ => simp
  | ok answer => exact iff_of_false nofun nofun

theorem found_eq_ok_iff {tx : Option Transaction} :
    p.found = .ok tx ↔ ∃ answer, p.answer = .ok answer ∧ Transaction.ofJson? answer = tx := by
  unfold found
  cases p.answer with
  | error reason => exact iff_of_false nofun nofun
  | ok answer => simp

theorem verdict_of_error {reason : FetchError} (h : p.found = .error reason) :
    p.verdict coreBridge = .error reason := by
  rw [verdict, h]
  rfl

theorem verdict_of_ok {tx : Option Transaction} (h : p.found = .ok tx) :
    p.verdict coreBridge = .ok (tx.bind (·.postedVaa? coreBridge)) := by
  rw [verdict, h]
  rfl

theorem verdict_eq_error_iff {reason : FetchError} :
    p.verdict coreBridge = .error reason ↔ p.answer = .error reason := by
  rw [← found_eq_error_iff]
  cases hfound : p.found with
  | error reason' => rw [verdict_of_error hfound]; simp
  | ok tx => exact iff_of_false (fun h => nomatch (verdict_of_ok hfound).symm.trans h) nofun

theorem verdict_eq_some_iff {vaa : PostedVaa} :
    p.verdict coreBridge = .ok (some vaa) ↔ p.Finds coreBridge vaa := by
  constructor
  · intro h
    cases hfound : p.found with
    | error reason => exact nomatch (verdict_of_error hfound).symm.trans h
    | ok found =>
      rw [verdict_of_ok hfound] at h
      obtain ⟨tx, rfl, hposted⟩ := Option.bind_eq_some_iff.mp (Except.ok.inj h)
      obtain ⟨answer, hanswer, hread⟩ := found_eq_ok_iff.mp hfound
      exact ⟨answer, tx, hanswer, (Transaction.ofJson?_eq_some_iff _ _).mp hread,
        Transaction.postedVaa?_eq_some_iff.mp hposted⟩
  · rintro ⟨answer, tx, hanswer, hwritten, hposts⟩
    have hread := (Transaction.ofJson?_eq_some_iff _ _).mpr hwritten
    rw [verdict_of_ok (found_eq_ok_iff.mpr ⟨answer, hanswer, hread⟩)]
    exact congrArg Except.ok (Transaction.postedVaa?_eq_some_iff.mpr hposts)

theorem verdict_eq_none_iff : p.verdict coreBridge = .ok none ↔ p.PassedOver coreBridge := by
  constructor
  · intro h
    cases hfound : p.found with
    | error reason => exact nomatch (verdict_of_error hfound).symm.trans h
    | ok found =>
      rw [verdict_of_ok hfound] at h
      obtain ⟨answer, hanswer, hread⟩ := found_eq_ok_iff.mp hfound
      cases found with
      | none => exact .unread hanswer (Transaction.ofJson?_eq_none_iff.mp hread)
      | some tx =>
        exact .silent hanswer ((Transaction.ofJson?_eq_some_iff _ _).mp hread)
          (Transaction.postedVaa?_eq_none_iff.mp (Except.ok.inj h))
  · intro h
    cases h with
    | null hanswer => exact verdict_of_ok (found_eq_ok_iff.mpr ⟨.null, hanswer, rfl⟩)
    | unread hanswer hwritten =>
      have hread := Transaction.ofJson?_eq_none_iff.mpr hwritten
      exact verdict_of_ok (found_eq_ok_iff.mpr ⟨_, hanswer, hread⟩)
    | silent hanswer hwritten hposts =>
      have hread := (Transaction.ofJson?_eq_some_iff _ _).mpr hwritten
      rw [verdict_of_ok (found_eq_ok_iff.mpr ⟨_, hanswer, hread⟩)]
      exact congrArg Except.ok (Transaction.postedVaa?_eq_none_iff.mpr hposts)

end Probe

/-! ## Look-ups -/

namespace Source

variable {s : Source} {account signature : String} {signatures : List String}
  {probes : List Probe} {p : Probe} {log : Log interface}
  {result : Except FetchError (Option PostedVaa)}

/-- Transactions are called for in this order, as long as their answers are passed over. The first
one that posts an attestation ends the search and gives the result, and so does the first call that
fails. If there is neither, all are called for and the result is none. -/
inductive Seeks (s : Source) (signatures : List String) :
    List Probe → Except FetchError (Option PostedVaa) → Prop where
  | nowhere {probes : List Probe} (hall : probes.map (·.signature) = signatures)
      (hpassed : ∀ p ∈ probes, p.PassedOver s.coreBridge) : Seeks s signatures probes (.ok none)
  | found {older : List Probe} {last : Probe} {vaa : PostedVaa}
      (hcalled : (older ++ [last]).map (·.signature) <+: signatures)
      (hpassed : ∀ p ∈ older, p.PassedOver s.coreBridge) (hfinds : last.Finds s.coreBridge vaa) :
      Seeks s signatures (older ++ [last]) (.ok (some vaa))
  | failed {older : List Probe} {last : Probe} {reason : FetchError}
      (hcalled : (older ++ [last]).map (·.signature) <+: signatures)
      (hpassed : ∀ p ∈ older, p.PassedOver s.coreBridge) (hfails : last.answer = .error reason) :
      Seeks s signatures (older ++ [last]) (.error reason)

/-- The first call ends the search. -/
theorem Seeks.last (hfound : p.verdict s.coreBridge = result) (hends : result ≠ .ok none) :
    s.Seeks (p.signature :: signatures) [p] result := by
  have hcalled : ([] ++ [p]).map Probe.signature <+: p.signature :: signatures :=
    List.cons_prefix_cons.mpr ⟨rfl, List.nil_prefix⟩
  have hpassed : ∀ p ∈ ([] : List Probe), p.PassedOver s.coreBridge :=
    fun _ h => absurd h List.not_mem_nil
  rcases result with reason | _ | vaa
  · exact .failed hcalled hpassed (Probe.verdict_eq_error_iff.mp hfound)
  · exact absurd rfl hends
  · exact .found hcalled hpassed (Probe.verdict_eq_some_iff.mp hfound)

/-- The answer to the first call is passed over. -/
theorem Seeks.cons (hpassed : p.PassedOver s.coreBridge) (h : s.Seeks signatures probes result) :
    s.Seeks (p.signature :: signatures) (p :: probes) result := by
  cases h with
  | nowhere hall hrest =>
    exact .nowhere (congrArg (p.signature :: ·) hall) (List.forall_mem_cons.mpr ⟨hpassed, hrest⟩)
  | @found older last vaa hcalled hrest hfinds =>
    have hcalled' : ((p :: older) ++ [last]).map Probe.signature <+: p.signature :: signatures :=
      List.cons_prefix_cons.mpr ⟨rfl, hcalled⟩
    exact .found hcalled' (List.forall_mem_cons.mpr ⟨hpassed, hrest⟩) hfinds
  | @failed older last reason hcalled hrest hfails =>
    have hcalled' : ((p :: older) ++ [last]).map Probe.signature <+: p.signature :: signatures :=
      List.cons_prefix_cons.mpr ⟨rfl, hcalled⟩
    exact .failed hcalled' (List.forall_mem_cons.mpr ⟨hpassed, hrest⟩) hfails

/-- The first call ends the search, or its answer is passed over and the search goes on. -/
theorem Seeks.cases_cons (h : s.Seeks (signature :: signatures) probes result) :
    ∃ p rest, p.signature = signature ∧ probes = p :: rest ∧
      ((p.verdict s.coreBridge = result ∧ result ≠ .ok none ∧ rest = []) ∨
        p.verdict s.coreBridge = .ok none ∧ s.Seeks signatures rest result) := by
  cases h with
  | nowhere hall hpassed =>
    obtain ⟨p, rest, rfl, hp, hrest⟩ := List.map_eq_cons_iff.mp hall
    obtain ⟨hfirst, hothers⟩ := List.forall_mem_cons.mp hpassed
    exact ⟨p, rest, hp, rfl, .inr ⟨Probe.verdict_eq_none_iff.mpr hfirst, .nowhere hrest hothers⟩⟩
  | @found older last vaa hcalled hpassed hfinds =>
    cases older with
    | nil =>
      obtain ⟨hlast, -⟩ := List.cons_prefix_cons.mp hcalled
      exact ⟨last, [], hlast, rfl, .inl ⟨Probe.verdict_eq_some_iff.mpr hfinds, nofun, rfl⟩⟩
    | cons p older =>
      obtain ⟨hp, hrest⟩ := List.cons_prefix_cons.mp hcalled
      obtain ⟨hfirst, hothers⟩ := List.forall_mem_cons.mp hpassed
      exact ⟨p, older ++ [last], hp, rfl,
        .inr ⟨Probe.verdict_eq_none_iff.mpr hfirst, .found hrest hothers hfinds⟩⟩
  | @failed older last reason hcalled hpassed hfails =>
    cases older with
    | nil =>
      obtain ⟨hlast, -⟩ := List.cons_prefix_cons.mp hcalled
      exact ⟨last, [], hlast, rfl, .inl ⟨Probe.verdict_eq_error_iff.mpr hfails, nofun, rfl⟩⟩
    | cons p older =>
      obtain ⟨hp, hrest⟩ := List.cons_prefix_cons.mp hcalled
      obtain ⟨hfirst, hothers⟩ := List.forall_mem_cons.mp hpassed
      exact ⟨p, older ++ [last], hp, rfl,
        .inr ⟨Probe.verdict_eq_none_iff.mpr hfirst, .failed hrest hothers hfails⟩⟩

/-- Whatever the replies are, a search has an end. -/
theorem exists_seeks (s : Source) (signatures : List String) (replies : ℕ → Reply) :
    ∃ probes result, s.Seeks signatures probes result ∧
      probes.map (·.reply) = (List.range probes.length).map replies := by
  induction signatures generalizing replies with
  | nil => exact ⟨[], .ok none, .nowhere rfl fun _ h => absurd h List.not_mem_nil, rfl⟩
  | cons signature rest ih =>
    by_cases hpassed : Probe.verdict ⟨signature, replies 0⟩ s.coreBridge = .ok none
    · obtain ⟨probes, result, hseeks, hreplies⟩ := ih fun k => replies (k + 1)
      refine ⟨⟨signature, replies 0⟩ :: probes, result,
        hseeks.cons (Probe.verdict_eq_none_iff.mp hpassed), ?_⟩
      rw [List.map_cons, hreplies, List.length_cons, List.range_succ_eq_map, List.map_cons,
        List.map_map]
      rfl
    · exact ⟨[⟨signature, replies 0⟩], _, .last rfl hpassed, rfl⟩

/-- A transaction is called for once. -/
theorem gives_transaction {tx : Except FetchError (Option Transaction)} :
    (s.transaction? signature).Gives log tx ↔
      ∃ p : Probe, p.signature = signature ∧ log = [p.call s.url] ∧ tx = p.found := by
  have hread : s.transaction? signature = Transaction.ofJson? <$> Endpoint.call s.url
      "getTransaction" (.array [.string signature, .object [
        ("commitment", .string "confirmed"),
        ("encoding", .string "json"),
        ("maxSupportedTransactionVersion", .ofNat 0)]]) := by
    refine congrArg (Plan.bind _) (funext fun outcome => ?_)
    cases outcome <;> rfl
  rw [hread, Fetch.gives_map]
  constructor
  · rintro ⟨answer, hcall, rfl⟩
    obtain ⟨reply, rfl, rfl⟩ := Fetch.gives_call.mp hcall
    exact ⟨⟨signature, reply⟩, rfl, rfl, rfl⟩
  · rintro ⟨p, rfl, rfl, rfl⟩
    exact ⟨p.answer, Fetch.gives_call.mpr ⟨p.reply, rfl, rfl⟩, rfl⟩

/-- After the first call the search is over, or goes on with the other signatures. -/
theorem gives_firstPosted_cons : (s.firstPosted (signature :: signatures)).Gives log result ↔
    ∃ (p : Probe) (rest : Log interface), p.signature = signature ∧ log = p.call s.url :: rest ∧
      ((p.verdict s.coreBridge = result ∧ result ≠ .ok none ∧ rest = []) ∨
        p.verdict s.coreBridge = .ok none ∧ (s.firstPosted signatures).Gives rest result) := by
  rw [firstPosted, Fetch.gives_bind]
  constructor
  · rintro (⟨reason, rfl, hcall⟩ | ⟨tx, first, rest, rfl, hcall, hrest⟩)
    · obtain ⟨p, hp, rfl, hfound⟩ := gives_transaction.mp hcall
      exact ⟨p, [], hp, rfl, .inl ⟨Probe.verdict_of_error hfound.symm, by simp, rfl⟩⟩
    · obtain ⟨p, hp, rfl, hfound⟩ := gives_transaction.mp hcall
      refine ⟨p, rest, hp, rfl, ?_⟩
      rw [Probe.verdict_of_ok hfound.symm]
      cases hvaa : tx.bind (·.postedVaa? s.coreBridge) with
      | none =>
        rw [hvaa] at hrest
        exact .inr ⟨rfl, hrest⟩
      | some vaa =>
        rw [hvaa] at hrest
        obtain ⟨rfl, rfl⟩ := Fetch.gives_pure.mp hrest
        exact .inl ⟨rfl, by simp, rfl⟩
  · rintro ⟨p, rest, hp, rfl, hcase⟩
    have hcall : (s.transaction? signature).Gives [p.call s.url] p.found :=
      gives_transaction.mpr ⟨p, hp, rfl, rfl⟩
    cases hfound : p.found with
    | error reason =>
      rw [hfound] at hcall
      rw [Probe.verdict_of_error hfound] at hcase
      obtain ⟨rfl, -, rfl⟩ | ⟨h, -⟩ := hcase
      · exact .inl ⟨reason, rfl, hcall⟩
      · cases h
    | ok tx =>
      rw [hfound] at hcall
      rw [Probe.verdict_of_ok hfound] at hcase
      refine .inr ⟨tx, _, rest, rfl, hcall, ?_⟩
      cases hvaa : tx.bind (·.postedVaa? s.coreBridge) with
      | none =>
        rw [hvaa] at hcase
        obtain ⟨rfl, hsome, -⟩ | ⟨-, hrest⟩ := hcase
        · exact absurd rfl hsome
        · exact hrest
      | some vaa =>
        rw [hvaa] at hcase
        obtain ⟨rfl, -, rfl⟩ | ⟨h, -⟩ := hcase
        · exact Fetch.gives_pure.mpr ⟨rfl, rfl⟩
        · cases h

/-- The search is the one that `Seeks` describes. -/
theorem gives_firstPosted : (s.firstPosted signatures).Gives log result ↔
    ∃ probes, log = probes.map (·.call s.url) ∧ s.Seeks signatures probes result := by
  induction signatures generalizing log result with
  | nil =>
    rw [firstPosted, Fetch.gives_pure]
    constructor
    · rintro ⟨rfl, rfl⟩
      exact ⟨[], rfl, .nowhere rfl fun _ h => absurd h List.not_mem_nil⟩
    · rintro ⟨probes, rfl, h⟩
      cases h with
      | nowhere hall _ => exact ⟨congrArg _ (List.map_eq_nil_iff.mp hall), rfl⟩
      | found hcalled _ _ => simp at hcalled
      | failed hcalled _ _ => simp at hcalled
  | cons signature rest ih =>
    rw [gives_firstPosted_cons]
    constructor
    · rintro ⟨p, after, rfl, rfl, ⟨hverdict, hends, rfl⟩ | ⟨hverdict, hafter⟩⟩
      · exact ⟨[p], rfl, .last hverdict hends⟩
      · obtain ⟨probes, rfl, hseeks⟩ := ih.mp hafter
        exact ⟨p :: probes, rfl, hseeks.cons (Probe.verdict_eq_none_iff.mp hverdict)⟩
    · rintro ⟨probes, rfl, hseeks⟩
      obtain ⟨p, others, hp, rfl, ⟨hverdict, hends, rfl⟩ | ⟨hverdict, hothers⟩⟩ := hseeks.cases_cons
      · exact ⟨p, [], hp, rfl, .inl ⟨hverdict, hends, rfl⟩⟩
      · exact ⟨p, _, hp, rfl, .inr ⟨hverdict, ih.mpr ⟨others, rfl, hothers⟩⟩⟩

/-- The entries of an answer, or the error that it holds no history. -/
theorem history_eq (s : Source) (account : String) :
    s.history account = Endpoint.call s.url "getSignaturesForAddress"
        (.array [.string account, .object [("commitment", .string "confirmed")]]) >>=
      fun answer => MonadExcept.ofExcept (entriesOf answer) := by
  refine bind_congr fun answer => ?_
  unfold entriesOf
  cases Json.list? HistoryEntry.ofJson? answer <;> rfl

/-- The history of an account is called for once. -/
theorem gives_history {entries : Except FetchError (List HistoryEntry)} :
    (s.history account).Gives log entries ↔
      ∃ reply, log = [historyCall s.url account reply] ∧ entries = historyOf reply := by
  rw [history_eq, Fetch.gives_bind]
  unfold historyOf
  constructor
  · rintro (⟨reason, rfl, hcall⟩ | ⟨answer, first, rest, rfl, hcall, hrest⟩)
    · obtain ⟨reply, rfl, hanswer⟩ := Fetch.gives_call.mp hcall
      exact ⟨reply, rfl, by rw [← hanswer]⟩
    · obtain ⟨reply, rfl, hanswer⟩ := Fetch.gives_call.mp hcall
      obtain ⟨rfl, rfl⟩ := Fetch.gives_ofExcept.mp hrest
      exact ⟨reply, rfl, by rw [← hanswer]⟩
  · rintro ⟨reply, rfl, rfl⟩
    have hcall : (Endpoint.call s.url "getSignaturesForAddress" (.array [.string account,
        .object [("commitment", .string "confirmed")]])).Gives [historyCall s.url account reply]
        (outcome "getSignaturesForAddress" reply) :=
      Fetch.gives_call.mpr ⟨reply, rfl, rfl⟩
    cases hanswer : outcome "getSignaturesForAddress" reply with
    | error reason =>
      rw [hanswer] at hcall
      exact .inl ⟨reason, rfl, hcall⟩
    | ok answer =>
      rw [hanswer] at hcall
      exact .inr ⟨answer, _, [], rfl, hcall, Fetch.gives_ofExcept.mpr ⟨rfl, rfl⟩⟩

/-- **The oldest posting.** A look-up calls for the history of the account, and ends there if the
call fails or its answer is no history. Otherwise it calls for the transactions that did not fail,
from the oldest on, as long as their answers are null, no transaction, or one that posts nothing.
The first transaction that posts an attestation gives the result, the first call that fails gives
the error, and nothing is called for after either; with neither, all are called for and the result
is none. Whatever the replies are, the search has an end. An instruction whose place for the program
is beyond the keys of its transaction is passed over. -/
theorem lookup_takes_oldest (s : Source) (account : String) :
    (∀ log result, (s.postedVaa account).Gives log result ↔
      ∃ reply rest, log = historyCall s.url account reply :: rest ∧
        ((∃ reason, IsHistory reply (.error reason) ∧ rest = [] ∧ result = .error reason) ∨
          ∃ entries probes, IsHistory reply (.ok entries) ∧
            rest = probes.map (·.call s.url) ∧ s.Seeks (oldestFirst entries) probes result)) ∧
      (∀ (signatures : List String) (replies : ℕ → Reply), ∃ probes result,
        s.Seeks signatures probes result ∧
          probes.map (·.reply) = (List.range probes.length).map replies) ∧
      ∀ tx : Transaction, tx.listed.postedVaa? s.coreBridge = tx.postedVaa? s.coreBridge := by
  refine ⟨fun log result => ?_, exists_seeks s, fun tx => tx.postedVaa?_listed s.coreBridge⟩
  simp only [← historyOf_eq_iff]
  rw [postedVaa, Fetch.gives_bind]
  constructor
  · rintro (⟨reason, rfl, hcall⟩ | ⟨entries, first, rest, rfl, hcall, hrest⟩)
    · obtain ⟨reply, rfl, hhistory⟩ := gives_history.mp hcall
      exact ⟨reply, [], rfl, .inl ⟨reason, hhistory.symm, rfl, rfl⟩⟩
    · obtain ⟨reply, rfl, hhistory⟩ := gives_history.mp hcall
      obtain ⟨probes, rfl, hseeks⟩ := gives_firstPosted.mp hrest
      exact ⟨reply, _, rfl, .inr ⟨entries, probes, hhistory.symm, rfl, hseeks⟩⟩
  · rintro ⟨reply, rest, rfl, hcase⟩
    obtain ⟨reason, hhistory, rfl, rfl⟩ | ⟨entries, probes, hhistory, rfl, hseeks⟩ := hcase
    · exact .inl ⟨reason, rfl, gives_history.mpr ⟨reply, rfl, hhistory.symm⟩⟩
    · exact .inr ⟨entries, _, _, rfl, gives_history.mpr ⟨reply, rfl, hhistory.symm⟩,
        gives_firstPosted.mpr ⟨probes, rfl, hseeks⟩⟩

/-- A transaction whose only instruction names a program beyond its keys. -/
def sampleBeyond : Transaction where
  signatures := ["d"]
  keys := ["W", "A"]
  instructions := [{ samplePost 1 1 with program := 2 }]
  execution := .none

/-- A transaction with one key of its own and two loaded ones, the last one of which is the core
bridge. Its first instruction names a program beyond its keys; of those that this made, the first
one is not one of the core bridge, and the second one posts attestation 2. -/
def sampleLoaded : Transaction where
  signatures := ["e"]
  keys := ["A"]
  instructions := [{ samplePost 0 1 with program := 7 }]
  execution := ⟨false, ["B"], ["W"], [{ samplePost 0 1 with program := 1 },
    { samplePost 0 2 with program := 2 }]⟩

/-- The transaction as an endpoint writes it, with one group for each of the instructions that
another one made. -/
def loadedJson (tx : Transaction) : Json :=
  .object [
    ("meta", .object [
      ("err", .null),
      ("innerInstructions", .array (tx.execution.inner.map fun i =>
        .object [("instructions", .array [instructionJson i])])),
      ("loadedAddresses", .object [
        ("readonly", .array (tx.execution.readonly.map .string)),
        ("writable", .array (tx.execution.writable.map .string))])]),
    ("transaction", .object [
      ("message", .object [
        ("accountKeys", .array (tx.keys.map .string)),
        ("instructions", .array (tx.instructions.map instructionJson))]),
      ("signatures", .array (tx.signatures.map .string))])]

/-- A history of six transactions, newest first. The third of them failed. -/
def sampleEntries : Json :=
  .array [.object [("signature", .string "f")], .object [("signature", .string "e")],
    .object [("signature", .string "d")],
    .object [("err", .string "AccountInUse"), ("signature", .string "c")],
    .object [("err", .null), ("signature", .string "b")], .object [("signature", .string "a")]]

/-- The calls for four of them, from the oldest on. -/
def sampleProbes : List Probe :=
  [⟨"a", replyOf .null⟩, ⟨"b", replyOf (.array [])⟩, ⟨"d", replyOf (transactionJson sampleBeyond)⟩,
    ⟨"e", replyOf (loadedJson sampleLoaded)⟩]

theorem writtenAs_sampleBeyond :
    sampleBeyond.WrittenAs (transactionJson sampleBeyond).canonical := by
  rw [← Transaction.ofJson?_eq_some_iff]
  rfl

theorem writtenAs_sampleLoaded : sampleLoaded.WrittenAs (loadedJson sampleLoaded).canonical := by
  rw [← Transaction.ofJson?_eq_some_iff]
  rfl

theorem postsNothing_sampleBeyond : sampleBeyond.PostsNothing sampleSource.coreBridge := by
  intro i hi vaa hposts
  obtain rfl : i = { samplePost 1 1 with program := 2 } := List.mem_singleton.mp hi
  exact nomatch hposts.1

theorem firstPosts_sampleLoaded :
    sampleLoaded.FirstPosts sampleSource.coreBridge (sampleVaa 2) := by
  have hposts : sampleLoaded.Posts sampleSource.coreBridge { samplePost 0 2 with program := 2 }
      (sampleVaa 2) :=
    Transaction.postOf?_eq_some_iff.mp ((if_pos rfl).trans (postedVaa?_samplePost 0 2))
  refine ⟨[{ samplePost 0 1 with program := 7 }, { samplePost 0 1 with program := 1 }], _, [], rfl,
    hposts, ?_⟩
  rintro i hi vaa ⟨hprogram, -⟩
  obtain rfl | rfl : i = { samplePost 0 1 with program := 7 } ∨
      i = { samplePost 0 1 with program := 1 } := by simpa using hi
  · exact nomatch hprogram
  · exact absurd hprogram (by decide)

theorem seeks_sampleProbes : sampleSource.Seeks ["a", "b", "d", "e", "f"] sampleProbes
    (.ok (some (sampleVaa 2))) := by
  have hnull : Probe.PassedOver ⟨"a", replyOf .null⟩ sampleSource.coreBridge :=
    .null (outcome_replyOf _ (by decide))
  have hunread : Probe.PassedOver ⟨"b", replyOf (.array [])⟩ sampleSource.coreBridge :=
    .unread (outcome_replyOf _ (by decide)) (Transaction.ofJson?_eq_none_iff.mp rfl)
  have hsilent : Probe.PassedOver ⟨"d", replyOf (transactionJson sampleBeyond)⟩
      sampleSource.coreBridge :=
    .silent (outcome_replyOf _ (by decide)) writtenAs_sampleBeyond postsNothing_sampleBeyond
  have hfinds : Probe.Finds ⟨"e", replyOf (loadedJson sampleLoaded)⟩ sampleSource.coreBridge
      (sampleVaa 2) :=
    ⟨_, _, outcome_replyOf _ (by decide), writtenAs_sampleLoaded, firstPosts_sampleLoaded⟩
  exact .cons hnull <| .cons hunread <| .cons hsilent <|
    .last (Probe.verdict_eq_some_iff.mpr hfinds) nofun

theorem isHistory_sampleEntries : IsHistory (replyOf sampleEntries) (.ok [⟨"f", false⟩,
    ⟨"e", false⟩, ⟨"d", false⟩, ⟨"c", true⟩, ⟨"b", false⟩, ⟨"a", false⟩]) := by
  refine .entries (outcome_replyOf _ (by decide)) ?_
  rw [← Json.list?_eq_some_iff HistoryEntry.ofJson?_eq_some_iff]
  rfl

/-- Four transactions are called for: of the first three, one is null, one cannot be read and one
posts nothing, and the fourth posts attestation 2. Neither the one that failed nor the newest one is
called for. -/
theorem lookup_takes_oldest_sampleProbes :
    (sampleSource.postedVaa "A").Gives
      (historyCall sampleSource.url "A" (replyOf sampleEntries) ::
        sampleProbes.map (·.call sampleSource.url))
      (.ok (some (sampleVaa 2))) := by
  obtain ⟨hlookup, -⟩ := lookup_takes_oldest sampleSource "A"
  exact (hlookup _ _).mpr ⟨_, _, rfl, .inr ⟨_, _, isHistory_sampleEntries, rfl, seeks_sampleProbes⟩⟩

end Source

end RedemptionWatch.Solana
