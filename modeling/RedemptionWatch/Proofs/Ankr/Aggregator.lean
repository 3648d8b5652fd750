import RedemptionWatch.Ankr.Source
import RedemptionWatch.Proofs.Endpoint.Answers
import RedemptionWatch.Proofs.Watch.Survey

/-!
# What an aggregator serves

An aggregator knows the transactions of the tracked contracts (the history) and lists those of a
range of blocks in pages. How it splits and orders them is up to it, and may differ whenever a
listing begins (`Aggregator.IsListing`). Any request may also fail. `Aggregator.Serves` says which
answers a watcher of an Ankr source gets from it: the replies hold pages as they are answered, and
the source reads them.

`Aggregator.Listed` ties the survey of a watcher to it: the survey has read the first pages of the
listing that is served, up to the last one once it has ended. Tokens that are named only once make
the survey go through the pages one by one (`Aggregator.Listed.read`).
-/

namespace RedemptionWatch.Ankr

open Watch (interface)

/-! ## Pages -/

theorem highest?_eq_foldl (numbers : List UInt64) :
    highest? numbers = (numbers.map some).foldl Listing.higher none := by
  unfold highest?
  rw [List.foldl_map]
  congr 1
  funext m n
  cases m <;> rfl

variable {chainId : ChainId} {methods : Evm.MethodTable}

/-- A redemption in a block that can be read is a candidate. -/
theorem Transaction.exists_candidate? {tx : Transaction} {b : UInt64} (hb : tx.block? = some b)
    (h : (tx.redeeming? methods).isSome) : ∃ c, tx.candidate? chainId methods = some c := by
  obtain ⟨r, hr⟩ := Option.isSome_iff_exists.mp h
  exact ⟨_, by simp only [candidate?, hb, hr]; rfl⟩

namespace Page

/-- The token of the page that follows. -/
def next? (p : Page) : Option String :=
  p.nextPageToken.filter (· ≠ "")

/-- The highest block of a page is that of a transaction on it. -/
theorem exists_of_highest {p : Page} {b : UInt64}
    (h : (p.activity chainId methods).highest = some b) :
    ∃ tx ∈ p.transactions, tx.block? = some b := by
  have hfold : highest? (p.transactions.filterMap Transaction.block?) = some b := h
  rw [highest?_eq_foldl] at hfold
  obtain ⟨b', hmem, hb⟩ := List.mem_map.mp (Listing.mem_of_foldl_higher hfold)
  obtain rfl := Option.some_inj.mp hb
  exact List.mem_filterMap.mp hmem

theorem tokens_map_activity (pages : List Page) :
    ActivityPage.tokens (pages.map (Page.activity chainId methods)) = pages.filterMap next? := by
  unfold ActivityPage.tokens
  rw [List.filterMap_map]
  rfl

end Page

/-! ## Replies -/

/-- The reply holds this page. -/
def Holds (reply : Endpoint.Reply) (page : Page) : Prop :=
  ∃ result, Endpoint.rpcAnswer "ankr_getTransactionsByAddress" reply = .ok (.ok result) ∧
    Page.ofJson? result = some page

theorem Source.activity_against (s : Source) {reply : Endpoint.Reply} {page : Page}
    (h : Holds reply page) (range : BlockRange) (token : Option String) :
    (s.activity range token).against (fun _ => reply) =
      .ok (page.activity s.chainId s.methods) := by
  obtain ⟨result, hreply, hpage⟩ := h
  unfold Source.activity
  rw [Endpoint.bind_against, Endpoint.call_against, hreply]
  simp only [hpage, Endpoint.pure_against]

/-! ## Listings -/

namespace Aggregator

/-- These pages list the transactions of the history in the range. Every page but the last one names
the page that follows, and each by another token. -/
structure IsListing (history : List Transaction) (range : BlockRange) (pages : List Page) :
    Prop where
  mem_iff : ∀ tx, (∃ page ∈ pages, tx ∈ page.transactions) ↔
    tx ∈ history ∧ ∃ b ∈ tx.block?, range.first ≤ b ∧ b ≤ range.last
  next_eq_none_iff : ∀ before page after, pages = before ++ page :: after →
    (page.next? = none ↔ after = [])
  nodup : (pages.filterMap Page.next?).Nodup

/-- What a watcher of the source gets to know from an aggregator with this history. The aggregator
keeps the listing that is under way: the first page begins a new one, a later page is the one that
follows the page that named the token. Any request for a page may fail, and nothing is said of what
is not asked of the aggregator. -/
inductive Serves (s : Source) (history : List Transaction) :
    Option (BlockRange × List Page) → Event interface → Option (BlockRange × List Page) → Prop where
  | first {listing : Option (BlockRange × List Page)} {range : BlockRange} {page : Page}
      {rest : List Page} {reply : Endpoint.Reply} {answer : Except FetchError ActivityPage}
      (hlisting : IsListing history range (page :: rest)) (hreply : Holds reply page)
      (hanswer : answer = (s.activity range none).against fun _ => reply) :
      Serves s history listing ⟨.activity range none, answer⟩ (some (range, page :: rest))
  | later {range : BlockRange} {before rest : List Page} {last page : Page} {token : String}
      {reply : Endpoint.Reply} {answer : Except FetchError ActivityPage}
      (hlast : last.next? = some token) (hreply : Holds reply page)
      (hanswer : answer = (s.activity range (some token)).against fun _ => reply) :
      Serves s history (some (range, before ++ last :: page :: rest))
        ⟨.activity range (some token), answer⟩ (some (range, before ++ last :: page :: rest))
  | failed {listing : Option (BlockRange × List Page)} {range : BlockRange} {token : Option String}
      (reason : FetchError) :
      Serves s history listing ⟨.activity range token, .error reason⟩ listing
  | other {listing : Option (BlockRange × List Page)} {q : Watch.Request} (a : q.Answer)
      (hq : ∀ range token, q ≠ .activity range token) : Serves s history listing ⟨q, a⟩ listing

/-- The survey has read the first pages of the listing under way, if any. -/
def Listed (s : Source) (history : List Transaction) (listing : Option (BlockRange × List Page))
    (v : Survey) : Prop :=
  (v.pages = [] ∧ v.token = none ∧ v.ended = false) ∨
  ∃ range read last unread, listing = some (range, read ++ last :: unread) ∧
    IsListing history range (read ++ last :: unread) ∧ v.range = some range ∧
    v.pages = (read ++ [last]).map (Page.activity s.chainId s.methods) ∧
    v.token = last.next? ∧ (v.ended = true ↔ unread = [])

variable {s : Source} {history : List Transaction}
  {listing listing' : Option (BlockRange × List Page)}
  {v : Survey} {range : BlockRange} {token : Option String}

/-- Where a token is named only once, it tells the page that names it. -/
theorem eq_of_next_eq {before before' after after' : List Page} {page page' : Page} {token : String}
    (hpages : before ++ page :: after = before' ++ page' :: after')
    (hnodup : ((before ++ page :: after).filterMap Page.next?).Nodup)
    (h : page.next? = some token) (h' : page'.next? = some token) :
    before = before' ∧ page = page' ∧ after = after' := by
  induction before generalizing before' with
  | nil =>
    cases before' with
    | nil => exact ⟨rfl, List.cons.inj hpages⟩
    | cons first before' =>
      obtain ⟨rfl, rfl⟩ := List.cons.inj hpages
      simp [h, h'] at hnodup
  | cons first before ih =>
    cases before' with
    | nil =>
      obtain ⟨rfl, rfl⟩ := List.cons.inj hpages
      simp [h, h'] at hnodup
    | cons first' before' =>
      obtain ⟨rfl, htail⟩ := List.cons.inj hpages
      have hnodup' : ((before ++ page :: after).filterMap Page.next?).Nodup :=
        hnodup.sublist ((List.sublist_cons_self _ _).filterMap _)
      obtain ⟨rfl, hrest⟩ := ih htail hnodup'
      exact ⟨rfl, hrest⟩

/-- A listing ends with its last page, for no page names the same token as an earlier one. -/
theorem IsListing.endsAfter_iff {read unread : List Page} {page : Page} {chainId : ChainId}
    {methods : Evm.MethodTable} (h : IsListing history range (read ++ page :: unread)) :
    (page.activity chainId methods).EndsAfter (read.map (Page.activity chainId methods)) ↔
      unread = [] := by
  rw [← h.next_eq_none_iff read page unread rfl]
  constructor
  · intro hends
    cases hnext : page.next? with
    | none => rfl
    | some token =>
      have hread : token ∈ read.filterMap Page.next? := by
        rw [← Page.tokens_map_activity]
        exact hends token hnext
      have hnodup := h.nodup
      rw [List.filterMap_append, List.filterMap_cons_some hnext] at hnodup
      exact absurd rfl ((List.nodup_append.mp hnodup).2.2 token hread token List.mem_cons_self)
  · intro hnone token hmem
    exact nomatch hnone.symm.trans hmem

/-- A page that is answered begins a listing, or it follows the one that named the token. -/
theorem Serves.of_ok {activity : ActivityPage}
    (h : Serves s history listing ⟨.activity range token, .ok activity⟩ listing') :
    (token = none ∧ ∃ page rest, IsListing history range (page :: rest) ∧
      activity = page.activity s.chainId s.methods ∧ listing' = some (range, page :: rest)) ∨
    ∃ before last page rest t, token = some t ∧
      listing = some (range, before ++ last :: page :: rest) ∧ last.next? = some t ∧
      activity = page.activity s.chainId s.methods ∧ listing' = listing := by
  cases h with
  | @first _ _ page rest _ _ hlisting hreply hanswer =>
    rw [s.activity_against hreply] at hanswer
    exact Or.inl ⟨rfl, page, rest, hlisting, Except.ok.inj hanswer, rfl⟩
  | @later _ before rest last page t _ _ hlast hreply hanswer =>
    rw [s.activity_against hreply] at hanswer
    exact Or.inr ⟨before, last, page, rest, t, rfl, rfl, hlast, Except.ok.inj hanswer, rfl⟩
  | other _ hq => exact absurd rfl (hq range token)

theorem Serves.of_error {reason : FetchError}
    (h : Serves s history listing ⟨.activity range token, .error reason⟩ listing') :
    listing' = listing := by
  cases h with
  | first _ hreply hanswer =>
    rw [s.activity_against hreply] at hanswer
    exact nomatch hanswer
  | later => rfl
  | failed => rfl
  | other _ hq => rfl

theorem Serves.of_other {q : Watch.Request} {a : q.Answer}
    (h : Serves s history listing ⟨q, a⟩ listing') (hq : ∀ range token, q ≠ .activity range token) :
    listing' = listing := by
  cases h with
  | first => exact absurd rfl (hq _ _)
  | later => rfl
  | failed => rfl
  | other => rfl

/-- A survey that has read the pages before this one has read one more with it. -/
theorem Listed.of_page {read unread : List Page} {page : Page}
    (hlisting : IsListing history range (read ++ page :: unread)) (hrange : v.range = some range)
    (hpages : v.pages = read.map (Page.activity s.chainId s.methods)) :
    Listed s history (some (range, read ++ page :: unread))
      (v.read (.ok (page.activity s.chainId s.methods))) := by
  refine Or.inr ⟨range, read, page, unread, rfl, hlisting, hrange, ?_, rfl, ?_⟩
  · simp [Survey.read, hpages]
  · rw [← hlisting.endsAfter_iff, ← hpages]
    exact decide_eq_true_iff

/-- When the page that comes next is answered, the survey has read one page more. -/
theorem Listed.read {activity : ActivityPage} (h : Listed s history listing v)
    (hasks : v.Asks range token)
    (hserves : Serves s history listing ⟨.activity range token, .ok activity⟩ listing') :
    Listed s history listing' (v.read (.ok activity)) := by
  obtain ⟨hrange, htoken, hended⟩ := hasks
  rcases h with ⟨hpages, hnone, -⟩ |
    ⟨range', read, last, unread, rfl, hlisting, hrange', hpages, hlast, hunread⟩
  · rcases hserves.of_ok with ⟨-, page, rest, hlisting, rfl, rfl⟩ | ⟨-, -, -, -, t, rfl, -⟩
    · have hnil : v.pages = ([] : List Page).map (Page.activity s.chainId s.methods) := hpages
      exact Listed.of_page hlisting hrange hnil
    · exact nomatch hnone.symm.trans htoken
  · obtain rfl := Option.some_inj.mp (hrange.symm.trans hrange')
    have hne : unread ≠ [] := fun hnil => nomatch hended.symm.trans (hunread.mpr hnil)
    rcases hserves.of_ok with ⟨rfl, -⟩ | ⟨before, last', page, rest, t, rfl, heq, hlast', rfl, rfl⟩
    · exact absurd ((hlisting.next_eq_none_iff read last unread rfl).mp (hlast.symm.trans htoken))
        hne
    · obtain ⟨-, heq⟩ := Prod.mk.inj (Option.some_inj.mp heq)
      obtain ⟨rfl, rfl, rfl⟩ :=
        eq_of_next_eq heq hlisting.nodup (hlast.symm.trans htoken) hlast'
      have hsplit : read ++ last :: page :: rest = (read ++ [last]) ++ page :: rest := by simp
      rw [hsplit] at hlisting ⊢
      exact Listed.of_page hlisting hrange hpages

/-- A survey that knows no page yet is not behind any listing. -/
theorem Listed.of_pages_nil (hpages : v.pages = []) (htoken : v.token = none)
    (hended : v.ended = false) : Listed s history listing v :=
  Or.inl ⟨hpages, htoken, hended⟩

end Aggregator

end RedemptionWatch.Ankr
