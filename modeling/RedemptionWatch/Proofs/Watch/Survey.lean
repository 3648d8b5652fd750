import Mathlib.Data.List.Induction
import RedemptionWatch.Proofs.Pagination
import RedemptionWatch.Proofs.Watch.Rounds

/-!
# The survey of a listing

A `Survey` says how far a live loop by listings, or the scan of a given range, has got, as far as
its log shows it. It is also a monitor: `Survey.step` refuses an event that is never made. A page is
asked for by the token of the page before it, and its candidates are recorded before anything else
happens. The cursor moves only when the listing has ended, and to the highest block that it listed,
or to the end of its range if it listed none. `Survey.Moves` lists what is allowed.

The next listing starts at the highest one of the block that the loop started at and the blocks that
the cursor has moved to (`Survey.position`).
-/

namespace RedemptionWatch

/-! ## Pages of a listing -/

namespace Listing

theorem higher_eq_or (m n : Option UInt64) : higher m n = m ∨ higher m n = n := by
  cases m with
  | none => exact Or.inr rfl
  | some a =>
    cases n with
    | none => exact Or.inl rfl
    | some b =>
      have hmax : higher (some a) (some b) = some (if a ≤ b then b else a) := rfl
      rw [hmax]
      split_ifs
      · exact Or.inr rfl
      · exact Or.inl rfl

theorem le_higher {m n : Option UInt64} {b : UInt64} (h : b ∈ m ∨ b ∈ n) :
    ∃ a ∈ higher m n, b ≤ a := by
  cases m with
  | none => exact ⟨b, h.resolve_left nofun, UInt64.le_refl b⟩
  | some a =>
    cases n with
    | none => exact ⟨b, h.resolve_right nofun, UInt64.le_refl b⟩
    | some c =>
      refine ⟨max a c, rfl, ?_⟩
      rcases h with h | h
      · obtain rfl := Option.some_inj.mp h
        exact BlockRange.le_max_left a c
      · obtain rfl := Option.some_inj.mp h
        exact BlockRange.le_max_right a c

variable {numbers : List (Option UInt64)} {b : UInt64}

/-- The highest of some blocks is one of them. -/
theorem mem_of_foldl_higher (h : numbers.foldl higher none = some b) : some b ∈ numbers := by
  induction numbers using List.reverseRecOn with
  | nil => exact nomatch h
  | append_singleton numbers n ih =>
    rw [List.foldl_append] at h
    rcases higher_eq_or (numbers.foldl higher none) n with heq | heq
    · exact List.mem_append_left _ (ih (heq.symm.trans h))
    · exact List.mem_append_right _ (List.mem_singleton.mpr (heq.symm.trans h).symm)

/-- No other one is higher. -/
theorem le_foldl_higher (h : some b ∈ numbers) : ∃ a ∈ numbers.foldl higher none, b ≤ a := by
  induction numbers using List.reverseRecOn with
  | nil => exact absurd h List.not_mem_nil
  | append_singleton numbers n ih =>
    rw [List.foldl_append]
    rcases List.mem_append.mp h with hmem | hmem
    · obtain ⟨m, hm, hle⟩ := ih hmem
      obtain ⟨a, ha, hle'⟩ := le_higher (n := n) (Or.inl hm)
      exact ⟨a, ha, UInt64.le_trans hle hle'⟩
    · exact le_higher (Or.inr (List.mem_singleton.mp hmem).symm)

end Listing

namespace ActivityPage

/-- The tokens that pages name. -/
def tokens (pages : List ActivityPage) : List String :=
  pages.filterMap (·.next)

/-- The highest block that pages list. -/
def highestOf (pages : List ActivityPage) : Option UInt64 :=
  (pages.map (·.highest)).foldl Listing.higher none

/-- A listing ends with this page after the others: it names no next page, or one that was named
before. -/
def EndsAfter (page : ActivityPage) (pages : List ActivityPage) : Prop :=
  ∀ token ∈ page.next, token ∈ tokens pages

instance (page : ActivityPage) (pages : List ActivityPage) : Decidable (page.EndsAfter pages) :=
  inferInstanceAs (Decidable (∀ token ∈ page.next, token ∈ tokens pages))

variable {pages : List ActivityPage} {page : ActivityPage} {b : UInt64}

theorem tokens_snoc (pages : List ActivityPage) (page : ActivityPage) :
    tokens (pages ++ [page]) = tokens pages ++ page.next.toList := by
  cases h : page.next <;> simp [tokens, h]

theorem highestOf_snoc (pages : List ActivityPage) (page : ActivityPage) :
    highestOf (pages ++ [page]) = Listing.higher (highestOf pages) page.highest := by
  simp [highestOf]

theorem exists_of_highestOf (h : highestOf pages = some b) :
    ∃ page ∈ pages, page.highest = some b :=
  List.mem_map.mp (Listing.mem_of_foldl_higher h)

theorem le_highestOf (hmem : page ∈ pages) (hb : page.highest = some b) :
    ∃ a ∈ highestOf pages, b ≤ a :=
  Listing.le_foldl_higher (List.mem_map.mpr ⟨page, hmem, hb⟩)

/-- The block is the highest one that the pages list, or the fallback if they list none. -/
def IsHighest (pages : List ActivityPage) (fallback block : UInt64) : Prop :=
  ((∃ page ∈ pages, page.highest = some block) ∧
      ∀ page ∈ pages, ∀ b ∈ page.highest, b ≤ block) ∨
    (∀ page ∈ pages, page.highest = none) ∧ block = fallback

theorem isHighest_highestOf (pages : List ActivityPage) (fallback : UInt64) :
    IsHighest pages fallback ((highestOf pages).getD fallback) := by
  cases h : highestOf pages with
  | none =>
    refine Or.inr ⟨fun page hpage => Option.eq_none_iff_forall_not_mem.mpr fun b hb => ?_, rfl⟩
    obtain ⟨a, ha, -⟩ := le_highestOf hpage hb
    exact nomatch h.symm.trans ha
  | some block =>
    refine Or.inl ⟨exists_of_highestOf h, fun page hpage b hb => ?_⟩
    obtain ⟨a, ha, hle⟩ := le_highestOf hpage hb
    obtain rfl := Option.some_inj.mp (h.symm.trans ha)
    exact hle

/-- The pages determine the block. -/
theorem IsHighest.unique {fallback a b : UInt64} (ha : IsHighest pages fallback a)
    (hb : IsHighest pages fallback b) : a = b := by
  rcases ha with ⟨⟨p, hp, hpa⟩, hale⟩ | ⟨hnone, rfl⟩
  · rcases hb with ⟨⟨q, hq, hqb⟩, hble⟩ | ⟨hnone, -⟩
    · exact UInt64.le_antisymm (hble p hp a hpa) (hale q hq b hqb)
    · exact nomatch (hnone p hp).symm.trans hpa
  · rcases hb with ⟨⟨q, hq, hqb⟩, -⟩ | ⟨-, rfl⟩
    · exact nomatch (hnone q hq).symm.trans hqb
    · rfl

end ActivityPage

/-! ## The monitor -/

open ActivityPage

/-- How far a live loop by listings, or the scan of a given range, has got. -/
structure Survey where
  /-- Other listings may follow. A scan of a given range is one listing only. -/
  live : Bool
  /-- Where the next listing starts. -/
  position : UInt64
  /-- What the listing under way lists. -/
  range : Option BlockRange
  /-- The pages of it that have been read. -/
  pages : List ActivityPage
  /-- The token of the page that comes next. -/
  token : Option String
  /-- The last page has been read. -/
  ended : Bool
  /-- Candidates of the page read last that are still to be recorded. -/
  pending : List Candidate
  deriving DecidableEq, Repr

namespace Survey

/-- No listing is under way. -/
def start (live : Bool) (position : UInt64) : Survey := ⟨live, position, none, [], none, false, []⟩

/-- A listing of this range begins. -/
def begin (live : Bool) (range : BlockRange) : Survey :=
  ⟨live, range.first, some range, [], none, false, []⟩

/-- What the answer for the latest block changes. -/
def sighted (s : Survey) : Except FetchError UInt64 → Survey
  | .ok head =>
    if s.position < head then begin s.live ⟨s.position, head⟩ else start s.live s.position
  | .error _ => s

/-- What the answer for a page changes. -/
def read (s : Survey) : Except FetchError ActivityPage → Survey
  | .ok page => { s with
      pages := s.pages ++ [page]
      token := page.next
      ended := decide (page.EndsAfter s.pages)
      pending := page.candidates }
  | .error _ => s

/-- This page comes next. -/
def Asks (s : Survey) (range : BlockRange) (token : Option String) : Prop :=
  s.range = some range ∧ s.token = token ∧ s.ended = false

instance (s : Survey) (range : BlockRange) (token : Option String) :
    Decidable (s.Asks range token) :=
  inferInstanceAs (Decidable (_ ∧ _ ∧ _))

/-- The cursor moves to this block. -/
def Commits (s : Survey) (block : UInt64) : Prop :=
  s.ended = true ∧ ∃ range ∈ s.range, block = (highestOf s.pages).getD range.last

instance (s : Survey) (block : UInt64) : Decidable (s.Commits block) :=
  inferInstanceAs (Decidable (_ ∧ _))

/-- The survey after an event, if it allows the event. -/
def step (s : Survey) : Event Watch.interface → Option Survey
  | ⟨.record c, _⟩ =>
    if s.pending.head? = some c then some { s with pending := s.pending.tail } else none
  | ⟨.activity range token, answer⟩ =>
    if s.pending = [] ∧ s.Asks range token then some (s.read answer) else none
  | ⟨.moveCursor block, _⟩ =>
    if s.pending = [] ∧ s.Commits block then some (start s.live (max s.position block)) else none
  | ⟨.latestBlock, answer⟩ =>
    if s.pending = [] ∧ s.live = true then some (s.sighted answer) else none
  | ⟨.pause _, _⟩ => if s.pending = [] then some s else none
  | ⟨.isCancelled, _⟩ => if s.pending = [] then some s else none
  | ⟨.publish _, _⟩ => if s.pending = [] then some s else none
  | ⟨.cursor _, _⟩ => none
  | ⟨.block _, _⟩ => none

/-- The events that a survey allows, and what each changes. -/
inductive Moves (s : Survey) : Event Watch.interface → Survey → Prop where
  | activity (range : BlockRange) (token : Option String) (answer : Except FetchError ActivityPage)
      (hp : s.pending = []) (h : s.Asks range token) :
      Moves s ⟨.activity range token, answer⟩ (s.read answer)
  | record (c : Candidate) (rest : List Candidate) (outcome : Except StoreError UpsertOutcome)
      (h : s.pending = c :: rest) : Moves s ⟨.record c, outcome⟩ { s with pending := rest }
  | moveCursor (block : UInt64) (result : Except StoreError Unit) (hp : s.pending = [])
      (h : s.Commits block) :
      Moves s ⟨.moveCursor block, result⟩ (start s.live (max s.position block))
  | latestBlock (answer : Except FetchError UInt64) (hp : s.pending = []) (h : s.live = true) :
      Moves s ⟨.latestBlock, answer⟩ (s.sighted answer)
  | pause (millis : Nat) (pauseEnd : PauseEnd) : Moves s ⟨.pause millis, pauseEnd⟩ s
  | isCancelled (answer : Bool) : Moves s ⟨.isCancelled, answer⟩ s
  | publish (state : WatchState) : Moves s ⟨.publish state, ()⟩ s

variable {s t : Survey} {e : Event Watch.interface} {log : Log Watch.interface}

theorem moves_of_step (h : s.step e = some t) : s.Moves e t := by
  obtain ⟨q, a⟩ := e
  cases q with
  | record c =>
    obtain ⟨hhead, ht⟩ := Option.ite_none_right_eq_some.mp h
    obtain ⟨rest, hpending⟩ := List.head?_eq_some_iff.mp hhead
    cases ht
    rw [hpending]
    exact .record c rest a hpending
  | activity range token =>
    obtain ⟨⟨hp, hasks⟩, ht⟩ := Option.ite_none_right_eq_some.mp h
    cases ht
    exact .activity range token a hp hasks
  | moveCursor block =>
    obtain ⟨⟨hp, hcommits⟩, ht⟩ := Option.ite_none_right_eq_some.mp h
    cases ht
    exact .moveCursor block a hp hcommits
  | latestBlock =>
    obtain ⟨⟨hp, hlive⟩, ht⟩ := Option.ite_none_right_eq_some.mp h
    cases ht
    exact .latestBlock a hp hlive
  | pause millis =>
    obtain ⟨-, ht⟩ := Option.ite_none_right_eq_some.mp h
    cases ht
    exact .pause millis a
  | isCancelled =>
    obtain ⟨-, ht⟩ := Option.ite_none_right_eq_some.mp h
    cases ht
    exact .isCancelled a
  | publish state =>
    obtain ⟨-, ht⟩ := Option.ite_none_right_eq_some.mp h
    cases ht
    exact .publish state
  | cursor fallback => exact nomatch h
  | block number => exact nomatch h

/-! ## What the survey allows -/

theorem idles (hp : s.pending = []) : Watch.Idles step s :=
  ⟨fun _ _ => if_pos hp, fun _ => if_pos hp, fun _ => if_pos hp⟩

theorem activity_obeys {range : BlockRange} {token : Option String} (hp : s.pending = [])
    (h : s.Asks range token) :
    (Watch.activity range token).Obeys step (fun a t => t = s.read a) s :=
  fun a => ⟨s.read a, if_pos ⟨hp, h⟩, rfl⟩

theorem moveCursor_obeys {block : UInt64} (hp : s.pending = []) (h : s.Commits block) :
    (Watch.moveCursor block).Obeys step (fun _ t => t = start s.live (max s.position block)) s :=
  fun _ => ⟨start s.live (max s.position block), if_pos ⟨hp, h⟩, rfl⟩

theorem record_obeys {c : Candidate} {rest : List Candidate} (h : s.pending = c :: rest) :
    (Watch.record c).Obeys step (fun _ t => t = { s with pending := rest }) s :=
  fun _ => ⟨{ s with pending := rest }, by simp [step, h], rfl⟩

end Survey

end RedemptionWatch
