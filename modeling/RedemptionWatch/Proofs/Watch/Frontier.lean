import RedemptionWatch.Proofs.Watch.Rounds

/-!
# The frontier of a live scan

A `Frontier` says how far a live scan by blocks has got, as far as its log shows it. It is also a
monitor: `Frontier.step` refuses an event that would leave a block behind. A block is asked for only
if it is the first one that is not done or the last one that is, and not before the cursor.
Candidates are recorded in their order before anything else happens. The cursor moves only to the
last block that is done, never back and never past the head of the chain. `Frontier.Moves` lists
what is allowed.
-/

namespace RedemptionWatch

/-- How far a live scan has got. -/
structure Frontier where
  /-- The cursor that was read or last written. -/
  cursor : UInt64
  /-- The blocks before this one are done. -/
  next : Nat
  /-- The last one of them was asked for once more and could not be had. -/
  torn : Bool
  /-- The latest block when last asked for. -/
  head : Option UInt64
  /-- Candidates of the last block that are still to be recorded. -/
  pending : List Candidate
  deriving DecidableEq, Repr

namespace Frontier

/-- A scan starts at the cursor it reads. -/
def start (block : UInt64) : Frontier := ⟨block, block.toNat, false, none, []⟩

/-- The first block that is not done, or the last one that is. -/
def Borders (f : Frontier) (number : UInt64) : Prop :=
  number.toNat = f.next ∧ f.torn = false ∨ number.toNat + 1 = f.next

instance (f : Frontier) (number : UInt64) : Decidable (f.Borders number) :=
  inferInstanceAs (Decidable (_ ∨ _))

/-- What the answer for a block changes. A block that cannot be read is done. -/
def fetched (f : Frontier) (number : UInt64) :
    Except FetchError (Option (List Candidate)) → Frontier
  | .ok found => { f with next := number.toNat + 1, torn := false, pending := found.getD [] }
  | .error (.decode _) => { f with next := number.toNat + 1, torn := false }
  | .error _ => { f with torn := decide (number.toNat + 1 = f.next) }

/-- What the answer for the latest block changes. -/
def sighted (f : Frontier) : Except FetchError UInt64 → Frontier
  | .ok head => { f with head := some head }
  | .error _ => f

/-- May the cursor move to this block? -/
def Commits (f : Frontier) (block : UInt64) : Prop :=
  f.torn = false ∧ block.toNat + 1 = f.next ∧ f.cursor ≤ block ∧ ∃ head ∈ f.head, block ≤ head

instance (f : Frontier) (block : UInt64) : Decidable (f.Commits block) :=
  inferInstanceAs (Decidable (_ ∧ _ ∧ _ ∧ _))

/-- The frontier after an event, if it allows the event. -/
def step (f : Frontier) : Event Watch.interface → Option Frontier
  | ⟨.record c, _⟩ =>
    if f.pending.head? = some c then some { f with pending := f.pending.tail } else none
  | ⟨.block number, answer⟩ =>
    if f.pending = [] ∧ f.cursor ≤ number ∧ f.Borders number then
      some (f.fetched number answer)
    else none
  | ⟨.moveCursor block, _⟩ =>
    if f.pending = [] ∧ f.Commits block then some { f with cursor := block } else none
  | ⟨.latestBlock, answer⟩ => if f.pending = [] then some (f.sighted answer) else none
  | ⟨.pause _, _⟩ => if f.pending = [] then some f else none
  | ⟨.isCancelled, _⟩ => if f.pending = [] then some f else none
  | ⟨.publish _, _⟩ => if f.pending = [] then some f else none
  | ⟨.cursor _, _⟩ => none
  | ⟨.activity _ _, _⟩ => none

/-- The events that a frontier allows, and what each changes. -/
inductive Moves (f : Frontier) : Event Watch.interface → Frontier → Prop where
  | block (number : UInt64) (answer : Except FetchError (Option (List Candidate)))
      (hp : f.pending = []) (hcursor : f.cursor ≤ number) (h : f.Borders number) :
      Moves f ⟨.block number, answer⟩ (f.fetched number answer)
  | record (c : Candidate) (rest : List Candidate) (outcome : Except StoreError UpsertOutcome)
      (h : f.pending = c :: rest) : Moves f ⟨.record c, outcome⟩ { f with pending := rest }
  | moveCursor (block : UInt64) (result : Except StoreError Unit) (hp : f.pending = [])
      (h : f.Commits block) : Moves f ⟨.moveCursor block, result⟩ { f with cursor := block }
  | latestBlock (answer : Except FetchError UInt64) (hp : f.pending = []) :
      Moves f ⟨.latestBlock, answer⟩ (f.sighted answer)
  | pause (millis : Nat) (pauseEnd : PauseEnd) (hp : f.pending = []) :
      Moves f ⟨.pause millis, pauseEnd⟩ f
  | isCancelled (answer : Bool) (hp : f.pending = []) : Moves f ⟨.isCancelled, answer⟩ f
  | publish (state : WatchState) (hp : f.pending = []) : Moves f ⟨.publish state, ()⟩ f

variable {f g : Frontier} {e : Event Watch.interface} {log : Log Watch.interface}

theorem moves_of_step (h : f.step e = some g) : f.Moves e g := by
  obtain ⟨q, a⟩ := e
  cases q with
  | record c =>
    obtain ⟨hhead, hg⟩ := Option.ite_none_right_eq_some.mp h
    obtain ⟨rest, hpending⟩ := List.head?_eq_some_iff.mp hhead
    cases hg
    rw [hpending]
    exact .record c rest a hpending
  | block number =>
    obtain ⟨⟨hp, hcursor, hborders⟩, hg⟩ := Option.ite_none_right_eq_some.mp h
    cases hg
    exact .block number a hp hcursor hborders
  | moveCursor block =>
    obtain ⟨⟨hp, hcommits⟩, hg⟩ := Option.ite_none_right_eq_some.mp h
    cases hg
    exact .moveCursor block a hp hcommits
  | latestBlock =>
    obtain ⟨hp, hg⟩ := Option.ite_none_right_eq_some.mp h
    cases hg
    exact .latestBlock a hp
  | pause millis =>
    obtain ⟨hp, hg⟩ := Option.ite_none_right_eq_some.mp h
    cases hg
    exact .pause millis a hp
  | isCancelled =>
    obtain ⟨hp, hg⟩ := Option.ite_none_right_eq_some.mp h
    cases hg
    exact .isCancelled a hp
  | publish state =>
    obtain ⟨hp, hg⟩ := Option.ite_none_right_eq_some.mp h
    cases hg
    exact .publish state hp
  | cursor fallback => exact nomatch h
  | activity range token => exact nomatch h

/-- Nothing is pending before an event that records no candidate. -/
theorem Moves.pending_eq_nil (h : f.Moves e g) (he : ∀ c, e.request ≠ .record c) :
    f.pending = [] := by
  cases h with
  | record c => exact absurd rfl (he c)
  | block _ _ hp => exact hp
  | moveCursor _ _ hp => exact hp
  | latestBlock _ hp => exact hp
  | pause _ _ hp => exact hp
  | isCancelled _ hp => exact hp
  | publish _ hp => exact hp

/-- In a log that is accepted, every event is allowed by the frontier before it. -/
theorem moves_of_foldlM {before after : Log Watch.interface}
    (h : (before ++ e :: after).foldlM step f = some g) :
    ∃ m n, before.foldlM step f = some m ∧ m.Moves e n := by
  obtain ⟨m, n, hm, he⟩ := Log.exists_of_foldlM h
  exact ⟨m, n, hm, moves_of_step he⟩

/-! ## What the frontier allows -/

theorem idles (hp : f.pending = []) : Watch.Idles step f :=
  ⟨fun _ _ => if_pos hp, fun _ => if_pos hp, fun _ => if_pos hp⟩

theorem block_obeys {number : UInt64} (hp : f.pending = []) (hcursor : f.cursor ≤ number)
    (h : f.Borders number) :
    (Watch.block number).Obeys step (fun a g => g = f.fetched number a) f :=
  fun a => ⟨f.fetched number a, if_pos ⟨hp, hcursor, h⟩, rfl⟩

theorem moveCursor_obeys {block : UInt64} (hp : f.pending = []) (h : f.Commits block) :
    (Watch.moveCursor block).Obeys step (fun _ g => g = { f with cursor := block }) f :=
  fun _ => ⟨{ f with cursor := block }, if_pos ⟨hp, h⟩, rfl⟩

theorem record_obeys {c : Candidate} {rest : List Candidate} (h : f.pending = c :: rest) :
    (Watch.record c).Obeys step (fun _ g => g = { f with pending := rest }) f :=
  fun _ => ⟨{ f with pending := rest }, by simp [step, h], rfl⟩

end Frontier

end RedemptionWatch
