import Mathlib.Data.List.Induction
import RedemptionWatch.Proofs.Watch.LiveScan

/-!
# The cursor of a live loop is safe

When a live loop by blocks moves its cursor, every block from the one it started at up to the cursor
is settled by then: when it was last asked for, its candidates came and were all handed to the
store, or it could not be read. The cursor never goes back, and never past a head of the chain that
was answered (`Watcher.live_cursor_safe`). A block whose last answer was a failure that may pass is
not settled, so the cursor stays before it.

`Frontier.Sound` is what a frontier stands for in the log it has accepted. One event keeps it
(`Frontier.Sound.snoc`), so it holds of every log (`Frontier.sound_of_foldlM`).
-/

namespace RedemptionWatch

/-- When it was last asked for, the candidates of the block came and were all handed to the store,
in order, or the block could not be read. -/
def Settled (log : Log Watch.interface) (block : UInt64) : Prop :=
  ∃ (before after : Log Watch.interface) (answer : Except FetchError (Option (List Candidate))),
    log = before ++ ⟨.block block, answer⟩ :: after ∧ .block block ∉ Watch.requests after ∧
    match answer with
    | .ok found => (found.getD []).map Watch.Request.record <+: Watch.requests after
    | .error e => ∃ reason, e = .decode reason

/-- The candidates of the block came last, and all but those of `rest` were handed to the store. -/
def Settling (log : Log Watch.interface) (block : UInt64) (rest : List Candidate) : Prop :=
  ∃ (before after : Log Watch.interface) (found : Option (List Candidate)) (done : List Candidate),
    log = before ++ ⟨.block block, .ok found⟩ :: after ∧ found.getD [] = done ++ rest ∧
    Watch.requests after = done.map .record

variable {log : Log Watch.interface} {b : UInt64}

namespace Settled

theorem snoc (h : Settled log b) (q : Watch.Request) (hq : q ≠ .block b) (a : q.Answer) :
    Settled (log ++ [⟨q, a⟩]) b := by
  obtain ⟨before, after, answer, rfl, hafter, hanswer⟩ := h
  refine ⟨before, after ++ [⟨q, a⟩], answer, by simp, ?_, ?_⟩
  · rw [Watch.requests_append, List.mem_append]
    rintro (hmem | hmem)
    · exact hafter hmem
    · exact hq (List.mem_singleton.mp hmem).symm
  · cases answer with
    | ok found =>
      rw [Watch.requests_append]
      exact hanswer.trans (List.prefix_append _ _)
    | error reason => exact hanswer

theorem cons (h : Settled log b) (e : Event Watch.interface) : Settled (e :: log) b := by
  obtain ⟨before, after, answer, rfl, h⟩ := h
  exact ⟨e :: before, after, answer, rfl, h⟩

theorem of_decode (log : Log Watch.interface) (reason : String) :
    Settled (log ++ [⟨.block b, .error (.decode reason)⟩]) b :=
  ⟨log, [], .error (.decode reason), rfl, List.not_mem_nil, reason, rfl⟩

end Settled

namespace Settling

variable {c : Candidate} {rest : List Candidate}

theorem of_ok (log : Log Watch.interface) (found : Option (List Candidate)) :
    Settling (log ++ [⟨.block b, .ok found⟩]) b (found.getD []) :=
  ⟨log, [], found, [], rfl, rfl, rfl⟩

theorem record (h : Settling log b (c :: rest)) (outcome : Except StoreError UpsertOutcome) :
    Settling (log ++ [⟨.record c, outcome⟩]) b rest := by
  obtain ⟨before, after, found, done, rfl, hfound, hafter⟩ := h
  refine ⟨before, after ++ [⟨.record c, outcome⟩], found, done ++ [c], by simp, by simp [hfound],
    ?_⟩
  rw [Watch.requests_append, hafter, List.map_append]
  rfl

theorem settled (h : Settling log b []) : Settled log b := by
  obtain ⟨before, after, found, done, rfl, hfound, hafter⟩ := h
  rw [List.append_nil] at hfound
  refine ⟨before, after, .ok found, rfl, ?_, ?_⟩
  · rw [hafter]
    simp
  · simp only [hfound, hafter]
    exact List.prefix_refl _

end Settling

namespace Frontier

/-- What a frontier stands for in a log that started at block `start`. -/
structure Sound (start : UInt64) (log : Log Watch.interface) (f : Frontier) : Prop where
  start_le : start ≤ f.cursor
  moves : ∀ b, .moveCursor b ∈ Watch.requests log → b ≤ f.cursor
  head : ∀ head ∈ f.head, ⟨.latestBlock, .ok head⟩ ∈ log
  settled : ∀ b : UInt64, start ≤ b → b.toNat < f.next →
    (b.toNat + 1 = f.next → f.torn = false ∧ f.pending = []) → Settled log b
  settling : f.pending ≠ [] → ∃ b : UInt64, b.toNat + 1 = f.next ∧ Settling log b f.pending

variable {f g : Frontier} {e : Event Watch.interface} {start : UInt64}

theorem sound_start (start : UInt64) : Sound start [] (Frontier.start start) where
  start_le := UInt64.le_refl start
  moves _ h := absurd h List.not_mem_nil
  head _ h := nomatch h
  settled _ hb hlt := absurd (UInt64.le_iff_toNat_le.mp hb) (Nat.not_le.mpr hlt)
  settling h := absurd rfl h

/-- While nothing is pending, an event that asks for no block leaves what is settled. -/
theorem Sound.snoc_of_pending_nil (h : Sound start log f) (hp : f.pending = [])
    (q : Watch.Request) (hq : ∀ b, q ≠ .block b) (a : q.Answer) (hcursor : f.cursor ≤ g.cursor)
    (hmoves : ∀ b, q = .moveCursor b → b ≤ g.cursor)
    (hhead : ∀ head ∈ g.head, head ∈ f.head ∨
      (⟨q, a⟩ : Event Watch.interface) = ⟨.latestBlock, .ok head⟩)
    (hnext : g.next = f.next) (htorn : g.torn = f.torn) (hgp : g.pending = []) :
    Sound start (log ++ [⟨q, a⟩]) g where
  start_le := UInt64.le_trans h.start_le hcursor
  moves b hb := by
    rw [Watch.requests_append, List.mem_append] at hb
    rcases hb with hb | hb
    · exact UInt64.le_trans (h.moves b hb) hcursor
    · exact hmoves b (List.mem_singleton.mp hb).symm
  head head hmem := by
    rcases hhead head hmem with hmem | heq
    · exact List.mem_append_left _ (h.head head hmem)
    · rw [heq]
      exact List.mem_append_right _ (List.mem_singleton_self _)
  settled b hb hlt hlast := by
    rw [hnext] at hlt hlast
    rw [htorn] at hlast
    exact (h.settled b hb hlt fun hb => ⟨(hlast hb).1, hp⟩).snoc q (hq b) a
  settling hne := absurd hgp hne

/-- The answer for a block leaves the other blocks that are settled. -/
theorem Sound.settled_snoc_block (h : Sound start log f) (hp : f.pending = []) {number : UInt64}
    (hborders : f.Borders number) (answer : Except FetchError (Option (List Candidate)))
    (hb : start ≤ b) (hlt : b.toNat < f.next) (hne : b ≠ number) :
    Settled (log ++ [⟨.block number, answer⟩]) b := by
  refine (h.settled b hb hlt fun hlast => ⟨?_, hp⟩).snoc (.block number) ?_ answer
  · rcases hborders with ⟨-, htorn⟩ | hnumber
    · exact htorn
    · exact absurd (UInt64.toNat_inj.mp (by omega)) hne
  · rintro ⟨⟩
    exact hne rfl

theorem Borders.lt_next {number : UInt64} (h : f.Borders number)
    (hlt : b.toNat < number.toNat + 1) (hne : b ≠ number) : b.toNat < f.next := by
  have hne' : b.toNat ≠ number.toNat := fun heq => hne (UInt64.toNat_inj.mp heq)
  rcases h with ⟨hnext, -⟩ | hnext <;> omega

/-- The answer for a block may settle this block. -/
theorem Sound.snoc_block (h : Sound start log f) (hp : f.pending = []) {number : UInt64}
    (hborders : f.Borders number) (answer : Except FetchError (Option (List Candidate))) :
    Sound start (log ++ [⟨.block number, answer⟩]) (f.fetched number answer) := by
  have hmoves : ∀ b, .moveCursor b ∈ Watch.requests (log ++ [⟨.block number, answer⟩]) →
      b ≤ f.cursor := by
    intro b hmem
    rw [Watch.requests_append, List.mem_append] at hmem
    rcases hmem with hmem | hmem
    · exact h.moves b hmem
    · exact nomatch List.mem_singleton.mp hmem
  have hhead : ∀ head ∈ f.head,
      ⟨.latestBlock, .ok head⟩ ∈ log ++ [(⟨.block number, answer⟩ : Event Watch.interface)] :=
    fun head hmem => List.mem_append_left _ (h.head head hmem)
  -- a failure that may pass leaves the last block torn, if this is the one that was asked for
  have hfailed : ∀ b : UInt64, start ≤ b → b.toNat < f.next →
      (b.toNat + 1 = f.next → decide (number.toNat + 1 = f.next) = false ∧ f.pending = []) →
      Settled (log ++ [⟨.block number, answer⟩]) b := by
    intro b hb hlt hlast
    refine h.settled_snoc_block hp hborders answer hb hlt fun heq => ?_
    subst heq
    rcases hborders with ⟨hnext, -⟩ | hnext
    · omega
    · simpa [hnext] using (hlast hnext).1
  cases answer with
  | ok found =>
    refine ⟨h.start_le, hmoves, hhead, fun b hb hlt hlast => ?_,
      fun _ => ⟨number, rfl, Settling.of_ok log found⟩⟩
    by_cases heq : b = number
    · subst heq
      have hsettling := Settling.of_ok (b := b) log found
      have hnil : found.getD [] = [] := (hlast rfl).2
      rw [hnil] at hsettling
      exact hsettling.settled
    · exact h.settled_snoc_block hp hborders _ hb (hborders.lt_next hlt heq) heq
  | error e =>
    cases e with
    | decode reason =>
      refine ⟨h.start_le, hmoves, hhead, fun b hb hlt _ => ?_, fun hne => absurd hp hne⟩
      by_cases heq : b = number
      · subst heq
        exact Settled.of_decode log reason
      · exact h.settled_snoc_block hp hborders _ hb (hborders.lt_next hlt heq) heq
    | throttled reason => exact ⟨h.start_le, hmoves, hhead, hfailed, fun hne => absurd hp hne⟩
    | remote reason => exact ⟨h.start_le, hmoves, hhead, hfailed, fun hne => absurd hp hne⟩
    | cancelled => exact ⟨h.start_le, hmoves, hhead, hfailed, fun hne => absurd hp hne⟩

/-- One more event keeps what the frontier stands for. -/
theorem Sound.snoc (h : Sound start log f) (hm : f.Moves e g) : Sound start (log ++ [e]) g := by
  cases hm with
  | block number answer hp _ hborders => exact h.snoc_block hp hborders answer
  | record c rest outcome hpending =>
    obtain ⟨b, hb, hsettling⟩ := h.settling (by simp [hpending])
    rw [hpending] at hsettling
    refine ⟨h.start_le, fun b' hmem => ?_, fun head hhead => ?_, fun b' hstart hlt hlast => ?_,
      fun _ => ⟨b, hb, hsettling.record outcome⟩⟩
    · rw [Watch.requests_append, List.mem_append] at hmem
      rcases hmem with hmem | hmem
      · exact h.moves b' hmem
      · exact nomatch List.mem_singleton.mp hmem
    · exact List.mem_append_left _ (h.head head hhead)
    · by_cases hlastBlock : b'.toNat + 1 = f.next
      · obtain ⟨-, rfl⟩ := hlast hlastBlock
        have heq : b' = b := UInt64.toNat_inj.mp (by omega)
        rw [heq]
        exact (hsettling.record outcome).settled
      · exact (h.settled b' hstart hlt fun hlast => absurd hlast hlastBlock).snoc
          (.record c) nofun _
  | moveCursor block result hp hcommits =>
    obtain ⟨-, -, hle, -⟩ := hcommits
    refine h.snoc_of_pending_nil hp (.moveCursor block) nofun _ hle (fun b hb => ?_)
      (fun _ hmem => Or.inl hmem) rfl rfl hp
    cases hb
    exact UInt64.le_refl _
  | latestBlock answer hp =>
    cases answer with
    | ok head =>
      refine h.snoc_of_pending_nil hp .latestBlock nofun _ (UInt64.le_refl _) nofun
        (fun _ hmem => ?_) rfl rfl hp
      cases hmem
      exact Or.inr rfl
    | error reason =>
      exact h.snoc_of_pending_nil hp .latestBlock nofun _ (UInt64.le_refl _) nofun
        (fun _ hmem => Or.inl hmem) rfl rfl hp
  | pause millis pauseEnd hp =>
    exact h.snoc_of_pending_nil hp (.pause millis) nofun _ (UInt64.le_refl _) nofun
      (fun _ hmem => Or.inl hmem) rfl rfl hp
  | isCancelled answer hp =>
    exact h.snoc_of_pending_nil hp .isCancelled nofun _ (UInt64.le_refl _) nofun
      (fun _ hmem => Or.inl hmem) rfl rfl hp
  | publish state hp =>
    exact h.snoc_of_pending_nil hp (.publish state) nofun _ (UInt64.le_refl _) nofun
      (fun _ hmem => Or.inl hmem) rfl rfl hp

theorem sound_of_foldlM (h : log.foldlM step (Frontier.start start) = some f) :
    Sound start log f := by
  induction log using List.reverseRecOn generalizing f with
  | nil =>
    cases h
    exact sound_start start
  | append_singleton log e ih =>
    obtain ⟨m, hm, he⟩ := Log.foldlM_snoc.mp h
    exact (ih hm).snoc (moves_of_step he)

end Frontier

namespace Watcher

/-- **The cursor is safe.** Whatever a live loop by blocks is answered, when it moves the cursor to
a block, it has moved it to no later one before, the block lies between the one it started at and
a head of the chain it was answered, and every block from the start up to the cursor is settled. -/
theorem live_cursor_safe (w : Watcher) (hmode : w.mode = .blocks)
    {log before after : Log Watch.interface} {p : Watch.Act Turn} {block : UInt64}
    {result : Except StoreError Unit} (h : Loop.Logs w.live (.done (.inl .start)) log p)
    (hlog : log = before ++ ⟨.moveCursor block, result⟩ :: after) :
    ∃ start rest, before = ⟨.cursor w.initialBlock, .ok start⟩ :: rest ∧
      (∀ earlier, .moveCursor earlier ∈ Watch.requests before → earlier ≤ block) ∧
      start ≤ block ∧ (∃ head, ⟨.latestBlock, .ok head⟩ ∈ before ∧ block ≤ head) ∧
      ∀ b, start ≤ b → b ≤ block → Settled before b := by
  rcases live_accepted w hmode h with
    rfl | ⟨reason, rest, rfl, hrest⟩ | ⟨start, rest, f, rfl, hf, -⟩
  · simp at hlog
  · cases before with
    | nil => exact nomatch (List.cons.inj hlog).1
    | cons e before =>
      have hmem : (⟨.moveCursor block, result⟩ : Event Watch.interface) ∈ rest := by
        rw [(List.cons.inj hlog).2]
        simp
      exact nomatch hrest _ hmem
  · cases before with
    | nil => exact nomatch (List.cons.inj hlog).1
    | cons e before =>
      obtain ⟨rfl, rfl⟩ := List.cons.inj hlog
      obtain ⟨m, n, hm, hmoves⟩ := Frontier.moves_of_foldlM hf
      have hsound := Frontier.sound_of_foldlM hm
      cases hmoves with
      | moveCursor _ _ hp hcommits =>
        obtain ⟨htorn, hnext, hcursor, head, hhead, hle⟩ := hcommits
        refine ⟨start, before, rfl, fun earlier hmem => ?_, UInt64.le_trans hsound.start_le hcursor,
          ⟨head, List.mem_cons_of_mem _ (hsound.head head hhead), hle⟩, fun b hb hlast => ?_⟩
        · rcases List.mem_cons.mp hmem with heq | hmem
          · exact nomatch heq
          · exact UInt64.le_trans (hsound.moves earlier hmem) hcursor
        · have hlt := UInt64.le_iff_toNat_le.mp hlast
          exact (hsound.settled b hb (by omega) fun _ => ⟨htorn, hp⟩).cons _

/-- A live loop by pages of two blocks from block 7 on. -/
def sampleLive : Watcher where
  chain := "sample"
  chainId := default
  family := "evm"
  mode := .blocks
  pageSize := 2
  wait := 1000
  initialBlock := 7
  retry := ⟨1, 0⟩

/-- It scans block 7, which is empty, and block 8, which cannot be read. -/
def sampleScan : Log Watch.interface :=
  [⟨.cursor 7, .ok 7⟩, ⟨.isCancelled, false⟩, ⟨.publish .polling, ()⟩, ⟨.latestBlock, .ok 9⟩,
    ⟨.isCancelled, false⟩, ⟨.block 7, .ok none⟩, ⟨.isCancelled, false⟩,
    ⟨.block 8, .error (.decode "no block")⟩]

/-- Then it moves its cursor to block 8. -/
theorem live_cursor_safe_sampleScan :
    sampleLive.mode = .blocks ∧
    (∃ p, Loop.Logs sampleLive.live (.done (.inl .start))
      (sampleScan ++ [⟨.moveCursor 8, .ok ()⟩]) p) ∧
    ∀ b, 7 ≤ b → b ≤ 8 → Settled sampleScan b := by
  have hlogs : Loop.Logs sampleLive.live (.done (.inl .start))
      (sampleScan ++ [⟨.moveCursor 8, .ok ()⟩]) _ :=
    .round <| .ask <| .round <| .ask <| .ask <| .ask <| .round <| .ask <| .ask <| .ask <| .ask <|
      .ask <| .nil _
  obtain ⟨start, rest, hbefore, -, -, -, hsettled⟩ := live_cursor_safe sampleLive rfl hlogs rfl
  cases hbefore
  exact ⟨rfl, ⟨_, hlogs⟩, hsettled⟩

end Watcher

end RedemptionWatch
