import Mathlib.Algebra.Order.Field.Basic
import Mathlib.Algebra.Order.Field.Rat
import Mathlib.Order.Bounds.Defs
import Mathlib.Tactic.Linarith
import Mathlib.Tactic.Ring
import RedemptionWatch.RateLimit.Bucket

/-!
# How many tokens are granted in a time

A limiter serves one call after the other (`Limiter.serve`). A call has its turn when it is made or
when the limiter is free, whichever is later. One that waits keeps the limiter busy until it has its
token. All this is in rational numbers, where a bucket counts without error.

The bound comes of what a bucket cannot hold: from any time on, the tokens that were granted and the
ones that are left are no more than a full bucket and what flowed in since (`Limiter.Sound.credit`).
Time that passes keeps this up (`Limiter.Sound.refill`), as does a token that is granted
(`Limiter.Sound.grant`), and every call consists of these two.
-/

namespace RedemptionWatch

namespace RateLimit

/-- The limit of so many requests a second, on a clock of rational seconds. -/
def exact (rate : ℚ) : RateLimit ℚ ℚ :=
  ⟨rate, fun start stop => stop - start⟩

/-- A call of a limiter, and when it is made. -/
inductive Call where
  | take (arrival : ℚ)
  | tryTake (arrival : ℚ)
  deriving DecidableEq, Repr

/-- The bucket of a limiter, since when it is free to serve a call, and when it granted tokens, the
latest first. -/
structure Limiter where
  bucket : Bucket ℚ ℚ
  free : ℚ
  grants : List ℚ
  deriving Repr

namespace Limiter

variable (rate : ℚ)

/-- A limiter with a full bucket. -/
def fresh (start : ℚ) : Limiter :=
  ⟨.full (exact rate) start, start, []⟩

/-- When a call has its turn. -/
def turn (s : Limiter) (arrival : ℚ) : ℚ :=
  max arrival s.free

/-- How long a call that has its turn at `now` waits for its token. -/
def delay (s : Limiter) (now : ℚ) : ℚ :=
  ((s.bucket.refill (exact rate) now).shortage? (exact rate)).getD 0

/-- Serves a call. -/
def serve (s : Limiter) : Call → Limiter
  | .take arrival =>
    let now := s.turn arrival
    let later := now + s.delay rate now
    ⟨s.bucket.take (exact rate) now later, later, later :: s.grants⟩
  | .tryTake arrival =>
    let now := s.turn arrival
    let (taken, bucket) := s.bucket.tryTake (exact rate) now
    ⟨bucket, now, if taken then now :: s.grants else s.grants⟩

/-- The limiter after calls. -/
def after (start : ℚ) (calls : List Call) : Limiter :=
  calls.foldl (serve rate) (fresh rate start)

/-- How many tokens were granted in the time of this length from `start` on, both ends included. -/
def granted (s : Limiter) (start length : ℚ) : ℕ :=
  s.grants.countP fun t => start ≤ t ∧ t ≤ start + length

/-- How many tokens were granted from `start` on. -/
def grantedSince (s : Limiter) (start : ℚ) : ℕ :=
  s.grants.countP fun t => start ≤ t

end Limiter

end RateLimit

/-! ## What a bucket gains -/

namespace Bucket

open RateLimit (exact)

variable {rate : ℚ} {b : Bucket ℚ ℚ} {now later : ℚ}

theorem tokens_refill : (b.refill (exact rate) now).tokens =
    min (b.tokens + (now - b.time) * rate) (max rate 1) :=
  rfl

theorem tokens_refill_le : (b.refill (exact rate) now).tokens ≤ max rate 1 :=
  min_le_right _ _

theorem tokens_refill_le_add :
    (b.refill (exact rate) now).tokens ≤ b.tokens + (now - b.time) * rate :=
  min_le_left _ _

theorem tokens_refill_nonneg (hrate : 0 ≤ rate) (htokens : 0 ≤ b.tokens) (hnow : b.time ≤ now) :
    0 ≤ (b.refill (exact rate) now).tokens := by
  have hgain : 0 ≤ (now - b.time) * rate := mul_nonneg (sub_nonneg.mpr hnow) hrate
  exact le_min (add_nonneg htokens hgain) (le_max_of_le_left hrate)

/-- Counting in between makes no difference. -/
theorem refill_refill (hrate : 0 ≤ rate) (hlater : now ≤ later) :
    (b.refill (exact rate) now).refill (exact rate) later = b.refill (exact rate) later := by
  have hgain : 0 ≤ (later - now) * rate := mul_nonneg (sub_nonneg.mpr hlater) hrate
  have hsum : b.tokens + (now - b.time) * rate + (later - now) * rate =
      b.tokens + (later - b.time) * rate := by ring
  have htokens : min (min (b.tokens + (now - b.time) * rate) (max rate 1) + (later - now) * rate)
      (max rate 1) = min (b.tokens + (later - b.time) * rate) (max rate 1) := by
    rw [← min_add_add_right, hsum, min_assoc, min_eq_right (le_add_of_nonneg_right hgain)]
  exact congrArg (Bucket.mk · later) htokens

/-- A bucket without a whole token has one as soon as the shortage is made up for, and no sooner. -/
theorem one_le_tokens_iff (hrate : 0 < rate) :
    1 ≤ (b.refill (exact rate) later).tokens ↔ (1 - b.tokens) / rate ≤ later - b.time := by
  rw [tokens_refill, le_min_iff, and_iff_left (le_max_right rate 1), div_le_iff₀ hrate,
    sub_le_iff_le_add']

end Bucket

namespace RateLimit.Limiter

/-! ## What calls keep up -/

variable {rate : ℚ} {s : Limiter}

/-- The tokens are counted up to the time from which the limiter is free. Over any time up to then,
the ones that were granted and the ones that are left are no more than a full bucket and what flowed
into it. -/
structure Sound (rate : ℚ) (s : Limiter) : Prop where
  time_eq : s.bucket.time = s.free
  nonneg : 0 ≤ s.bucket.tokens
  le_capacity : s.bucket.tokens ≤ max rate 1
  past : ∀ t ∈ s.grants, t ≤ s.free
  credit : ∀ start ≤ s.free,
    s.grantedSince start + s.bucket.tokens ≤ max rate 1 + rate * (s.free - start)
  window : ∀ start length, 0 ≤ length → s.granted start length ≤ max rate 1 + rate * length

theorem sound_fresh (hrate : 0 < rate) (start : ℚ) : (fresh rate start).Sound rate where
  time_eq := rfl
  nonneg := le_max_of_le_left hrate.le
  le_capacity := le_rfl
  past t h := absurd h List.not_mem_nil
  credit since h := by
    have hgain : 0 ≤ rate * (start - since) := mul_nonneg hrate.le (sub_nonneg.mpr h)
    have hfull : (fresh rate start).bucket.tokens = max rate 1 := rfl
    have hnone : (fresh rate start).grantedSince since = 0 := rfl
    rw [hfull, hnone, Nat.cast_zero, zero_add]
    exact le_add_of_nonneg_right hgain
  window since length hlength := by
    have hnone : (fresh rate start).granted since length = 0 := rfl
    rw [hnone, Nat.cast_zero]
    exact add_nonneg (le_max_of_le_left hrate.le) (mul_nonneg hrate.le hlength)

/-- Before the first grant after a time, nothing has been granted since. -/
theorem Sound.grantedSince_eq_zero (h : s.Sound rate) {start : ℚ} (hstart : s.free < start) :
    s.grantedSince start = 0 := by
  refine List.countP_eq_zero.mpr fun t ht => ?_
  have hpast := h.past t ht
  simpa using lt_of_le_of_lt hpast hstart

/-- Time passes. -/
theorem Sound.refill (h : s.Sound rate) (hrate : 0 < rate) {now : ℚ} (hnow : s.free ≤ now) :
    (Limiter.mk (s.bucket.refill (exact rate) now) now s.grants).Sound rate where
  time_eq := rfl
  nonneg := Bucket.tokens_refill_nonneg hrate.le h.nonneg (h.time_eq.trans_le hnow)
  le_capacity := Bucket.tokens_refill_le
  past t ht := (h.past t ht).trans hnow
  credit start hstart := by
    have hsince : (Limiter.mk (s.bucket.refill (exact rate) now) now s.grants).grantedSince start =
      s.grantedSince start := rfl
    rw [hsince]
    rcases le_or_gt start s.free with hearly | hlate
    · have hcredit := h.credit start hearly
      have hgain : (s.bucket.refill (exact rate) now).tokens ≤
          s.bucket.tokens + (now - s.free) * rate := by
        rw [← h.time_eq]
        exact Bucket.tokens_refill_le_add
      calc (s.grantedSince start : ℚ) + (s.bucket.refill (exact rate) now).tokens
          ≤ s.grantedSince start + (s.bucket.tokens + (now - s.free) * rate) := by gcongr
        _ = s.grantedSince start + s.bucket.tokens + (now - s.free) * rate := by ring
        _ ≤ max rate 1 + rate * (s.free - start) + (now - s.free) * rate := by gcongr
        _ = max rate 1 + rate * (now - start) := by ring
    · rw [h.grantedSince_eq_zero hlate, Nat.cast_zero, zero_add]
      have hgain : 0 ≤ rate * (now - start) := mul_nonneg hrate.le (sub_nonneg.mpr hstart)
      exact Bucket.tokens_refill_le.trans (le_add_of_nonneg_right hgain)
  window := h.window

/-- A whole token is granted. -/
theorem Sound.grant (h : s.Sound rate) (hrate : 0 < rate) (htoken : 1 ≤ s.bucket.tokens) :
    (Limiter.mk { s.bucket with tokens := s.bucket.tokens - 1 } s.free
      (s.free :: s.grants)).Sound rate where
  time_eq := h.time_eq
  nonneg := sub_nonneg.mpr htoken
  le_capacity := (sub_le_self _ zero_le_one).trans h.le_capacity
  past := List.forall_mem_cons.mpr ⟨le_rfl, h.past⟩
  credit start hstart := by
    have hcredit := h.credit start hstart
    have hsince : (Limiter.mk { s.bucket with tokens := s.bucket.tokens - 1 } s.free
        (s.free :: s.grants)).grantedSince start = s.grantedSince start + 1 :=
      List.countP_cons_of_pos (decide_eq_true hstart)
    rw [hsince]
    push_cast
    linarith
  window start length hlength := by
    by_cases hin : start ≤ s.free ∧ s.free ≤ start + length
    · have hcredit := h.credit start hin.1
      have hsince : s.granted start length ≤ s.grantedSince start :=
        List.countP_mono_left fun t _ ht => by simp_all
      have hgranted : (Limiter.mk { s.bucket with tokens := s.bucket.tokens - 1 } s.free
          (s.free :: s.grants)).granted start length = s.granted start length + 1 :=
        List.countP_cons_of_pos (decide_eq_true hin)
      rw [hgranted]
      calc ((s.granted start length + 1 : ℕ) : ℚ) ≤ s.grantedSince start + s.bucket.tokens := by
            push_cast
            gcongr
        _ ≤ max rate 1 + rate * (s.free - start) := hcredit
        _ ≤ max rate 1 + rate * length := by
            gcongr
            linarith
    · have hgranted : (Limiter.mk { s.bucket with tokens := s.bucket.tokens - 1 } s.free
          (s.free :: s.grants)).granted start length = s.granted start length :=
        List.countP_cons_of_neg (by simpa using hin)
      rw [hgranted]
      exact h.window start length hlength

/-! ## What one call does -/

section Delay

variable {now : ℚ}

theorem shortage?_of_le (h : 1 ≤ (s.bucket.refill (exact rate) now).tokens) :
    (s.bucket.refill (exact rate) now).shortage? (exact rate) = none :=
  if_neg (not_lt.mpr h)

theorem shortage?_of_lt (h : (s.bucket.refill (exact rate) now).tokens < 1) :
    (s.bucket.refill (exact rate) now).shortage? (exact rate) =
      some ((1 - (s.bucket.refill (exact rate) now).tokens) / rate) :=
  if_pos h

theorem delay_nonneg (hrate : 0 < rate) : 0 ≤ s.delay rate now := by
  unfold delay
  rcases le_or_gt 1 (s.bucket.refill (exact rate) now).tokens with h | h
  · rw [shortage?_of_le h]
    exact le_rfl
  · rw [shortage?_of_lt h]
    exact div_nonneg (sub_nonneg.mpr h.le) hrate.le

/-- There is a whole token after the delay, and at no time before. -/
theorem one_le_tokens_iff_delay_le (hrate : 0 < rate) {wait : ℚ} (hwait : 0 ≤ wait) :
    1 ≤ (s.bucket.refill (exact rate) (now + wait)).tokens ↔ s.delay rate now ≤ wait := by
  have hlater : now ≤ now + wait := le_add_of_nonneg_right hwait
  rw [← Bucket.refill_refill hrate.le hlater, Bucket.one_le_tokens_iff hrate]
  have htime : (s.bucket.refill (exact rate) now).time = now := rfl
  rw [htime, add_sub_cancel_left]
  unfold delay
  rcases le_or_gt 1 (s.bucket.refill (exact rate) now).tokens with h | h
  · rw [shortage?_of_le h]
    have hneg : (1 - (s.bucket.refill (exact rate) now).tokens) / rate ≤ 0 :=
      div_nonpos_of_nonpos_of_nonneg (sub_nonpos.mpr h) hrate.le
    exact iff_of_true (hneg.trans hwait) hwait
  · rw [shortage?_of_lt h]
    exact Iff.rfl

theorem isLeast_delay (hrate : 0 < rate) :
    IsLeast {wait | 0 ≤ wait ∧ 1 ≤ (s.bucket.refill (exact rate) (now + wait)).tokens}
      (s.delay rate now) := by
  have hdelay : 0 ≤ s.delay rate now := delay_nonneg hrate
  refine ⟨⟨hdelay, (one_le_tokens_iff_delay_le hrate hdelay).mpr le_rfl⟩, ?_⟩
  rintro wait ⟨hwait, htoken⟩
  exact (one_le_tokens_iff_delay_le hrate hwait).mp htoken

end Delay

/-- Time passes until there is a token, and it is granted. -/
theorem serve_take (hrate : 0 < rate) (arrival : ℚ) {later : ℚ}
    (hlater : later = s.turn arrival + s.delay rate (s.turn arrival)) :
    s.serve rate (.take arrival) =
      ⟨{ s.bucket.refill (exact rate) later with
          tokens := (s.bucket.refill (exact rate) later).tokens - 1 }, later,
        later :: s.grants⟩ := by
  have hdelay : 0 ≤ s.delay rate (s.turn arrival) := delay_nonneg hrate
  have htoken := (one_le_tokens_iff_delay_le hrate hdelay).mpr le_rfl
  rw [← hlater] at htoken
  have hspend : (s.bucket.refill (exact rate) later).spend =
      { s.bucket.refill (exact rate) later with
        tokens := (s.bucket.refill (exact rate) later).tokens - 1 } :=
    congrArg (Bucket.mk · later) (max_eq_left (sub_nonneg.mpr htoken))
  have htake : s.bucket.take (exact rate) (s.turn arrival) later =
      (s.bucket.refill (exact rate) later).spend := by
    unfold Bucket.take
    rcases le_or_gt 1 (s.bucket.refill (exact rate) (s.turn arrival)).tokens with h | h
    · have hnow : later = s.turn arrival := by
        rw [hlater, delay, shortage?_of_le h, Option.getD_none, add_zero]
      dsimp only
      rw [shortage?_of_le h, hnow]
    · have hle : s.turn arrival ≤ later := hlater ▸ le_add_of_nonneg_right hdelay
      dsimp only
      rw [shortage?_of_lt h]
      dsimp only
      rw [Bucket.refill_refill hrate.le hle]
  rw [← hspend, ← htake, hlater]
  rfl

/-- A call that does not wait is granted a token if there is a whole one. -/
theorem serve_tryTake (arrival : ℚ) :
    s.serve rate (.tryTake arrival) =
      if 1 ≤ (s.bucket.refill (exact rate) (s.turn arrival)).tokens then
        ⟨{ s.bucket.refill (exact rate) (s.turn arrival) with
            tokens := (s.bucket.refill (exact rate) (s.turn arrival)).tokens - 1 },
          s.turn arrival, s.turn arrival :: s.grants⟩
      else ⟨s.bucket.refill (exact rate) (s.turn arrival), s.turn arrival, s.grants⟩ := by
  unfold serve Bucket.tryTake
  dsimp only
  by_cases htoken : 1 ≤ (s.bucket.refill (exact rate) (s.turn arrival)).tokens
  · rw [if_pos htoken, if_pos htoken]
    rfl
  · rw [if_neg htoken, if_neg htoken]
    rfl

theorem Sound.serve (h : s.Sound rate) (hrate : 0 < rate) (c : Call) :
    (s.serve rate c).Sound rate := by
  have hturn (arrival : ℚ) : s.free ≤ s.turn arrival := le_max_right _ _
  cases c with
  | take arrival =>
    have hdelay : 0 ≤ s.delay rate (s.turn arrival) := delay_nonneg hrate
    rw [serve_take hrate arrival rfl]
    have hrefill := h.refill hrate ((hturn arrival).trans (le_add_of_nonneg_right hdelay))
    exact hrefill.grant hrate ((one_le_tokens_iff_delay_le hrate hdelay).mpr le_rfl)
  | tryTake arrival =>
    have hrefill := h.refill hrate (hturn arrival)
    rw [serve_tryTake]
    split_ifs with htoken
    · exact hrefill.grant hrate htoken
    · exact hrefill

theorem sound_after (hrate : 0 < rate) (start : ℚ) (calls : List Call) :
    (after rate start calls).Sound rate := by
  have hfoldl (s : Limiter) (h : s.Sound rate) :
      (calls.foldl (Limiter.serve rate) s).Sound rate := by
    induction calls generalizing s with
    | nil => exact h
    | cons c calls ih => exact ih _ (h.serve hrate c)
  exact hfoldl _ (sound_fresh hrate start)

end Limiter

/-- **A limiter bounds the rate of its grants.** Let a limiter of a positive rate serve any calls,
one after the other. Then

* its tokens are between none and `max rate 1`, when they are counted after the last call and at
  any time from then on;
* a call that waits is granted a token after its turn as soon as there is a whole one, and that is
  the next token to be granted;
* in any time, both ends included, no more than `max rate 1` tokens and `rate` for each second are
  granted. -/
theorem grants_bounded {rate : ℚ} (hrate : 0 < rate) (start : ℚ) (calls : List Call) {s : Limiter}
    (hs : Limiter.after rate start calls = s) :
    (0 ≤ s.bucket.tokens ∧ s.bucket.tokens ≤ max rate 1) ∧
    (∀ now, s.free ≤ now → 0 ≤ (s.bucket.refill (exact rate) now).tokens ∧
      (s.bucket.refill (exact rate) now).tokens ≤ max rate 1) ∧
    (∀ arrival, ∃ wait,
      IsLeast {wait | 0 ≤ wait ∧ 1 ≤ (s.bucket.refill (exact rate) (s.turn arrival + wait)).tokens}
        wait ∧
      (Limiter.after rate start (calls ++ [.take arrival])).grants =
        (s.turn arrival + wait) :: s.grants) ∧
    ∀ since length, 0 ≤ length → s.granted since length ≤ max rate 1 + rate * length := by
  have hsound : s.Sound rate := hs ▸ Limiter.sound_after hrate start calls
  refine ⟨⟨hsound.nonneg, hsound.le_capacity⟩, fun now hnow => ?_, fun arrival => ?_,
    hsound.window⟩
  · have hrefill := hsound.refill hrate hnow
    exact ⟨hrefill.nonneg, hrefill.le_capacity⟩
  · have hserve : Limiter.after rate start (calls ++ [.take arrival]) =
        s.serve rate (.take arrival) := by
      rw [← hs]
      exact List.foldl_append
    refine ⟨s.delay rate (s.turn arrival), Limiter.isLeast_delay hrate, ?_⟩
    rw [hserve, Limiter.serve_take hrate arrival rfl]

/-- Two tokens at once and then one each half second. -/
theorem grants_bounded_twoPerSecond :
    (0 : ℚ) < 2 ∧
    (Limiter.after 2 0 [.take 0, .tryTake 0, .tryTake 0, .take 0, .take (1 / 4)]).grants =
      [1, 1 / 2, 0, 0] ∧
    ((Limiter.after 2 0 [.take 0, .tryTake 0, .tryTake 0, .take 0, .take (1 / 4)]).granted 0 1 : ℚ)
      ≤ max 2 1 + 2 * 1 :=
  ⟨by decide, by decide +kernel, (grants_bounded (by decide) 0 _ rfl).2.2.2 0 1 (by decide)⟩

end RateLimit

end RedemptionWatch
