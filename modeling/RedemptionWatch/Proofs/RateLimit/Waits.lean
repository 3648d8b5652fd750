import RedemptionWatch.Proofs.Config.Loading
import RedemptionWatch.Proofs.Double.Arithmetic
import RedemptionWatch.Rehearsal.Quota

/-!
# Waits for a token

The wait for a token is a double, and a clock counts it only if it is not negative and less than
`2 ^ 64` seconds. However a bucket is used, its tokens are never negative (`Bucket.Reached`), so
that no wait is. Whether all waits are short enough depends on the rate alone
(`Rehearsal.Quota.takes_succeed_iff`): it has to be greater than `2 ^ -64` requests a second. A
configuration may have any rate.
-/

namespace RedemptionWatch

open Double

/-- A rate of `2 ^ -64` requests a second. At every higher one a token comes within less than
`2 ^ 64` seconds. -/
def RateLimit.slowest : Float :=
  1 / 18446744073709551616

/-- The rate of an entry is not checked. -/
theorem Config.Entry.settings_withRate (e : Entry) (rate : Float) :
    { e with rateLimit := rate }.settings =
      e.settings.map fun s => { s with rateLimit := rate } := by
  unfold settings
  dsimp only
  cases e.chainId <|> ChainId.ofName? e.chain with
  | none => rfl
  | some chainId =>
    dsimp only
    split
    · rfl
    · cases sourceOf e.chain chainId e.pageSize e.tracking with
      | error => rfl
      | ok source => cases urlOf e.chain e.url <;> rfl

variable {rate tokens x : Float} {p r : ℚ}

/-! ## Shortages -/

theorem denotes_slowest : Denotes (parts RateLimit.slowest) ((2 ^ 52 : ℕ) * 2 ^ (-116 : ℤ)) :=
  denotes_of_parts (by decide) rfl

theorem denotes_limit :
    Denotes (parts 18446744073709551616) ((2 ^ 52 : ℕ) * 2 ^ (12 : ℤ)) :=
  denotes_of_parts (by decide) rfl

/-- The greatest double less than `2 ^ 64`. -/
theorem denotes_last :
    Denotes (parts 18446744073709549568) ((2 ^ 53 - 1 : ℕ) * 2 ^ (11 : ℤ)) :=
  denotes_of_parts (by decide) rfl

/-- What is missing to a whole token is at most one. -/
theorem shortage_denotes (htokens : 0 ≤ tokens) (hshort : tokens < 1) :
    ∃ p, Denotes (parts (1 - tokens)) p ∧ p ≤ 1 := by
  obtain ⟨p, hp, hlt⟩ := exists_denotes_of_lt htokens hshort denotes_one
  have hrounds := rounds_sub denotes_one hp hlt.le
  have hnonneg : 0 ≤ 1 - tokens := hrounds.ge 0 0 denotes_zero (sub_nonneg.mpr hlt.le)
  have hle : 1 - tokens ≤ 1 := hrounds.le 1 1 denotes_one (sub_le_self 1 hp.nonneg)
  exact exists_denotes_of_le hnonneg hle denotes_one

theorem zero_le_div (hx : Denotes (parts x) p) (hrate : 0 < rate) : 0 ≤ x / rate := by
  rcases cases_of_pos hrate with hinfinity | ⟨r, hr, hpos⟩
  · exact (le_iff denotes_zero (denotes_div_infinity hx hinfinity)).mpr (le_refl _)
  · exact (rounds_div hx hr hpos).ge 0 0 denotes_zero (div_nonneg hx.nonneg hpos.le)

/-- The next double above the slowest rate is so much higher that no wait is rounded up to the
limit. -/
theorem next_le_of_slowest_lt (hr : Denotes (parts rate) r) (hfast : RateLimit.slowest < rate) :
    ((2 ^ 52 + 1 : ℕ) : ℚ) * 2 ^ (-116 : ℤ) ≤ r := by
  have hlt := (lt_iff denotes_slowest hr).mp hfast
  have hslowest : IsShape (2 ^ 52) (-116) := ⟨by decide, by decide, Or.inl (Nat.le_refl _)⟩
  generalize parts rate = u at hr
  cases hr with
  | zero => exact absurd hlt (not_lt.mpr (by positivity))
  | finite hm hshape => exact hslowest.succ_le_of_lt hshape hlt

theorem div_lt_limit (hx : Denotes (parts x) p) (hp : p ≤ 1) (hrate : 0 < rate)
    (hfast : RateLimit.slowest < rate) : x / rate < 18446744073709551616 := by
  rcases cases_of_pos hrate with hinfinity | ⟨r, hr, hpos⟩
  · exact (lt_iff (denotes_div_infinity hx hinfinity) denotes_limit).mpr (by positivity)
  · have hnext := next_le_of_slowest_lt hr hfast
    have hquotient : p / r ≤ (2 ^ 53 - 1 : ℕ) * 2 ^ (11 : ℤ) := by
      rw [div_le_iff₀ hpos]
      calc p ≤ 1 := hp
        _ ≤ (2 ^ 53 - 1 : ℕ) * 2 ^ (11 : ℤ) * ((2 ^ 52 + 1 : ℕ) * 2 ^ (-116 : ℤ)) := by norm_num
        _ ≤ (2 ^ 53 - 1 : ℕ) * 2 ^ (11 : ℤ) * r := by gcongr
    have hle := (rounds_div hx hr hpos).le _ _ denotes_last hquotient
    obtain ⟨q, hq, hqle⟩ := exists_denotes_of_le (zero_le_div hx hrate) hle denotes_last
    exact (lt_iff hq denotes_limit).mpr (hqle.trans_lt (by norm_num))

theorem not_one_div_lt_limit (hr : Denotes (parts rate) r) (hpos : 0 < r)
    (hslow : r ≤ (2 ^ 52 : ℕ) * 2 ^ (-116 : ℤ)) : ¬1 / rate < 18446744073709551616 := by
  have hquotient : ((2 ^ 52 : ℕ) : ℚ) * 2 ^ (12 : ℤ) ≤ 1 / r := by
    rw [le_div_iff₀ hpos]
    calc ((2 ^ 52 : ℕ) : ℚ) * 2 ^ (12 : ℤ) * r
        ≤ (2 ^ 52 : ℕ) * 2 ^ (12 : ℤ) * ((2 ^ 52 : ℕ) * 2 ^ (-116 : ℤ)) := by gcongr
      _ = 1 := by norm_num
  have hrounds := rounds_div denotes_one hr hpos
  have hlimit := hrounds.ge _ _ denotes_limit hquotient
  have hnonneg : 0 ≤ 1 / rate := hrounds.ge 0 0 denotes_zero (by positivity)
  intro hlt
  obtain ⟨q, hq, hqlt⟩ := exists_denotes_of_lt hnonneg hlt denotes_limit
  exact absurd ((le_iff denotes_limit hq).mp hlimit) (not_le.mpr hqlt)

/-! ## Tokens -/

section Tokens

variable {T : Type} {l : RateLimit T Float} {b : Bucket T Float}

/-- No time that passes on the clock of the limit is less than 0. -/
def RateLimit.Forward (l : RateLimit T Float) : Prop :=
  ∀ start stop, ¬l.elapsed start stop < 0

theorem RateLimit.forward_seconds (rate : Float) : Forward ⟨rate, seconds⟩ := by
  have hbillion : Denotes (parts 1000000000) ((8388608000000000 : ℕ) * 2 ^ (-23 : ℤ)) :=
    denotes_of_parts (by decide) rfl
  exact fun start stop => not_lt_zero_add (not_lt_zero_ofNat _)
    (not_lt_zero_div (not_lt_zero_ofNat _) hbillion (by norm_num))

theorem RateLimit.capacity_nonneg (hrate : 0 < l.rate) : 0 ≤ l.capacity := by
  have hmax : l.capacity = if l.rate ≤ 1 then 1 else l.rate := rfl
  rw [hmax]
  split
  · decide
  · exact lt_imp_le hrate

namespace Bucket

theorem refill_nonneg (hrate : 0 < l.rate) (hclock : l.Forward) (htokens : 0 ≤ b.tokens) (now : T) :
    0 ≤ (b.refill l now).tokens := by
  have hrefill : (b.refill l now).tokens =
      if b.tokens + l.elapsed b.time now * l.rate ≤ l.capacity then
        b.tokens + l.elapsed b.time now * l.rate
      else l.capacity := rfl
  rw [hrefill]
  split
  · next hle =>
    refine nonneg_of_not_lt_zero (not_lt_zero_add (not_lt_zero_of_nonneg htokens) ?_) hle
    exact not_lt_zero_mul (hclock _ _) (not_lt_zero_of_nonneg (lt_imp_le hrate))
  · exact RateLimit.capacity_nonneg hrate

theorem sub_one_nonneg (htokens : 0 ≤ tokens) (h : 1 ≤ tokens) : 0 ≤ tokens - 1 := by
  rcases cases_of_nonneg htokens with hinfinity | ⟨p, hp⟩
  · exact lt_imp_le (lt_of_infinity denotes_zero (parts_sub_of_infinity hinfinity denotes_one))
  · have hle := (le_iff denotes_one hp).mp h
    exact (rounds_sub hp denotes_one hle).ge 0 0 denotes_zero (sub_nonneg.mpr hle)

theorem spend_nonneg (htokens : 0 ≤ b.tokens) : 0 ≤ b.spend.tokens := by
  have hspend : b.spend.tokens = if b.tokens - 1 ≤ 0 then 0 else b.tokens - 1 := rfl
  rw [hspend]
  split
  · decide
  · next hnot =>
    rcases cases_of_nonneg htokens with hinfinity | ⟨p, hp⟩
    · exact lt_imp_le (lt_of_infinity denotes_zero (parts_sub_of_infinity hinfinity denotes_one))
    · have hle : 1 ≤ p := le_of_not_ge fun hle => hnot (sub_le_zero hp denotes_one hle)
      exact sub_one_nonneg htokens ((le_iff denotes_one hp).mpr hle)

theorem take_nonneg (hrate : 0 < l.rate) (hclock : l.Forward) (htokens : 0 ≤ b.tokens)
    (now later : T) : 0 ≤ (b.take l now later).tokens := by
  have hrefill := refill_nonneg hrate hclock htokens now
  unfold take
  dsimp only
  split
  · exact spend_nonneg hrefill
  · exact spend_nonneg (refill_nonneg hrate hclock hrefill later)

theorem tryTake_nonneg (hrate : 0 < l.rate) (hclock : l.Forward) (htokens : 0 ≤ b.tokens)
    (now : T) : 0 ≤ (b.tryTake l now).2.tokens := by
  have hrefill := refill_nonneg hrate hclock htokens now
  unfold tryTake
  dsimp only
  split
  · next hwhole => exact sub_one_nonneg hrefill hwhole
  · exact hrefill

/-- The bucket was full once and has been used since, at any times. -/
inductive Reached (l : RateLimit T Float) : Bucket T Float → Prop
  | full (now : T) : Reached l (.full l now)
  | take {b : Bucket T Float} (h : Reached l b) (now later : T) : Reached l (b.take l now later)
  | tryTake {b : Bucket T Float} (h : Reached l b) (now : T) : Reached l (b.tryTake l now).2

theorem Reached.tokens_nonneg (h : b.Reached l) (hrate : 0 < l.rate) (hclock : l.Forward) :
    0 ≤ b.tokens := by
  induction h with
  | full now => exact RateLimit.capacity_nonneg hrate
  | take h now later ih => exact take_nonneg hrate hclock ih now later
  | tryTake h now ih => exact tryTake_nonneg hrate hclock ih now

theorem Reached.wait (h : b.Reached l) (hrate : 0 < l.rate) (hclock : l.Forward) {now : T}
    {wait : Float} (hwait : (b.refill l now).shortage? l = some wait) :
    0 ≤ wait ∧ (RateLimit.slowest < l.rate → wait < 18446744073709551616) := by
  have hrefill := refill_nonneg hrate hclock (h.tokens_nonneg hrate hclock) now
  unfold shortage? at hwait
  split at hwait
  · next hshort =>
    obtain ⟨p, hp, hle⟩ := shortage_denotes hrefill hshort
    cases hwait
    exact ⟨zero_le_div hp hrate, div_lt_limit hp hle hrate⟩
  · exact nomatch hwait

end Bucket

end Tokens

namespace Rehearsal.Quota

/-! ## Calls -/

/-- What is done with a quota. -/
inductive Call where
  | take
  | tryTake
  | advance (millis : Nat)
  deriving DecidableEq

/-- The quota after a call, if that does not fail. -/
def serve (q : Quota) : Call → Option Quota
  | .take => q.take
  | .tryTake => some q.tryTake.2
  | .advance millis => some (q.advance millis)

/-- The quota after calls, if none of them fails. -/
def serveAll (q : Quota) (calls : List Call) : Option Quota :=
  calls.foldlM serve q

/-- The seconds for which the next take waits, if it does. -/
def wait? (q : Quota) : Option Float :=
  q.limit.bind fun l => (q.bucket.refill l q.now).shortage? l

/-- The limit of a positive rate. -/
def limitOf (rate : Float) : RateLimit Nat Float :=
  ⟨rate, RateLimit.seconds⟩

/-- The quota has this rate, and a bucket that was full at the start. -/
structure Sound (rate : Float) (q : Quota) : Prop where
  limit_eq : q.limit = some (limitOf rate)
  reached : q.bucket.Reached (limitOf rate)

variable {q q' : Quota}

theorem sound_start (hrate : 0 < rate) : Sound rate (start rate) := by
  have hlimit : RateLimit.perSecond? rate = some (limitOf rate) := if_pos hrate
  refine ⟨hlimit, ?_⟩
  rw [start, hlimit]
  exact .full 0

theorem Sound.wait (h : Sound rate q) (hrate : 0 < rate) {wait : Float}
    (hwait : q.wait? = some wait) :
    0 ≤ wait ∧ (RateLimit.slowest < rate → wait < 18446744073709551616) := by
  rw [wait?, h.limit_eq] at hwait
  exact h.reached.wait hrate (RateLimit.forward_seconds rate) hwait

theorem Sound.serve (h : Sound rate q) {c : Call} (hserve : q.serve c = some q') :
    Sound rate q' := by
  obtain ⟨l, b, now⟩ := q
  obtain ⟨hl, hreached⟩ := h
  cases hl
  cases c with
  | take =>
    have htake : (⟨some (limitOf rate), b, now⟩ : Quota).take = some q' := hserve
    unfold Quota.take at htake
    dsimp only at htake
    split at htake
    · cases htake
      exact ⟨rfl, hreached.take now now⟩
    · obtain ⟨later, -, rfl⟩ := Option.map_eq_some_iff.mp htake
      exact ⟨rfl, hreached.take now later⟩
  | tryTake =>
    cases hserve
    exact ⟨rfl, hreached.tryTake now⟩
  | advance millis =>
    cases hserve
    exact ⟨rfl, hreached⟩

theorem isSome_nanoseconds? {x : Float} :
    (Decimal.nanoseconds? x).isSome ↔ 0 ≤ x ∧ x < 18446744073709551616 := by
  unfold Decimal.nanoseconds?
  split
  · next h => exact ⟨fun _ => h, fun _ => rfl⟩
  · next h => exact ⟨nofun, fun h' => absurd h' h⟩

/-- A take fails only if it would have to wait for too long. -/
theorem isSome_take (q : Quota) :
    q.take.isSome ↔ ∀ wait, q.wait? = some wait → 0 ≤ wait ∧ wait < 18446744073709551616 := by
  obtain ⟨_ | l, b, now⟩ := q
  · exact ⟨fun _ => nofun, fun _ => rfl⟩
  have hwait : (⟨some l, b, now⟩ : Quota).wait? = (b.refill l now).shortage? l := rfl
  rw [hwait]
  unfold Quota.take
  dsimp only
  split
  · next hnone =>
    rw [hnone]
    exact ⟨fun _ => nofun, fun _ => rfl⟩
  · next wait hsome =>
    rw [hsome, Option.isSome_map, RateLimit.wakeTime?, Option.isSome_map, isSome_nanoseconds?]
    exact ⟨fun h _ heq => Option.some_inj.mp heq ▸ h, fun h => h wait rfl⟩

theorem Sound.isSome_serve (h : Sound rate q) (hrate : 0 < rate)
    (hfast : RateLimit.slowest < rate) (c : Call) : (q.serve c).isSome := by
  cases c with
  | take =>
    refine q.isSome_take.mpr fun wait hwait => ?_
    obtain ⟨hnonneg, hlimit⟩ := h.wait hrate hwait
    exact ⟨hnonneg, hlimit hfast⟩
  | tryTake | advance => rfl

theorem Sound.isSome_serveAll (h : Sound rate q) (hrate : 0 < rate)
    (hfast : RateLimit.slowest < rate) (calls : List Call) : (q.serveAll calls).isSome := by
  induction calls generalizing q with
  | nil => rfl
  | cons c calls ih =>
    obtain ⟨q₁, hc⟩ := Option.isSome_iff_exists.mp (h.isSome_serve hrate hfast c)
    have hcons : q.serveAll (c :: calls) = (q.serve c).bind fun q => q.serveAll calls := rfl
    rw [hcons, hc]
    exact ih (h.serve hc)

/-- A bucket of a rate that is too low holds at most one token, and gains none at once. -/
theorem refill_of_slow (hr : Denotes (parts rate) r) (hpos : 0 < r) (hone : rate ≤ 1)
    (tokens : Float) :
    Bucket.refill (limitOf rate) ⟨tokens, 0⟩ 0 = ⟨min (tokens + 0) 1, 0⟩ := by
  have hcapacity : (limitOf rate).capacity = 1 := if_pos hone
  have hgain : RateLimit.seconds 0 0 * rate = 0 := zero_mul_of_pos hr hpos
  rw [Bucket.refill, hcapacity]
  exact congrArg (fun gain => (⟨min (tokens + gain) 1, 0⟩ : Bucket Nat Float)) hgain

/-- At a rate that is too low, the first token is there and the second one takes too long. -/
theorem serveAll_take_take (hrate : 0 < rate) (hslow : ¬RateLimit.slowest < rate) :
    (start rate).serveAll [.take, .take] = none := by
  rcases cases_of_pos hrate with hinfinity | ⟨r, hr, hpos⟩
  · exact absurd (lt_of_infinity denotes_slowest hinfinity) hslow
  have hle := not_lt.mp (mt (lt_iff denotes_slowest hr).mpr hslow)
  have hone : rate ≤ 1 := (le_iff hr denotes_one).mpr (hle.trans (by norm_num))
  have hfull : Bucket.refill (limitOf rate) ⟨1, 0⟩ 0 = ⟨1, 0⟩ := refill_of_slow hr hpos hone 1
  have hempty : Bucket.refill (limitOf rate) ⟨0, 0⟩ 0 = ⟨0, 0⟩ := refill_of_slow hr hpos hone 0
  have hstart : start rate = ⟨some (limitOf rate), ⟨1, 0⟩, 0⟩ := by
    have hlimit : RateLimit.perSecond? rate = some (limitOf rate) := if_pos hrate
    have hcapacity : (limitOf rate).capacity = 1 := if_pos hone
    rw [start, hlimit]
    exact congrArg (fun tokens => (⟨some (limitOf rate), ⟨tokens, 0⟩, 0⟩ : Quota)) hcapacity
  have hfirst : (start rate).take = some ⟨some (limitOf rate), ⟨0, 0⟩, 0⟩ := by
    rw [hstart]
    unfold Quota.take
    simp only [hfull, Bucket.take]
    rfl
  have hwait : (⟨some (limitOf rate), ⟨0, 0⟩, 0⟩ : Quota).wait? = some (1 / rate) := by
    show (Bucket.refill (limitOf rate) ⟨0, 0⟩ 0).shortage? (limitOf rate) = some (1 / rate)
    rw [hempty]
    rfl
  have hsecond : (⟨some (limitOf rate), ⟨0, 0⟩, 0⟩ : Quota).take = none :=
    Option.not_isSome_iff_eq_none.mp fun hsome =>
      not_one_div_lt_limit hr hpos hle ((isSome_take _).mp hsome _ hwait).2
  show (start rate).take.bind (fun q => q.take.bind some) = none
  rw [hfirst, Option.bind_some, hsecond]
  rfl

/-- **Which rates a clock can wait for.** However a bucket of a positive rate was used before, and
at whatever times, no take waits for a negative time, and none for `2 ^ 64` seconds or more if the
rate is greater than `2 ^ -64`. So all takes from a quota of such a rate succeed. At every other
rate the second of two takes in a row fails. The check of a configuration has no part in this: it
accepts an entry with any rate if it does with another one. -/
theorem takes_succeed_iff (rate : Float) (hrate : 0 < rate) :
    (∀ (T : Type) (l : RateLimit T Float), l.rate = rate → l.Forward →
      ∀ b : Bucket T Float, b.Reached l →
        ∀ now wait, (b.refill l now).shortage? l = some wait →
          0 ≤ wait ∧ (RateLimit.slowest < rate → wait < 18446744073709551616)) ∧
    ((∀ calls, ((start rate).serveAll calls).isSome) ↔ RateLimit.slowest < rate) ∧
    (¬RateLimit.slowest < rate → (start rate).serveAll [.take, .take] = none) ∧
    ∀ e : Config.Entry, { e with rateLimit := rate }.settings =
      e.settings.map fun s => { s with rateLimit := rate } := by
  refine ⟨fun T l hl hclock b hreached now wait hwait => ?_,
    ⟨fun hall => ?_, fun hfast calls => ?_⟩,
    serveAll_take_take hrate, fun e => e.settings_withRate rate⟩
  · subst hl
    exact hreached.wait hrate hclock hwait
  · by_contra hslow
    have hfails := hall [.take, .take]
    rw [serveAll_take_take hrate hslow] at hfails
    exact nomatch hfails
  · exact (sound_start hrate).isSome_serveAll hrate hfast calls

theorem takes_succeed_iff_fivePerSecond :
    (0 : Float) < 5 ∧ RateLimit.slowest < 5 ∧ ∀ calls, ((start 5).serveAll calls).isSome := by
  have hfast : RateLimit.slowest < 5 := by decide
  exact ⟨by decide, hfast, (takes_succeed_iff 5 (by decide)).2.1.mpr hfast⟩

/-- An Aptos watcher of one request in `10 ^ 20` seconds. -/
def slowConfiguration : String :=
  "\x7b\"watchers\": [\x7b\"family\": \"aptos\", \"chain\": \"aptos\", " ++
    "\"url\": \"http://[::1]\", \"rate_limit\": 1e-20, " ++
    "\"module_address\": \"0x3\", \"functions\": \x7b\"m::f\": \"f\"\x7d\x7d]\x7d"

/-- The configuration is accepted. The first take succeeds, the second one would have to wait for
`10 ^ 20` seconds, which no clock counts, and fails. -/
theorem accepted_rate_too_slow :
    (Config.load slowConfiguration).toOption.map (·.map (·.rateLimit)) = some [1e-20] ∧
    (0 : Float) < 1e-20 ∧
    ((start 1e-20).serveAll [.take]).bind wait? = some 1e20 ∧
    ¬(1e20 : Float) < 18446744073709551616 ∧
    ((start 1e-20).serveAll [.take, .take]).isNone := by
  decide +kernel

end Rehearsal.Quota

end RedemptionWatch
