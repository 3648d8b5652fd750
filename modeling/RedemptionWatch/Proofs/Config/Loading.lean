import Mathlib.Data.List.Nodup
import RedemptionWatch.Config.Settings

/-!
# Settings that load

`Config.Entry.settings_eq_ok_iff` says which entries have settings, and what these are. Entries are
checked one after the other, each against the chains of those before it, so all settings of a
configuration that loads are for different chains (`Config.nodup_load`).
-/

namespace RedemptionWatch

namespace Config

/-- The settings of an entry: its chain is known, its pages are not empty, and there are a source
and an endpoint for it. -/
theorem Entry.settings_eq_ok_iff {e : Entry} {s : Settings} : e.settings = .ok s ↔
    ∃ chainId source url, (e.chainId <|> ChainId.ofName? e.chain) = some chainId ∧
      e.pageSize ≠ 0 ∧ sourceOf e.chain chainId e.pageSize e.tracking = .ok source ∧
      urlOf e.chain e.url = .ok url ∧
      s = ⟨e.chain, chainId, e.rateLimit, e.pageSize, e.waitSeconds, e.initialBlock,
        e.retry.getD .standard, source url⟩ := by
  unfold settings
  constructor
  · intro h
    split at h
    case h_1 => exact nomatch h
    case h_2 chainId hchain =>
      by_cases hsize : e.pageSize = 0
      · rw [if_pos hsize] at h
        exact nomatch h
      · rw [if_neg hsize] at h
        cases hsource : sourceOf e.chain chainId e.pageSize e.tracking with
        | error _ =>
          rw [hsource] at h
          exact nomatch h
        | ok source =>
          rw [hsource] at h
          cases hurl : urlOf e.chain e.url with
          | error _ =>
            rw [hurl] at h
            exact nomatch h
          | ok url =>
            rw [hurl] at h
            cases h
            exact ⟨chainId, source, url, hchain, hsize, hsource, rfl, rfl⟩
  · rintro ⟨chainId, source, url, hchain, hsize, hsource, hurl, rfl⟩
    rw [hchain]
    dsimp only
    rw [if_neg hsize, hsource, hurl]
    rfl

/-- An entry keeps its chain. -/
theorem Entry.chain_settings {e : Entry} {s : Settings} (h : e.settings = .ok s) :
    s.chain = e.chain := by
  obtain ⟨_, _, _, -, -, -, -, rfl⟩ := settings_eq_ok_iff.mp h
  rfl

variable {seen : List String} {e : Entry} {entries : List Entry} {all : List Settings}

/-- The first entry is for a new chain, which is not new to the entries after it. -/
theorem settingsAfter_cons (h : settingsAfter seen (e :: entries) = .ok all) :
    e.chain ∉ seen ∧ ∃ s rest, all = s :: rest ∧ s.chain = e.chain ∧
      settingsAfter (e.chain :: seen) entries = .ok rest := by
  unfold settingsAfter at h
  split_ifs at h with hseen
  · exact nomatch h
  · cases hs : e.settings with
    | error _ =>
      rw [hs] at h
      exact nomatch h
    | ok s =>
      cases hrest : settingsAfter (e.chain :: seen) entries with
      | error _ =>
        rw [hs, hrest] at h
        exact nomatch h
      | ok rest =>
        rw [hs, hrest] at h
        cases h
        exact ⟨hseen, s, rest, rfl, Entry.chain_settings hs, rfl⟩

theorem nodup_settingsAfter (h : settingsAfter seen entries = .ok all) :
    (all.map (·.chain)).Nodup ∧ ∀ s ∈ all, s.chain ∉ seen := by
  induction entries generalizing seen all with
  | nil =>
    cases h
    exact ⟨.nil, fun _ h => absurd h List.not_mem_nil⟩
  | cons e entries ih =>
    obtain ⟨hseen, s, rest, rfl, hchain, hrest⟩ := settingsAfter_cons h
    obtain ⟨hnodup, hnew⟩ := ih hrest
    refine ⟨List.nodup_cons.mpr ⟨fun hmem => ?_, hnodup⟩, fun r hr => ?_⟩
    · obtain ⟨r, hr, hrs⟩ := List.mem_map.mp hmem
      have heq : r.chain = e.chain := hrs.trans hchain
      exact hnew r hr (heq ▸ List.mem_cons_self ..)
    · rcases List.mem_cons.mp hr with rfl | hr
      · rwa [hchain]
      · exact fun hmem => hnew r hr (List.mem_cons_of_mem _ hmem)

/-- The settings of a configuration are for different chains. -/
theorem nodup_load {text : String} (h : load text = .ok all) : (all.map (·.chain)).Nodup := by
  unfold load at h
  split at h
  · exact (nodup_settingsAfter h).1
  · exact nomatch h

end Config

end RedemptionWatch
