import RedemptionWatch.Proofs.Address
import RedemptionWatch.Proofs.Config.Loading

/-!
# Functions are matched by the numbers of their modules

Nodes print Move addresses with or without zeros in front, and a configuration spells the address of
the tracked module in one more way. The address of the module is brought to its canonical form when
settings are loaded, that of a function when it is looked up, and both forms are equal if and only
if the two texts stand for one number. So a function is tracked if and only if what stands before
its first `::` is that number, in any spelling, and the rest is a key of the table
(`Aptos.functions_matched_by_number`).
-/

namespace RedemptionWatch

open Address Text Text.Hex

/-! ## Functions -/

namespace Aptos

variable {m : Module} {name method : String}

theorem method?_eq_some_iff : m.method? name = some method ↔
    ∃ before after, IsFirstCut [':', ':'] name.toList before after ∧
      move? (String.ofList before) = some m.address ∧
      m.functions.get? (String.ofList after) = some method := by
  unfold Module.method?
  constructor
  · intro h
    obtain ⟨⟨before, after⟩, hcut, h⟩ := Option.bind_eq_some_iff.mp h
    obtain ⟨address, haddress, h⟩ := Option.bind_eq_some_iff.mp h
    obtain ⟨heq, hmethod⟩ := Option.ite_none_right_eq_some.mp h
    exact ⟨before, after, cut?_eq_some_iff.mp hcut, haddress.trans (congrArg some heq), hmethod⟩
  · rintro ⟨before, after, hcut, haddress, hmethod⟩
    refine Option.bind_eq_some_iff.mpr ⟨(before, after), cut?_eq_some_iff.mpr hcut, ?_⟩
    refine Option.bind_eq_some_iff.mpr ⟨m.address, haddress, ?_⟩
    rw [if_pos rfl, hmethod]

/-- A module whose address is that of a number has the functions at this number. -/
theorem method?_canonicalNumber {n : ℕ} (h : m.address = canonicalNumber n) :
    m.method? name = some method ↔ ∃ before after, IsFirstCut [':', ':'] name.toList before after ∧
      DenotesNumber (String.ofList before) n ∧
      m.functions.get? (String.ofList after) = some method := by
  rw [method?_eq_some_iff]
  refine exists_congr fun before => exists_congr fun after => and_congr_right fun _ =>
    and_congr_left fun _ => ?_
  rw [h, move?_eq_some_iff]
  constructor
  · rintro ⟨k, hk, heq⟩
    rwa [canonicalNumber_injective heq]
  · exact fun hn => ⟨n, hn, rfl⟩

end Aptos

/-! ## Modules of configurations -/

namespace Config

variable {chain address : String} {chainId : ChainId} {pageSize : UInt64}
  {functions : Table String} {source : Url → Source}

/-- A module is accepted if its address is a number and it has functions. -/
theorem sourceOf_aptos_eq_ok_iff :
    sourceOf chain chainId pageSize (.aptos address functions) = .ok source ↔
      ∃ n, DenotesNumber address n ∧ functions.isEmpty = false ∧
        source = fun url => .aptos ⟨chainId, url, ⟨canonicalNumber n, functions⟩⟩ := by
  unfold sourceOf
  dsimp only
  cases haddress : move? address with
  | none =>
    refine iff_of_false nofun fun ⟨n, hn, _⟩ => ?_
    exact nomatch haddress.symm.trans (move?_eq_some_iff.mpr ⟨n, hn, rfl⟩)
  | some canonical =>
    obtain ⟨n, hn, rfl⟩ := move?_eq_some_iff.mp haddress
    cases functions.isEmpty with
    | true => exact iff_of_false nofun fun ⟨_, _, h, _⟩ => nomatch h
    | false =>
      constructor
      · intro h
        exact ⟨n, hn, rfl, (Except.ok.inj h).symm⟩
      · rintro ⟨k, hk, -, rfl⟩
        rw [hk.unique hn]
        rfl

theorem exists_sourceOf_aptos_iff :
    (∃ source, sourceOf chain chainId pageSize (.aptos address functions) = .ok source) ↔
      (∃ n, DenotesNumber address n) ∧ functions.isEmpty = false := by
  simp only [sourceOf_aptos_eq_ok_iff]
  constructor
  · rintro ⟨_, n, hn, hfunctions, -⟩
    exact ⟨⟨n, hn⟩, hfunctions⟩
  · rintro ⟨⟨n, hn⟩, hfunctions⟩
    exact ⟨_, n, hn, hfunctions, rfl⟩

end Config

namespace Aptos

/-- **Functions by number.** A text has a canonical form if and only if it is 1 to 64 hexadecimal
digits, with blanks around it and a leading `0x` or `0X` or without, and then it stands for one
number of 256 bits. Two canonical forms are equal if and only if the two texts stand for one number,
and the canonical form of a canonical form is itself. A module is accepted if its address stands for
a number and it has functions. Where it is accepted, a function is tracked as a method if and only
if it is cut at its first `::` into the number of the module and a key of its table, under which the
method stands. -/
theorem functions_matched_by_number :
    (∀ s, (∃ t, move? s = some t) ↔ ∃ mark ∈ Hex.marks, ∃ digits, (trim s).toList = mark ++ digits ∧
      1 ≤ digits.length ∧ digits.length ≤ 64 ∧ ∀ c ∈ digits, isDigit c = true) ∧
    (∀ s, (∃ t, move? s = some t) ↔ ∃! n, n < 2 ^ 256 ∧ DenotesNumber s n) ∧
    (∀ s s' t t', move? s = some t → move? s' = some t' →
      (t = t' ↔ ∃ n, n < 2 ^ 256 ∧ DenotesNumber s n ∧ DenotesNumber s' n)) ∧
    (∀ s t, move? s = some t → move? t = some t) ∧
    (∀ chain chainId pageSize address functions,
      (∃ source, Config.sourceOf chain chainId pageSize (.aptos address functions) = .ok source) ↔
        (∃ n, DenotesNumber address n) ∧ functions.isEmpty = false) ∧
    ∀ (e : Config.Entry) settings address functions, e.tracking = .aptos address functions →
      e.settings = .ok settings → ∃ s, settings.source = .aptos s ∧
        ∀ name method, s.tracked.method? name = some method ↔
          ∃ before after, IsFirstCut [':', ':'] name.toList before after ∧
            (∃ n, DenotesNumber address n ∧ DenotesNumber (String.ofList before) n) ∧
            functions.get? (String.ofList after) = some method := by
  refine ⟨fun s => exists_move?_iff.trans exists_denotesNumber_iff, fun s => ?_,
    fun s s' t t' => eq_iff_of_move?, fun s t => move?_of_move?,
    fun _ _ _ _ _ => Config.exists_sourceOf_aptos_iff,
    fun e settings address functions htracking h => ?_⟩
  · rw [exists_move?_iff]
    constructor
    · rintro ⟨n, hn⟩
      exact ⟨n, ⟨hn.lt, hn⟩, fun _ hm => hm.2.unique hn⟩
    · rintro ⟨n, ⟨-, hn⟩, -⟩
      exact ⟨n, hn⟩
  · obtain ⟨chainId, source, url, -, -, hsource, -, rfl⟩ := Config.Entry.settings_eq_ok_iff.mp h
    rw [htracking] at hsource
    obtain ⟨n, hn, -, rfl⟩ := Config.sourceOf_aptos_eq_ok_iff.mp hsource
    refine ⟨_, rfl, fun name method => ?_⟩
    rw [method?_canonicalNumber rfl]
    refine exists_congr fun before => exists_congr fun after => and_congr_right fun _ =>
      and_congr_left fun _ => ?_
    constructor
    · exact fun hbefore => ⟨n, hn, hbefore⟩
    · rintro ⟨k, hk, hbefore⟩
      rwa [hn.unique hk]

/-- The function that redeems a message. -/
def sampleFunctions : Table String :=
  ⟨[("complete_transfer::submit_vaa_and_register_entry", "submit_vaa_and_register_entry")]⟩

/-- An endpoint on the same machine. -/
def sampleUrl : Url :=
  ⟨"http", "", "", some (.ipv6 [0, 0, 0, 0, 0, 0, 0, 1]), none, "/", none, none⟩

/-- An entry whose module is at the address 5. -/
def sampleEntry : Config.Entry where
  chain := "aptos"
  chainId := some ⟨22⟩
  url := "http://[::1]"
  rateLimit := 0
  pageSize := 100
  waitSeconds := 5
  initialBlock := 0
  retry := none
  tracking := .aptos " 0X0005\n" sampleFunctions

/-- The settings of that entry. -/
def sampleSettings : Settings where
  chain := "aptos"
  chainId := ⟨22⟩
  rateLimit := 0
  pageSize := 100
  waitSeconds := 5
  initialBlock := 0
  retry := .standard
  source := .aptos ⟨⟨22⟩, sampleUrl, ⟨"0x5", sampleFunctions⟩⟩

theorem functions_matched_by_number_sampleEntry :
    sampleEntry.settings = .ok sampleSettings ∧ move? " 0X0005\n" = some "0x5" ∧
      move? "0x0000005" = some "0x5" ∧ move? "0x5" = some "0x5" ∧
      (∃ n, n < 2 ^ 256 ∧ DenotesNumber " 0X0005\n" n ∧ DenotesNumber "0x0000005" n) ∧
      ∃ s, sampleSettings.source = .aptos s ∧ s.tracked.method?
        "0x0000005::complete_transfer::submit_vaa_and_register_entry" =
          some "submit_vaa_and_register_entry" := by
  have hsource : Config.sourceOf "aptos" ⟨22⟩ 100 (.aptos " 0X0005\n" sampleFunctions) =
      .ok fun url => .aptos ⟨⟨22⟩, url, ⟨"0x5", sampleFunctions⟩⟩ := by
    have hnumber : DenotesNumber " 0X0005\n" 5 := denotesNumber_iff.mpr (by decide +kernel)
    have hcanonical : canonicalNumber 5 = "0x5" := by decide +kernel
    exact Config.sourceOf_aptos_eq_ok_iff.mpr ⟨5, hnumber, rfl, by rw [hcanonical]⟩
  have hurl : Config.urlOf "aptos" "http://[::1]" = .ok sampleUrl := by decide +kernel
  have hsettings : sampleEntry.settings = .ok sampleSettings :=
    Config.Entry.settings_eq_ok_iff.mpr ⟨_, _, _, rfl, by decide, hsource, hurl, rfl⟩
  have hmodule : move? " 0X0005\n" = some "0x5" := by decide +kernel
  have hnode : move? "0x0000005" = some "0x5" := by decide +kernel
  obtain ⟨-, -, hsame, hagain, -, hmatched⟩ := functions_matched_by_number
  obtain ⟨s, hs, hmethod⟩ := hmatched sampleEntry sampleSettings _ _ rfl hsettings
  have hnumber := (hsame _ _ _ _ hmodule hnode).mp rfl
  refine ⟨hsettings, hmodule, hnode, hagain _ _ hmodule, hnumber, s, hs, (hmethod _ _).mpr ?_⟩
  obtain ⟨n, -, hn, hn'⟩ := hnumber
  refine ⟨"0x0000005".toList, "complete_transfer::submit_vaa_and_register_entry".toList,
    cut?_eq_some_iff.mp (by decide +kernel), ⟨n, hn, ?_⟩, by decide +kernel⟩
  rwa [String.ofList_toList]

/-- An address goes as far as the first two colons. -/
example : Module.method? ⟨"0x5", ⟨[(":a", "one"), ("a::b", "two")]⟩⟩ "05:::a" = some "one" ∧
    Module.method? ⟨"0x5", ⟨[(":a", "one"), ("a::b", "two")]⟩⟩ "0X5::a::b" = some "two" := by
  decide +kernel

end Aptos

end RedemptionWatch
