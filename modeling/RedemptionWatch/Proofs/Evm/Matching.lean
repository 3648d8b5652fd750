import RedemptionWatch.Proofs.Address
import RedemptionWatch.Proofs.Config.MethodTable

/-!
# Calls are matched by bytes

A configuration spells addresses and selectors in one way, an endpoint spells the target and the
input of a call in another, and the two go through different code: blanks are taken off an address,
not off an input, and the front of an input need not be hexadecimal at all. What counts are the
bytes (`Listed.Meets`): a call is matched if and only if a listed method stands under the same 20
bytes as its target and the same 4 bytes as the front of its input (`matchCall?_exact`). No spelling
of either makes a difference.
-/

namespace RedemptionWatch

open Address Text.Hex

/-! ## The front of an input -/

namespace Evm

variable {input : String} {bs : List UInt8} {cs taken rest : List Char} {size : ℕ}

/-- The input begins with the bytes in hexadecimal, in digits of either case, with or without a
leading `0x` or `0X`. -/
def Begins (input : String) (bs : List UInt8) : Prop :=
  ∃ mark ∈ marks, ∃ digits rest, AreDigitsOf digits bs ∧ input.toList = mark ++ (digits ++ rest)

/-- What is taken is the front of the text. -/
theorem exists_append_of_firstBytes? (h : firstBytes? size cs = some taken) :
    ∃ rest, cs = taken ++ rest := by
  induction cs generalizing size taken with
  | nil =>
    cases size with
    | zero => exact ⟨[], by cases h; rfl⟩
    | succ size => exact nomatch h
  | cons c cs ih =>
    cases size with
    | zero => exact ⟨c :: cs, by cases h; rfl⟩
    | succ size =>
      rw [firstBytes?] at h
      split_ifs at h
      obtain ⟨front, hfront, rfl⟩ := Option.map_eq_some_iff.mp h
      obtain ⟨rest, rfl⟩ := ih hfront
      exact ⟨rest, rfl⟩

/-- Characters of one byte each are taken whole. -/
theorem firstBytes?_append (h : ∀ c ∈ cs, c.utf8Size = 1) (rest : List Char) :
    firstBytes? cs.length (cs ++ rest) = some cs := by
  induction cs with
  | nil => cases rest <;> rfl
  | cons c cs ih =>
    obtain ⟨hc, hcs⟩ := List.forall_mem_cons.mp h
    rw [List.length_cons, List.cons_append, firstBytes?, hc, if_pos (Nat.le_add_left 1 _),
      Nat.add_sub_cancel, ih hcs]
    rfl

/-- The selector of an input is in canonical form if it begins with bytes, whatever their
spelling. -/
theorem selectorOf?_eq_some_iff (h : bs.length = 4) :
    selectorOf? input = some (canonical bs) ↔ Begins input bs := by
  unfold selectorOf?
  constructor
  · intro hselector
    obtain ⟨taken, htaken, hmarked⟩ := Option.map_eq_some_iff.mp hselector
    obtain ⟨mark, hmark, hinput⟩ := exists_mark input.toList
    obtain ⟨rest, hrest⟩ := exists_append_of_firstBytes? htaken
    exact ⟨mark, hmark, taken, rest, marked_eq_canonical_iff.mp hmarked, hrest ▸ hinput⟩
  · rintro ⟨mark, hmark, digits, rest, hdigits, hinput⟩
    have hlength : digits.length = 8 := by rw [hdigits.length_eq, h]
    have hunmarked : withoutMarkChars (digits ++ rest) = digits ++ rest := by
      obtain ⟨b, bs, rfl⟩ := List.exists_cons_of_length_eq_add_one h
      exact withoutMarkChars_digits_append hdigits rest
    rw [hinput, withoutMarkChars_mark_append hmark hunmarked, ← hlength,
      firstBytes?_append fun c => hdigits.utf8Size_eq]
    exact congrArg some (marked_eq_canonical_iff.mpr hdigits)

end Evm

/-! ## What is matched -/

namespace Config

/-- The target of the call and the address of the method are the same 20 bytes, the front of the
input and the selector of the method are the same 4 bytes. -/
def Listed.Meets (e : Listed) (target input : String) : Prop :=
  ∃ account selector, account.length = 20 ∧ selector.length = 4 ∧ Denotes e.address account ∧
    Denotes e.selector selector ∧ Denotes target account ∧ Evm.Begins input selector

theorem Listed.stands_canonical_iff {e : Listed} {account selector : List UInt8}
    (haccount : account.length = 20) (hselector : selector.length = 4) :
    e.Stands (canonical account) (canonical selector) ↔
      Denotes e.address account ∧ Denotes e.selector selector := by
  unfold Listed.Stands
  rw [account?_eq_some_iff, selector?_eq_some_iff]
  constructor
  · rintro ⟨⟨bs, -, haddress, hbs⟩, ⟨bs', -, hselector, hbs'⟩⟩
    rw [canonical_injective hbs, canonical_injective hbs']
    exact ⟨haddress, hselector⟩
  · rintro ⟨haddress, hselector'⟩
    exact ⟨⟨account, haccount, haddress, rfl⟩, ⟨selector, hselector, hselector', rfl⟩⟩

end Config

namespace Evm

open Config MethodTable

variable {chain target input : String} {c : Contracts} {methods : MethodTable} {call : MatchedCall}

theorem matchCall?_eq_some_iff : matchCall? methods (some target) input = some call ↔
    ∃ selector, account? target = some call.contract ∧ selectorOf? input = some selector ∧
      method? methods call.contract selector = some call.method := by
  obtain ⟨method, contract⟩ := call
  unfold matchCall? method?
  constructor
  · intro h
    obtain ⟨_, ⟨⟩, h⟩ := Option.bind_eq_some_iff.mp h
    obtain ⟨account, haccount, h⟩ := Option.bind_eq_some_iff.mp h
    obtain ⟨selectors, hselectors, h⟩ := Option.bind_eq_some_iff.mp h
    obtain ⟨selector, hselector, h⟩ := Option.bind_eq_some_iff.mp h
    obtain ⟨_, hmethod, ⟨⟩⟩ := Option.bind_eq_some_iff.mp h
    exact ⟨selector, haccount, hselector,
      Option.bind_eq_some_iff.mpr ⟨selectors, hselectors, hmethod⟩⟩
  · rintro ⟨selector, haccount, hselector, hmethod⟩
    obtain ⟨selectors, hselectors, hmethod⟩ := Option.bind_eq_some_iff.mp hmethod
    simp [haccount, hselector, hselectors, hmethod]

/-- A call is matched in the place of the bytes that its target and its input are. -/
theorem matchCall?_methodTable (h : methodTable chain c = .ok methods) :
    matchCall? methods (some target) input = some call ↔
      ∃ account selector, account.length = 20 ∧ selector.length = 4 ∧ Denotes target account ∧
        Begins input selector ∧ call.contract = canonical account ∧
        lastMethod? (canonical account) (canonical selector) (listed c.entries) =
          some call.method := by
  rw [matchCall?_eq_some_iff]
  constructor
  · rintro ⟨spelled, haccount, hfront, hmethod⟩
    rw [method?_methodTable h] at hmethod
    -- the table has selectors in canonical form only, so the front of the input is bytes
    obtain ⟨e, -, ⟨-, hstands⟩, -⟩ := exists_of_lastMethod? hmethod
    obtain ⟨selector, hselector, -, rfl⟩ := selector?_eq_some_iff.mp hstands
    obtain ⟨account, hlength, htarget, hcontract⟩ := account?_eq_some_iff.mp haccount
    rw [hcontract] at hmethod
    exact ⟨account, selector, hlength, hselector, htarget,
      (selectorOf?_eq_some_iff hselector).mp hfront, hcontract, hmethod⟩
  · rintro ⟨account, selector, hlength, hselector, htarget, hfront, hcontract, hmethod⟩
    refine ⟨canonical selector, account?_eq_some_iff.mpr ⟨account, hlength, htarget, hcontract⟩,
      (selectorOf?_eq_some_iff hselector).mpr hfront, ?_⟩
    rw [hcontract, method?_methodTable h, hmethod]

/-- The method of a matched call is one of those that meet it. -/
theorem exists_meets_of_matchCall? (h : methodTable chain c = .ok methods)
    (hcall : matchCall? methods (some target) input = some call) :
    ∃ e ∈ listed c.entries, e.Meets target input ∧ e.method = call.method := by
  obtain ⟨account, selector, hlength, hselector, htarget, hfront, -, hmethod⟩ :=
    (matchCall?_methodTable h).mp hcall
  obtain ⟨e, he, hstands, hmethod⟩ := exists_of_lastMethod? hmethod
  obtain ⟨haddress, hspelled⟩ := (Listed.stands_canonical_iff hlength hselector).mp hstands
  exact ⟨e, he, ⟨account, selector, hlength, hselector, haddress, hspelled, htarget, hfront⟩,
    hmethod⟩

/-- A call is matched if a listed method meets it. -/
theorem isSome_matchCall?_iff (h : methodTable chain c = .ok methods) :
    (matchCall? methods (some target) input).isSome = true ↔
      ∃ e ∈ listed c.entries, e.Meets target input := by
  rw [Option.isSome_iff_exists]
  constructor
  · rintro ⟨call, hcall⟩
    obtain ⟨e, he, hmeets, -⟩ := exists_meets_of_matchCall? h hcall
    exact ⟨e, he, hmeets⟩
  · rintro ⟨e, he, account, selector, hlength, hselector, haddress, hspelled, htarget, hfront⟩
    have hstands := (Listed.stands_canonical_iff hlength hselector).mpr ⟨haddress, hspelled⟩
    obtain ⟨method, hmethod⟩ :=
      Option.isSome_iff_exists.mp (isSome_lastMethod?_iff.mpr ⟨e, he, hstands⟩)
    exact ⟨⟨method, canonical account⟩, (matchCall?_methodTable h).mpr
      ⟨account, selector, hlength, hselector, htarget, hfront, rfl, hmethod⟩⟩

/-- The contract of a matched call is its target. -/
theorem map_contract_matchCall?_eq_some_iff (h : methodTable chain c = .ok methods)
    {contract : String} :
    (matchCall? methods (some target) input).map (·.contract) = some contract ↔
      account? target = some contract ∧ ∃ e ∈ listed c.entries, e.Meets target input := by
  rw [← isSome_matchCall?_iff h, Option.map_eq_some_iff, Option.isSome_iff_exists]
  constructor
  · rintro ⟨call, hcall, rfl⟩
    obtain ⟨-, haccount, -⟩ := matchCall?_eq_some_iff.mp hcall
    exact ⟨haccount, call, hcall⟩
  · rintro ⟨haccount, call, hcall⟩
    obtain ⟨-, haccount', -⟩ := matchCall?_eq_some_iff.mp hcall
    exact ⟨call, hcall, Option.some.inj (haccount'.symm.trans haccount)⟩

end Evm

/-! ## Other spellings -/

namespace Config

variable {chain : String} {c d : Contracts}

/-- Two texts stand for the same bytes, if they stand for bytes. -/
def SameBytes (s t : String) : Prop :=
  ∀ bs, Denotes s bs ↔ Denotes t bs

theorem SameBytes.account? {s t : String} (h : SameBytes s t) : account? s = account? t :=
  Option.ext fun _ => by simp only [account?_eq_some_iff, h _]

theorem SameBytes.selector? {s t : String} (h : SameBytes s t) : selector? s = selector? t :=
  Option.ext fun _ => by simp only [selector?_eq_some_iff, h _]

/-- The same methods under other spellings of the same selectors. -/
def RespelledUnder : List (String × String) → List (String × String) → Prop :=
  List.Forall₂ fun x y => SameBytes x.1 y.1 ∧ x.2 = y.2

/-- The same methods under other spellings of the same selectors and addresses. -/
def Respelled (c d : Contracts) : Prop :=
  List.Forall₂ (fun x y => SameBytes x.1 y.1 ∧ RespelledUnder x.2.entries y.2.entries)
    c.entries d.entries

theorem addSelectors_respelled {selectors selectors' : List (String × String)}
    {table table' : Table String} (h : RespelledUnder selectors selectors')
    (hadd : addSelectors chain selectors table = .ok table') :
    addSelectors chain selectors' table = .ok table' := by
  induction h generalizing table with
  | nil => exact hadd
  | cons hxy _ ih =>
    obtain ⟨s, hs, hrest⟩ := addSelectors_cons_eq_ok.mp hadd
    rw [hxy.2] at hrest
    exact addSelectors_cons_eq_ok.mpr ⟨s, hxy.1.selector?.symm.trans hs, ih hrest⟩

theorem addContracts_respelled {methods methods' : Evm.MethodTable} (h : Respelled c d)
    (hadd : addContracts chain c.entries methods = .ok methods') :
    addContracts chain d.entries methods = .ok methods' := by
  unfold Respelled at h
  generalize c.entries = contracts, d.entries = contracts' at h hadd ⊢
  induction h generalizing methods with
  | nil => exact hadd
  | cons hxy _ ih =>
    obtain ⟨a, table, ha, htable, hrest⟩ := addContracts_cons_eq_ok.mp hadd
    exact addContracts_cons_eq_ok.mpr ⟨a, table, hxy.1.account?.symm.trans ha,
      addSelectors_respelled hxy.2 htable, ih hrest⟩

/-- The spelling of a configuration that is accepted does not show in its table. -/
theorem methodTable_respelled {methods : Evm.MethodTable} (h : Respelled c d)
    (hc : methodTable chain c = .ok methods) : methodTable chain d = .ok methods := by
  have hadd := (methodTable_eq_ok_iff.mp hc).1
  unfold methodTable at hc ⊢
  rw [hadd] at hc
  rw [addContracts_respelled h hadd, hc]

end Config

namespace Evm

open Config

variable {chain : String} {c d : Contracts} {methods methods' : MethodTable}

/-- Targets that are the same bytes and inputs that begin with the same bytes are matched alike. -/
theorem matchCall?_congr {target target' input input' : String}
    (h : methodTable chain c = .ok methods) (htarget : SameBytes target target')
    (hinput : ∀ bs : List UInt8, bs.length = 4 → (Begins input bs ↔ Begins input' bs)) :
    matchCall? methods (some target) input = matchCall? methods (some target') input' := by
  refine Option.ext fun call => ?_
  rw [matchCall?_methodTable h, matchCall?_methodTable h]
  refine exists_congr fun account => exists_congr fun selector => and_congr_right fun _ =>
    and_congr_right fun hselector => ?_
  rw [htarget, hinput selector hselector]

/-- In another order the contract of a call is the same. -/
theorem map_contract_matchCall?_reordered (h : Reordered c d)
    (hc : methodTable chain c = .ok methods) (hd : methodTable chain d = .ok methods')
    (target? : Option String) (input : String) :
    (matchCall? methods' target? input).map (·.contract) =
      (matchCall? methods target? input).map (·.contract) := by
  cases target? with
  | none => rfl
  | some target =>
    refine Option.ext fun contract => ?_
    rw [map_contract_matchCall?_eq_some_iff hd, map_contract_matchCall?_eq_some_iff hc]
    simp only [h.listed_perm.mem_iff]

/-- In another order the method is the same too, where there is one in a place. -/
theorem matchCall?_reordered (h : Reordered c d) (hc : methodTable chain c = .ok methods)
    (hd : methodTable chain d = .ok methods') (hone : Unambiguous (listed c.entries))
    (target? : Option String) (input : String) :
    matchCall? methods' target? input = matchCall? methods target? input := by
  cases target? with
  | none => rfl
  | some target =>
    refine Option.ext fun call => ?_
    rw [matchCall?_methodTable hd, matchCall?_methodTable hc]
    simp only [(hone.perm h.listed_perm).lastMethod?_eq_some_iff, hone.lastMethod?_eq_some_iff,
      h.listed_perm.mem_iff]

/-- There is a call for every method that is listed. -/
theorem exists_meets {e : Listed} (h : methodTable chain c = .ok methods)
    (he : e ∈ listed c.entries) : ∃ target input, e.Meets target input := by
  have hspelled : WellSpelled c.entries := (exists_methodTable_iff.mp ⟨methods, h⟩).1
  obtain ⟨_, _, haddress, hselector⟩ := hspelled.exists_stands he
  obtain ⟨account, haccount, haddress, -⟩ := account?_eq_some_iff.mp haddress
  obtain ⟨selector, hlength, hselector, -⟩ := selector?_eq_some_iff.mp hselector
  have hbegins : Begins (Text.Hex.encode selector) selector :=
    ⟨[], .head _, encodeChars selector, [], areDigitsOf_encodeChars selector, by
      rw [Text.Hex.encode, String.toList_ofList, List.append_nil, List.nil_append]⟩
  exact ⟨e.address, Text.Hex.encode selector, account, selector, haccount, hlength, haddress,
    hselector, haddress, hbegins⟩

/-- **Exact matching.** Where contracts are accepted, a call is matched if and only if a listed
method stands under the same 20 bytes as the target and the same 4 bytes as the front of the input.
What is matched is such a method, and the target in canonical form. There is a call for every method
that is listed. Targets and inputs that are the same bytes are matched alike. The same contracts in
other spellings have the same table, and in another order as well they match the same calls to the
same contracts, with the same methods where there is one in a place. -/
theorem matchCall?_exact (h : methodTable chain c = .ok methods) :
    (∀ target? input, (matchCall? methods target? input).isSome = true ↔
      ∃ target, target? = some target ∧ ∃ e ∈ listed c.entries, e.Meets target input) ∧
    (∀ target? input call, matchCall? methods target? input = some call →
      ∃ target, target? = some target ∧
        (∃ e ∈ listed c.entries, e.Meets target input ∧ e.method = call.method) ∧
        ∃ account, account.length = 20 ∧ Denotes target account ∧
          call.contract = canonical account) ∧
    (∀ e ∈ listed c.entries, ∃ target input, e.Meets target input) ∧
    (∀ target target' input input', SameBytes target target' →
      (∀ selector, selector.length = 4 → (Begins input selector ↔ Begins input' selector)) →
        matchCall? methods (some target) input = matchCall? methods (some target') input') ∧
    ∀ middle d, Reordered c middle → Respelled middle d → ∃ methods',
      methodTable chain middle = .ok methods' ∧ methodTable chain d = .ok methods' ∧
        (∀ target? input, (matchCall? methods' target? input).map (·.contract) =
          (matchCall? methods target? input).map (·.contract)) ∧
        (Unambiguous (listed c.entries) → ∀ target? input,
          matchCall? methods' target? input = matchCall? methods target? input) := by
  refine ⟨fun target? input => ?_, fun target? input call hcall => ?_,
    fun e he => exists_meets h he,
    fun _ _ _ _ htarget hinput => matchCall?_congr h htarget hinput,
    fun middle d horder hspell => ?_⟩
  · cases target? with
    | none => exact iff_of_false nofun fun ⟨_, htarget, _⟩ => nomatch htarget
    | some target =>
      rw [isSome_matchCall?_iff h]
      constructor
      · exact fun hmeets => ⟨target, rfl, hmeets⟩
      · rintro ⟨_, ⟨⟩, hmeets⟩
        exact hmeets
  · cases target? with
    | none => exact nomatch hcall
    | some target =>
      obtain ⟨account, _, hlength, _, htarget, _, hcontract, _⟩ :=
        (matchCall?_methodTable h).mp hcall
      exact ⟨target, rfl, exists_meets_of_matchCall? h hcall, account, hlength, htarget, hcontract⟩
  · obtain ⟨methods', hmiddle⟩ := horder.exists_methodTable h
    exact ⟨methods', hmiddle, methodTable_respelled hspell hmiddle,
      map_contract_matchCall?_reordered horder h hmiddle, matchCall?_reordered horder h hmiddle⟩

theorem matchCall?_exact_twoSpellings :
    methodTable "ethereum" twoSpellings =
        .ok (tokenBridgeWith [("0xc6878519", "completeTransferAndUnwrapETH")]) ∧
      ∀ e ∈ listed twoSpellings.entries, ∃ target input, e.Meets target input ∧
        (matchCall? (tokenBridgeWith [("0xc6878519", "completeTransferAndUnwrapETH")])
          (some target) input).isSome = true := by
  have hok : methodTable "ethereum" twoSpellings =
      .ok (tokenBridgeWith [("0xc6878519", "completeTransferAndUnwrapETH")]) := rfl
  obtain ⟨hmatched, -, hmeets, -⟩ := matchCall?_exact hok
  refine ⟨hok, fun e he => ?_⟩
  obtain ⟨target, input, h⟩ := hmeets e he
  exact ⟨target, input, h, (hmatched (some target) input).mpr ⟨target, rfl, e, he, h⟩⟩

/-- Blanks around a target and the letter case of both do not count. -/
example : matchCall? (tokenBridgeWith [("0xc6878519", "completeTransfer")])
    (some " 0X3EE18B2214AFF97000D974CF647E7C347E8FA585") "C6878519deadbeef" =
      some ⟨"completeTransfer", "0x3ee18b2214aff97000d974cf647e7c347e8fa585"⟩ := by
  decide +kernel

end Evm

end RedemptionWatch
