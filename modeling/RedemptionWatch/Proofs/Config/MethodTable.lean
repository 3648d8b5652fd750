import Mathlib.Data.List.Perm.Basic
import RedemptionWatch.Config.Settings
import RedemptionWatch.Proofs.Table

/-!
# Tables of methods and the order of their entries

The table of a chain is made by going through the contracts as they were written and through the
selectors of each (`listed`). All spellings of an address are one contract, all spellings of a
selector are one selector, and the method that comes last stands (`method?_methodTable`).

What is written are maps, which have no order of their own. Contracts and selectors of the table do
not depend on the order in which one goes through them, but the methods do: where spellings of one
selector have different methods, each of these is the method of the table for some order
(`methodTable_reordered`). So the order does not matter exactly if nothing is written twice with
different methods (`Unambiguous`), which is not checked.
-/

namespace RedemptionWatch

/-- The method under a selector of a contract. -/
def Evm.MethodTable.method? (t : Evm.MethodTable) (account selector : String) : Option String :=
  (t.get? account).bind (·.get? selector)

namespace Config

open Address Evm.MethodTable

/-! ## What is written -/

/-- A method as it was written, with the selector and the address under which it stands. -/
structure Listed where
  address : String
  selector : String
  method : String
  deriving DecidableEq, Repr

/-- Its address and its selector have these canonical forms. -/
def Listed.Stands (e : Listed) (account selector : String) : Prop :=
  account? e.address = some account ∧ selector? e.selector = some selector

instance (e : Listed) (account selector : String) : Decidable (e.Stands account selector) :=
  inferInstanceAs (Decidable (_ ∧ _))

/-- The methods under an address. -/
def listedUnder (address : String) (selectors : List (String × String)) : List Listed :=
  selectors.map fun e => ⟨address, e.1, e.2⟩

/-- The methods of contracts. -/
def listed (contracts : List (String × Table String)) : List Listed :=
  contracts.flatMap fun e => listedUnder e.1 e.2.entries

theorem listed_cons (entry : String × Table String) (contracts : List (String × Table String)) :
    listed (entry :: contracts) = listedUnder entry.1 entry.2.entries ++ listed contracts :=
  rfl

/-- The last method that stands under a selector of a contract. -/
def lastMethod? (account selector : String) (l : List Listed) : Option String :=
  (l.filter fun e => e.Stands account selector).getLast?.map (·.method)

variable {account account' selector address : String} {e : Listed} {l l' : List Listed}

theorem lastMethod?_append : lastMethod? account selector (l ++ l') =
    (lastMethod? account selector l').or (lastMethod? account selector l) := by
  unfold lastMethod?
  rw [List.filter_append, List.getLast?_append, Option.map_or]

theorem lastMethod?_snoc (h : e.Stands account selector) :
    lastMethod? account selector (l ++ [e]) = some e.method := by
  rw [lastMethod?_append, lastMethod?, List.filter_cons_of_pos (by simpa using h)]
  rfl

theorem lastMethod?_eq_none_iff :
    lastMethod? account selector l = none ↔ ∀ e ∈ l, ¬e.Stands account selector := by
  unfold lastMethod?
  rw [Option.map_eq_none_iff, List.getLast?_eq_none_iff, List.filter_eq_nil_iff]
  simp only [decide_eq_true_eq]

theorem exists_of_lastMethod? {method : String} (h : lastMethod? account selector l = some method) :
    ∃ e ∈ l, e.Stands account selector ∧ e.method = method := by
  obtain ⟨e, he, hmethod⟩ := Option.map_eq_some_iff.mp h
  obtain ⟨hmem, hstands⟩ := List.mem_filter.mp (List.mem_of_getLast? he)
  exact ⟨e, hmem, of_decide_eq_true hstands, hmethod⟩

theorem isSome_lastMethod?_iff :
    (lastMethod? account selector l).isSome = true ↔ ∃ e ∈ l, e.Stands account selector := by
  rw [Option.isSome_iff_ne_none, Ne, lastMethod?_eq_none_iff]
  simp only [not_forall, not_not, exists_prop]

/-- Methods that stand under one selector of one contract are the same. -/
def Unambiguous (l : List Listed) : Prop :=
  ∀ e ∈ l, ∀ e' ∈ l, ∀ account selector, e.Stands account selector → e'.Stands account selector →
    e.method = e'.method

/-- Where there is one method in a place, it is the last one. -/
theorem Unambiguous.lastMethod?_eq_some_iff (h : Unambiguous l) {method : String} :
    lastMethod? account selector l = some method ↔
      ∃ e ∈ l, e.Stands account selector ∧ e.method = method := by
  constructor
  · exact exists_of_lastMethod?
  · rintro ⟨e, he, hstands, rfl⟩
    obtain ⟨method, hlast⟩ :=
      Option.isSome_iff_exists.mp (isSome_lastMethod?_iff.mpr ⟨e, he, hstands⟩)
    obtain ⟨e', he', hstands', rfl⟩ := exists_of_lastMethod? hlast
    rw [hlast, h e he e' he' account selector hstands hstands']

theorem Unambiguous.perm (h : Unambiguous l) (hperm : l.Perm l') : Unambiguous l' :=
  fun e he e' he' => h e (hperm.mem_iff.mpr he) e' (hperm.mem_iff.mpr he')

/-! ## Going through selectors -/

section Selectors

variable {chain method : String} {selectors : List (String × String)} {table table' : Table String}

theorem addSelectors_cons_eq_ok :
    addSelectors chain ((selector, method) :: selectors) table = .ok table' ↔
      ∃ s, selector? selector = some s ∧
        addSelectors chain selectors (table.insert s method) = .ok table' := by
  rw [addSelectors]
  cases selector? selector with
  | none => exact iff_of_false nofun fun ⟨_, h, _⟩ => nomatch h
  | some s => simp

theorem exists_addSelectors_iff : (∃ table', addSelectors chain selectors table = .ok table') ↔
    ∀ e ∈ selectors, (selector? e.1).isSome = true := by
  induction selectors generalizing table with
  | nil => exact iff_of_true ⟨table, rfl⟩ fun _ h => absurd h List.not_mem_nil
  | cons e selectors ih =>
    rw [List.forall_mem_cons, Option.isSome_iff_exists]
    constructor
    · rintro ⟨table', h⟩
      obtain ⟨s, hs, hrest⟩ := addSelectors_cons_eq_ok.mp h
      exact ⟨⟨s, hs⟩, ih.mp ⟨table', hrest⟩⟩
    · rintro ⟨⟨s, hs⟩, hrest⟩
      obtain ⟨table', h⟩ := ih.mpr hrest
      exact ⟨table', addSelectors_cons_eq_ok.mpr ⟨s, hs, h⟩⟩

/-- The last of the methods that were added stands, else what stood before. -/
theorem get?_addSelectors (haddress : account? address = some account)
    (h : addSelectors chain selectors table = .ok table') (s : String) :
    table'.get? s =
      (lastMethod? account s (listedUnder address selectors)).or (table.get? s) := by
  induction selectors generalizing table with
  | nil =>
    cases h
    rfl
  | cons e selectors ih =>
    obtain ⟨s', hs', hrest⟩ := addSelectors_cons_eq_ok.mp h
    have hfirst : lastMethod? account s [⟨address, e.1, e.2⟩] =
        if s = s' then some e.2 else none := by
      split_ifs with heq
      · exact lastMethod?_snoc (l := []) ⟨haddress, hs'.trans (congrArg some heq.symm)⟩
      · refine lastMethod?_eq_none_iff.mpr fun e' he' hstands => heq ?_
        rw [List.mem_singleton.mp he'] at hstands
        exact Option.some.inj (hstands.2.symm.trans hs')
    have hsplit : listedUnder address (e :: selectors) =
        [⟨address, e.1, e.2⟩] ++ listedUnder address selectors := rfl
    rw [ih hrest, Table.get?_insert, hsplit, lastMethod?_append, hfirst, Option.or_assoc]
    split_ifs <;> rfl

/-- Under another address nothing is added. -/
theorem lastMethod?_listedUnder_of_ne (haddress : account? address = some account')
    (hne : account ≠ account') :
    lastMethod? account selector (listedUnder address selectors) = none := by
  refine lastMethod?_eq_none_iff.mpr fun e he hstands => hne ?_
  obtain ⟨_, -, rfl⟩ := List.mem_map.mp he
  exact Option.some.inj (hstands.1.symm.trans haddress)

end Selectors

/-! ## Going through contracts -/

section Tables

variable {chain : String} {contracts : List (String × Table String)}
  {methods methods' : Evm.MethodTable}

theorem addContracts_cons_eq_ok {entry : String × Table String} :
    addContracts chain (entry :: contracts) methods = .ok methods' ↔
      ∃ a table, account? entry.1 = some a ∧
        addSelectors chain entry.2.entries ((methods.get? a).getD .empty) = .ok table ∧
        addContracts chain contracts (methods.insert a table) = .ok methods' := by
  rw [addContracts]
  cases account? entry.1 with
  | none => exact iff_of_false nofun fun ⟨_, _, h, _⟩ => nomatch h
  | some a =>
    cases htable : addSelectors chain entry.2.entries ((methods.get? a).getD .empty) with
    | error reason =>
      refine iff_of_false (fun h => ?_) fun ⟨_, _, ha, h, _⟩ => ?_
      · simp only [htable] at h
        exact nomatch h
      · cases ha
        exact nomatch htable.symm.trans h
    | ok table =>
      constructor
      · intro h
        simp only [htable] at h
        exact ⟨a, table, rfl, htable, h⟩
      · rintro ⟨_, _, ⟨⟩, h, hrest⟩
        cases htable.symm.trans h
        simp only [htable]
        exact hrest

/-- Every address and every selector has a canonical form. -/
def WellSpelled (contracts : List (String × Table String)) : Prop :=
  (∀ address ∈ contracts.map (·.1), (account? address).isSome = true) ∧
    ∀ e ∈ listed contracts, (selector? e.selector).isSome = true

theorem wellSpelled_cons {entry : String × Table String} : WellSpelled (entry :: contracts) ↔
    (account? entry.1).isSome = true ∧ (∀ e ∈ entry.2.entries, (selector? e.1).isSome = true) ∧
      WellSpelled contracts := by
  have hunder : (∀ e ∈ listedUnder entry.1 entry.2.entries, (selector? e.selector).isSome = true) ↔
      ∀ e ∈ entry.2.entries, (selector? e.1).isSome = true := List.forall_mem_map
  unfold WellSpelled
  rw [List.map_cons, List.forall_mem_cons, listed_cons, List.forall_mem_append, hunder]
  tauto

theorem exists_addContracts_iff :
    (∃ methods', addContracts chain contracts methods = .ok methods') ↔ WellSpelled contracts := by
  induction contracts generalizing methods with
  | nil =>
    exact iff_of_true ⟨methods, rfl⟩
      ⟨fun _ h => absurd h List.not_mem_nil, fun _ h => absurd h List.not_mem_nil⟩
  | cons entry contracts ih =>
    rw [wellSpelled_cons, Option.isSome_iff_exists]
    constructor
    · rintro ⟨methods', h⟩
      obtain ⟨a, table, ha, htable, hrest⟩ := addContracts_cons_eq_ok.mp h
      exact ⟨⟨a, ha⟩, exists_addSelectors_iff.mp ⟨table, htable⟩, ih.mp ⟨methods', hrest⟩⟩
    · rintro ⟨⟨a, ha⟩, hselectors, hrest⟩
      obtain ⟨table, htable⟩ := exists_addSelectors_iff.mpr hselectors
      obtain ⟨methods', h⟩ := ih.mpr hrest
      exact ⟨methods', addContracts_cons_eq_ok.mpr ⟨a, table, ha, htable, h⟩⟩

/-- The last of the methods that were added stands, else what stood before. -/
theorem method?_addContracts (h : addContracts chain contracts methods = .ok methods')
    (account selector : String) : method? methods' account selector =
      (lastMethod? account selector (listed contracts)).or (method? methods account selector) := by
  induction contracts generalizing methods with
  | nil =>
    cases h
    rfl
  | cons entry contracts ih =>
    obtain ⟨a, table, ha, htable, hrest⟩ := addContracts_cons_eq_ok.mp h
    have hfirst : method? (methods.insert a table) account selector =
        (lastMethod? account selector (listedUnder entry.1 entry.2.entries)).or
          (method? methods account selector) := by
      rw [method?, Table.get?_insert]
      split_ifs with haccount
      · rw [Option.bind_some, get?_addSelectors (haccount ▸ ha) htable, haccount, method?]
        cases methods.get? a <;> rfl
      · rw [lastMethod?_listedUnder_of_ne ha haccount]
        rfl
    rw [ih hrest, hfirst, listed_cons, lastMethod?_append, Option.or_assoc]

/-- The contracts are the ones that were there and those that were added. -/
theorem isSome_get?_addContracts (h : addContracts chain contracts methods = .ok methods')
    (account : String) : (methods'.get? account).isSome = true ↔
      (∃ address ∈ contracts.map (·.1), account? address = some account) ∨
        (methods.get? account).isSome = true := by
  induction contracts generalizing methods with
  | nil =>
    cases h
    simp
  | cons entry contracts ih =>
    obtain ⟨a, table, ha, -, hrest⟩ := addContracts_cons_eq_ok.mp h
    rw [ih hrest, Table.get?_insert, List.map_cons, List.exists_mem_cons_iff, ha, Option.some_inj]
    by_cases haccount : account = a
    · simp [haccount]
    · simp [haccount, Ne.symm haccount]

theorem nodup_keys_addContracts (h : addContracts chain contracts methods = .ok methods')
    (hnodup : methods.keys.Nodup) : methods'.keys.Nodup := by
  induction contracts generalizing methods with
  | nil =>
    cases h
    exact hnodup
  | cons entry contracts ih =>
    obtain ⟨a, table, -, -, hrest⟩ := addContracts_cons_eq_ok.mp h
    exact ih hrest (Table.nodup_keys_insert hnodup a table)

/-- All tables are empty if there is no method. -/
theorem all_isEmpty_iff (hnodup : methods.keys.Nodup) :
    (methods.entries.all fun e => e.2.isEmpty) = true ↔
      ∀ account selector, method? methods account selector = none := by
  rw [List.all_eq_true]
  constructor
  · intro h account selector
    cases htable : methods.get? account with
    | none => rw [method?, htable, Option.bind_none]
    | some table =>
      have hempty := h (account, table) ((Table.mem_entries_iff hnodup).mpr htable)
      rw [method?, htable, Option.bind_some]
      exact Table.isEmpty_iff.mp hempty selector
  · rintro h ⟨account, table⟩ hmem
    refine Table.isEmpty_iff.mpr fun selector => ?_
    have hnone := h account selector
    rwa [method?, (Table.mem_entries_iff hnodup).mp hmem, Option.bind_some] at hnone

theorem WellSpelled.exists_stands (h : WellSpelled contracts) (he : e ∈ listed contracts) :
    ∃ account selector, e.Stands account selector := by
  obtain ⟨selector, hselector⟩ := Option.isSome_iff_exists.mp (h.2 e he)
  obtain ⟨entry, hentry, hunder⟩ := List.mem_flatMap.mp he
  obtain ⟨account, haccount⟩ := Option.isSome_iff_exists.mp (h.1 _ (List.mem_map_of_mem hentry))
  obtain ⟨_, -, rfl⟩ := List.mem_map.mp hunder
  exact ⟨account, selector, haccount, hselector⟩

end Tables

/-! ## The table of a chain -/

section MethodTable

variable {chain : String} {c d : Contracts} {methods : Evm.MethodTable}

theorem methodTable_eq (h : addContracts chain c.entries .empty = .ok methods) :
    methodTable chain c =
      if listed c.entries = [] then .error (.nothingTracked chain) else .ok methods := by
  have hmethod (account selector : String) : method? methods account selector =
      lastMethod? account selector (listed c.entries) :=
    (method?_addContracts h account selector).trans (Option.or_none)
  have hempty : (methods.entries.all fun e => e.2.isEmpty) = true ↔ listed c.entries = [] := by
    rw [all_isEmpty_iff (nodup_keys_addContracts h List.nodup_nil)]
    simp only [hmethod, lastMethod?_eq_none_iff]
    constructor
    · refine fun hnone => List.eq_nil_iff_forall_not_mem.mpr fun e he => ?_
      obtain ⟨account, selector, hstands⟩ :=
        (exists_addContracts_iff.mp ⟨methods, h⟩).exists_stands he
      exact hnone account selector e he hstands
    · intro hnil account selector e he
      rw [hnil] at he
      exact absurd he List.not_mem_nil
  unfold methodTable
  rw [h]
  by_cases hlisted : listed c.entries = []
  · rw [if_pos hlisted]
    exact if_pos (hempty.mpr hlisted)
  · rw [if_neg hlisted]
    exact if_neg (mt hempty.mp hlisted)

theorem methodTable_eq_ok_iff : methodTable chain c = .ok methods ↔
    addContracts chain c.entries .empty = .ok methods ∧ listed c.entries ≠ [] := by
  constructor
  · intro h
    cases hadd : addContracts chain c.entries .empty with
    | error reason =>
      rw [methodTable, hadd] at h
      exact nomatch h
    | ok methods' =>
      rw [methodTable_eq hadd] at h
      split_ifs at h with hlisted
      cases h
      exact ⟨rfl, hlisted⟩
  · rintro ⟨hadd, hlisted⟩
    rw [methodTable_eq hadd, if_neg hlisted]

/-- Contracts are refused if something is spelled wrong, or if no method is listed. -/
theorem exists_methodTable_iff : (∃ methods, methodTable chain c = .ok methods) ↔
    WellSpelled c.entries ∧ listed c.entries ≠ [] := by
  simp only [methodTable_eq_ok_iff, exists_and_right, exists_addContracts_iff]

/-- The last of the methods that stand under a selector of a contract is the method of the
table. -/
theorem method?_methodTable (h : methodTable chain c = .ok methods) (account selector : String) :
    method? methods account selector = lastMethod? account selector (listed c.entries) :=
  (method?_addContracts (methodTable_eq_ok_iff.mp h).1 account selector).trans Option.or_none

theorem isSome_get?_methodTable (h : methodTable chain c = .ok methods) (account : String) :
    (methods.get? account).isSome = true ↔ ∃ address ∈ c.keys, account? address = some account :=
  (isSome_get?_addContracts (methodTable_eq_ok_iff.mp h).1 account).trans
    (or_iff_left Bool.false_ne_true)

end MethodTable

/-! ## Other orders -/

section Order

variable {c d : Contracts}

/-- The same contracts with the same selectors and methods, one goes through both in another
order. -/
def Reordered (c d : Contracts) : Prop :=
  ∃ middle, c.entries.Perm middle ∧
    List.Forall₂ (fun x y => x.1 = y.1 ∧ x.2.entries.Perm y.2.entries) middle d.entries

theorem Reordered.keys_perm (h : Reordered c d) : c.keys.Perm d.keys := by
  obtain ⟨middle, hperm, hinner⟩ := h
  have hkeys : middle.map (·.1) = d.entries.map (·.1) := by
    clear hperm
    generalize d.entries = entries at hinner ⊢
    induction hinner with
    | nil => rfl
    | cons hxy _ ih => rw [List.map_cons, List.map_cons, hxy.1, ih]
  exact (hperm.map _).trans (.of_eq hkeys)

theorem Reordered.listed_perm (h : Reordered c d) :
    (listed c.entries).Perm (listed d.entries) := by
  obtain ⟨middle, hperm, hinner⟩ := h
  have hlisted : (listed middle).Perm (listed d.entries) := by
    clear hperm
    generalize d.entries = entries at hinner ⊢
    induction hinner with
    | nil => exact .refl _
    | cons hxy _ ih =>
      rw [listed_cons, listed_cons, hxy.1]
      exact (hxy.2.map _).append ih
  exact (hperm.flatMap_right _).trans hlisted

theorem Reordered.wellSpelled (h : Reordered c d) (hspelled : WellSpelled c.entries) :
    WellSpelled d.entries :=
  ⟨fun address haddress => hspelled.1 address (h.keys_perm.mem_iff.mpr haddress),
    fun e he => hspelled.2 e (h.listed_perm.mem_iff.mpr he)⟩

/-- Every method comes last in some order. -/
theorem exists_reordered_last {e : Listed} (he : e ∈ listed c.entries) :
    ∃ d before, Reordered c d ∧ listed d.entries = before ++ [e] := by
  obtain ⟨⟨address, selectors⟩, hentry, hunder⟩ := List.mem_flatMap.mp he
  obtain ⟨m, hm, rfl⟩ := List.mem_map.mp hunder
  obtain ⟨older, newer, hcontracts⟩ := List.append_of_mem hentry
  obtain ⟨before, after, hselectors⟩ := List.append_of_mem hm
  have hlast {α : Type} (l l' : List α) (x : α) : (l ++ x :: l').Perm ((l ++ l') ++ [x]) :=
    List.perm_middle.trans (List.perm_append_singleton x (l ++ l')).symm
  refine ⟨⟨(older ++ newer) ++ [(address, ⟨(before ++ after) ++ [m]⟩)]⟩,
    listed (older ++ newer) ++ listedUnder address (before ++ after),
    ⟨(older ++ newer) ++ [(address, selectors)], hcontracts ▸ hlast older newer _, ?_⟩, ?_⟩
  · refine List.rel_append (List.forall₂_same.mpr fun _ _ => ⟨rfl, .refl _⟩) ?_
    exact .cons ⟨rfl, hselectors ▸ hlast before after m⟩ .nil
  · simp [listed, listedUnder]

/-- The same contracts and selectors. -/
def SameSelectors (t u : Evm.MethodTable) : Prop :=
  ∀ account, (t.get? account).isSome = (u.get? account).isSome ∧
    ∀ selector, (method? t account selector).isSome = (method? u account selector).isSome

/-- The same contracts, selectors and methods. -/
def SameMethods (t u : Evm.MethodTable) : Prop :=
  ∀ account, (t.get? account).isSome = (u.get? account).isSome ∧
    ∀ selector, method? t account selector = method? u account selector

/-- Both are tables, as `same` says, or both are the same error. -/
def Alike (same : Evm.MethodTable → Evm.MethodTable → Prop)
    (x y : Except ConfigError Evm.MethodTable) : Prop :=
  (∃ t u, x = .ok t ∧ y = .ok u ∧ same t u) ∨ ∃ reason, x = .error reason ∧ y = .error reason

theorem Alike.exists_of_ok {same : Evm.MethodTable → Evm.MethodTable → Prop}
    {x y : Except ConfigError Evm.MethodTable} {u : Evm.MethodTable} (h : Alike same x y)
    (hy : y = .ok u) : ∃ t, x = .ok t ∧ same t u := by
  obtain ⟨t, u', hx, hy', hsame⟩ | ⟨reason, -, hy'⟩ := h
  · cases hy'.symm.trans hy
    exact ⟨t, hx, hsame⟩
  · exact nomatch hy'.symm.trans hy

theorem Reordered.alike (h : Reordered c d) (hspelled : WellSpelled c.entries) (chain : String) :
    Alike SameSelectors (methodTable chain c) (methodTable chain d) := by
  obtain ⟨t, ht⟩ := exists_addContracts_iff.mpr hspelled
  obtain ⟨u, hu⟩ := exists_addContracts_iff.mpr (h.wellSpelled hspelled)
  by_cases hlisted : listed c.entries = []
  · have hlisted' : listed d.entries = [] := (hlisted ▸ h.listed_perm).nil_eq.symm
    exact .inr ⟨.nothingTracked chain, (methodTable_eq ht).trans (if_pos hlisted),
      (methodTable_eq hu).trans (if_pos hlisted')⟩
  · have hlisted' : listed d.entries ≠ [] := fun hnil =>
      hlisted (hnil ▸ h.listed_perm).eq_nil
    have hc := methodTable_eq_ok_iff.mpr ⟨ht, hlisted⟩
    have hd := methodTable_eq_ok_iff.mpr ⟨hu, hlisted'⟩
    refine .inl ⟨t, u, hc, hd, fun account => ⟨?_, fun selector => ?_⟩⟩
    · rw [Bool.eq_iff_iff, isSome_get?_methodTable hc, isSome_get?_methodTable hd]
      simp only [h.keys_perm.mem_iff]
    · rw [Bool.eq_iff_iff, method?_methodTable hc, method?_methodTable hd, isSome_lastMethod?_iff,
        isSome_lastMethod?_iff]
      simp only [h.listed_perm.mem_iff]

/-- Contracts are accepted in every order or in none. -/
theorem Reordered.exists_methodTable {chain : String} {t : Evm.MethodTable} (h : Reordered c d)
    (hc : methodTable chain c = .ok t) : ∃ u, methodTable chain d = .ok u := by
  obtain ⟨_, u, -, hu, -⟩ | ⟨reason, herror, -⟩ :=
    h.alike (exists_methodTable_iff.mp ⟨t, hc⟩).1 chain
  · exact ⟨u, hu⟩
  · exact nomatch hc.symm.trans herror

/-- The methods for which there is an order are those that stand there. -/
theorem exists_reordered_method?_iff (hspelled : WellSpelled c.entries)
    (chain account selector method : String) :
    (∃ d t, Reordered c d ∧ methodTable chain d = .ok t ∧
        method? t account selector = some method) ↔
      ∃ e ∈ listed c.entries, e.Stands account selector ∧ e.method = method := by
  constructor
  · rintro ⟨d, t, h, ht, hmethod⟩
    rw [method?_methodTable ht] at hmethod
    obtain ⟨e, he, hstands⟩ := exists_of_lastMethod? hmethod
    exact ⟨e, h.listed_perm.mem_iff.mpr he, hstands⟩
  · rintro ⟨e, he, hstands, rfl⟩
    obtain ⟨d, before, h, hlast⟩ := exists_reordered_last he
    obtain ⟨t, ht⟩ : ∃ t, methodTable chain d = .ok t :=
      exists_methodTable_iff.mpr ⟨h.wellSpelled hspelled, by simp [hlast]⟩
    refine ⟨d, t, h, ht, ?_⟩
    rw [method?_methodTable ht, hlast, lastMethod?_snoc hstands]

/-- **Order of the entries.** Where every address and every selector has a canonical form, in
whatever order one goes through them, either there is no method to track, or the contracts and
selectors of the table are the same. The method under a selector is one of those that stand there,
and each of them is the one for some order. So for all orders the table is the same if and only if
the methods that stand in one place are the same. -/
theorem methodTable_reordered (chain : String) (c : Contracts) (hspelled : WellSpelled c.entries) :
    (∀ d, Reordered c d → Alike SameSelectors (methodTable chain c) (methodTable chain d)) ∧
      (∀ account selector method,
        (∃ d t, Reordered c d ∧ methodTable chain d = .ok t ∧
            method? t account selector = some method) ↔
          ∃ e ∈ listed c.entries, e.Stands account selector ∧ e.method = method) ∧
      ((∀ d, Reordered c d → Alike SameMethods (methodTable chain c) (methodTable chain d)) ↔
        Unambiguous (listed c.entries)) := by
  have hmethods := exists_reordered_method?_iff hspelled chain
  refine ⟨fun d h => h.alike hspelled chain, hmethods, fun hsame => ?_, fun hone => ?_⟩
  · intro e he e' he' account selector hstands hstands'
    obtain ⟨d, t, h, ht, hmethod⟩ := (hmethods _ _ _).mpr ⟨e, he, hstands, rfl⟩
    obtain ⟨d', t', h', ht', hmethod'⟩ := (hmethods _ _ _).mpr ⟨e', he', hstands', rfl⟩
    obtain ⟨u, hu, hd⟩ := (hsame d h).exists_of_ok ht
    obtain ⟨u', hu', hd'⟩ := (hsame d' h').exists_of_ok ht'
    cases hu.symm.trans hu'
    rw [← (hd account).2 selector] at hmethod
    rw [← (hd' account).2 selector, hmethod] at hmethod'
    exact Option.some.inj hmethod'
  · intro d h
    obtain ⟨t, u, ht, hu, hkeys⟩ | herror := h.alike hspelled chain
    · refine .inl ⟨t, u, ht, hu, fun account => ⟨(hkeys account).1, fun selector => ?_⟩⟩
      refine Option.ext fun method => ?_
      rw [method?_methodTable ht, method?_methodTable hu, hone.lastMethod?_eq_some_iff,
        (hone.perm h.listed_perm).lastMethod?_eq_some_iff]
      simp only [h.listed_perm.mem_iff]
    · exact .inr herror

/-- A contract with these methods. -/
def tokenBridgeWith (selectors : List (String × String)) : Contracts :=
  ⟨[("0x3ee18b2214aff97000d974cf647e7c347e8fa585", ⟨selectors⟩)]⟩

/-- One selector in two spellings, with different methods. -/
def twoSpellings : Contracts :=
  tokenBridgeWith
    [("0xc6878519", "completeTransfer"), ("0xC6878519", "completeTransferAndUnwrapETH")]

/-- The same in the other order. -/
def twoSpellingsSwapped : Contracts :=
  tokenBridgeWith
    [("0xC6878519", "completeTransferAndUnwrapETH"), ("0xc6878519", "completeTransfer")]

theorem wellSpelled_twoSpellings : WellSpelled twoSpellings.entries := by
  have hadd : ∃ methods, addContracts "ethereum" twoSpellings.entries .empty = .ok methods :=
    ⟨_, rfl⟩
  exact exists_addContracts_iff.mp hadd

theorem methodTable_reordered_twoSpellings : WellSpelled twoSpellings.entries ∧
    ¬∀ d, Reordered twoSpellings d → Alike SameMethods (methodTable "ethereum" twoSpellings)
      (methodTable "ethereum" d) := by
  refine ⟨wellSpelled_twoSpellings, fun hsame => ?_⟩
  have hone := (methodTable_reordered "ethereum" twoSpellings wellSpelled_twoSpellings).2.2.mp hsame
  have hmethods : "completeTransfer" = "completeTransferAndUnwrapETH" :=
    hone _ (.head _) _ (.tail _ (.head _)) "0x3ee18b2214aff97000d974cf647e7c347e8fa585"
      "0xc6878519" (by decide +kernel) (by decide +kernel)
  exact absurd hmethods (by decide)

/-- The last spelling names the method. -/
theorem order_decides_method : WellSpelled twoSpellings.entries ∧
    Reordered twoSpellings twoSpellingsSwapped ∧
    methodTable "ethereum" twoSpellings = .ok
      (tokenBridgeWith [("0xc6878519", "completeTransferAndUnwrapETH")]) ∧
    methodTable "ethereum" twoSpellingsSwapped = .ok
      (tokenBridgeWith [("0xc6878519", "completeTransfer")]) ∧
    ¬Alike SameMethods (methodTable "ethereum" twoSpellings)
      (methodTable "ethereum" twoSpellingsSwapped) := by
  have hfirst : methodTable "ethereum" twoSpellings = .ok
      (tokenBridgeWith [("0xc6878519", "completeTransferAndUnwrapETH")]) := rfl
  have hsecond : methodTable "ethereum" twoSpellingsSwapped = .ok
      (tokenBridgeWith [("0xc6878519", "completeTransfer")]) := rfl
  refine ⟨wellSpelled_twoSpellings, ⟨twoSpellings.entries, .refl _, ?_⟩, hfirst, hsecond, ?_⟩
  · exact .cons ⟨rfl, .swap _ _ _⟩ .nil
  · intro h
    obtain ⟨t, ht, hsame⟩ := h.exists_of_ok hsecond
    cases hfirst.symm.trans ht
    exact absurd ((hsame "0x3ee18b2214aff97000d974cf647e7c347e8fa585").2 "0xc6878519") (by decide)

end Order

end Config

end RedemptionWatch
