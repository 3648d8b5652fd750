import Mathlib.Algebra.Group.Nat.Defs
import RedemptionWatch.Proofs.Json.Records
import RedemptionWatch.Solana.Source

/-!
# What the answers of an endpoint say

`Transaction.WrittenAs` says which transaction an answer holds, and `HistoryEntry.WrittenAs` which
entry of a history. The keys of a transaction are those of its message, then the loaded keys that
may be written, then those that are only read (`LoadedKeys`); the instructions that its instructions
made are those of all groups, one group after the other (`InnerInstructions`). Where the execution,
the loaded keys or the groups are left out or `null` (`Json.Nullable`), there are none.

An answer is read as the transaction that it holds, and as none if it holds none
(`Transaction.ofJson?_eq_some_iff`).
-/

namespace RedemptionWatch.Solana

open Json

/-! ## What is written -/

/-- A value is an error unless it is left out or `null`. -/
def IsError (value : Option Json) : Prop :=
  ∃ j, value = some j ∧ j ≠ .null

/-- The entry of a history that a value writes. -/
inductive HistoryEntry.WrittenAs (e : HistoryEntry) (j : Json) : Prop where
  | intro {err : Option Json}
      (hrecord : IsRecord [.required "signature", .defaulted "err"] j
        [some (.string e.signature), err])
      (hfailed : e.failed = true ↔ IsError err)

/-- A list of texts. -/
def Texts : List String → Json → Prop :=
  ListOf fun s j => j = .string s

/-- The instruction that a value writes. -/
inductive Instruction.WrittenAs (i : Instruction) (j : Json) : Prop where
  | intro {program : Json} {accounts : Option Json}
      (hrecord : IsRecord [.required "programIdIndex", .defaulted "accounts", .required "data"] j
        [some program, accounts, some (.string i.data)])
      (hprogram : IsNatBelow (2 ^ 64) i.program program)
      (haccounts : Defaulted [] (ListOf (IsNatBelow (2 ^ 64))) i.accounts accounts)

/-- Instructions that may be left out. -/
def Instructions : List Instruction → Option Json → Prop :=
  Defaulted [] (ListOf Instruction.WrittenAs)

/-- The keys that a value loads: those that may be written, and those that are only read. -/
inductive LoadedKeys (keys : List String × List String) (j : Json) : Prop where
  | intro {writable readonly : Option Json}
      (hrecord : IsRecord [.defaulted "writable", .defaulted "readonly"] j [writable, readonly])
      (hwritable : Defaulted [] Texts keys.1 writable)
      (hreadonly : Defaulted [] Texts keys.2 readonly)

/-- The instructions that one instruction made. -/
inductive InnerInstructions (group : List Instruction) (j : Json) : Prop where
  | intro {instructions : Option Json}
      (hrecord : IsRecord [.defaulted "instructions"] j [instructions])
      (hinstructions : Instructions group instructions)

/-- The execution that a value writes. -/
inductive Meta.WrittenAs (m : Meta) (j : Json) : Prop where
  | intro {err loaded inner : Option Json} {groups : List (List Instruction)}
      (hrecord : IsRecord [.defaulted "err", .defaulted "loadedAddresses",
        .defaulted "innerInstructions"] j [err, loaded, inner])
      (hfailed : m.failed = true ↔ IsError err)
      (hloaded : Nullable ([], []) LoadedKeys (m.writable, m.readonly) loaded)
      (hgroups : Nullable [] (ListOf InnerInstructions) groups inner)
      (hinner : m.inner = groups.flatten)

/-- The transaction that a value writes. -/
inductive Transaction.WrittenAs (tx : Transaction) (j : Json) : Prop where
  | intro {body signatures message keys : Json} {instructions execution : Option Json}
      (hrecord : IsRecord [.required "transaction", .defaulted "meta"] j [some body, execution])
      (hbody : IsRecord [.required "signatures", .required "message"] body
        [some signatures, some message])
      (hmessage : IsRecord [.required "accountKeys", .defaulted "instructions"] message
        [some keys, instructions])
      (hsignatures : Texts tx.signatures signatures)
      (hkeys : Texts tx.keys keys)
      (hinstructions : Instructions tx.instructions instructions)
      (hexecution : Nullable ⟨false, [], [], []⟩ Meta.WrittenAs tx.execution execution)

/-! ## What is read -/

theorem string?_eq_some_iff (j : Json) (s : String) : string? j = some s ↔ j = .string s := by
  cases j with
  | string text => simp [string?]
  | _ => exact iff_of_false nofun nofun

theorem texts?_eq_some_iff {value : Option Json} {l : List String} :
    texts? value = some l ↔ Defaulted [] Texts l value :=
  defaulted_eq_some_iff fun _ _ => list?_eq_some_iff string?_eq_some_iff

/-- Any value but `null` can be the one of an error. -/
theorem optional_any?_iff {value : Option Json} {failed : Bool} :
    (∃ err, optional any? value = some err ∧ err.isSome = failed) ↔
      (failed = true ↔ IsError value) := by
  have hvalue : ∃ err, optional any? value = some err ∧ (err.isSome = true ↔ IsError value) := by
    cases value with
    | none => exact ⟨none, rfl, iff_of_false nofun nofun⟩
    | some j =>
      cases j with
      | null =>
        exact ⟨none, rfl, iff_of_false nofun fun ⟨_, hj, hne⟩ => hne (Option.some.inj hj).symm⟩
      | _ => exact ⟨some _, rfl, iff_of_true rfl ⟨_, rfl, nofun⟩⟩
  obtain ⟨err, herr, hfailed⟩ := hvalue
  constructor
  · rintro ⟨err', herr', rfl⟩
    obtain rfl := Option.some.inj (herr.symm.trans herr')
    exact hfailed
  · intro h
    exact ⟨err, herr, Bool.eq_iff_iff.mpr (hfailed.trans h.symm)⟩

theorem HistoryEntry.ofJson?_eq_some_iff (j : Json) (e : HistoryEntry) :
    ofJson? j = some e ↔ e.WrittenAs j := by
  refine bind_fields?_two.trans ?_
  simp only [Option.bind_eq_bind, Option.bind_eq_some_iff, Option.pure_def, Option.some_inj,
    required_eq_some_iff string?_eq_some_iff]
  constructor
  · rintro ⟨_, _, hrecord, _, ⟨_, rfl, rfl⟩, err, herr, rfl⟩
    exact ⟨hrecord, optional_any?_iff.mp ⟨err, herr, rfl⟩⟩
  · rintro ⟨hrecord, hfailed⟩
    obtain ⟨err, herr, hsome⟩ := optional_any?_iff.mpr hfailed
    exact ⟨_, _, hrecord, _, ⟨_, rfl, rfl⟩, err, herr, by rw [hsome]⟩

theorem Instruction.ofJson?_eq_some_iff (j : Json) (i : Instruction) :
    ofJson? j = some i ↔ i.WrittenAs j := by
  have hplace : ∀ j n, place? j = some n ↔ IsNatBelow (2 ^ 64) n j :=
    fun j n => natBelow?_eq_some_iff
  have hplaces : ∀ j l, list? place? j = some l ↔ ListOf (IsNatBelow (2 ^ 64)) l j :=
    fun j l => list?_eq_some_iff hplace
  refine bind_fields?_three.trans ?_
  simp only [Option.bind_eq_bind, Option.bind_eq_some_iff, Option.pure_def, Option.some_inj,
    required_eq_some_iff hplace, defaulted_eq_some_iff hplaces,
    required_eq_some_iff string?_eq_some_iff]
  constructor
  · rintro ⟨_, _, _, hrecord, _, ⟨_, rfl, hprogram⟩, _, haccounts, _, ⟨_, rfl, rfl⟩, rfl⟩
    exact ⟨hrecord, hprogram, haccounts⟩
  · rintro ⟨hrecord, hprogram, haccounts⟩
    exact ⟨_, _, _, hrecord, _, ⟨_, rfl, hprogram⟩, _, haccounts, _, ⟨_, rfl, rfl⟩, rfl⟩

theorem instructions?_eq_some_iff {value : Option Json} {l : List Instruction} :
    instructions? value = some l ↔ Instructions l value :=
  defaulted_eq_some_iff fun _ _ => list?_eq_some_iff Instruction.ofJson?_eq_some_iff

theorem innerGroup?_eq_some_iff (j : Json) (group : List Instruction) :
    innerGroup? j = some group ↔ InnerInstructions group j := by
  refine bind_fields?_one.trans ?_
  simp only [instructions?_eq_some_iff]
  exact ⟨fun ⟨_, hrecord, h⟩ => ⟨hrecord, h⟩, fun ⟨hrecord, h⟩ => ⟨_, hrecord, h⟩⟩

/-- The groups of instructions that instructions made. -/
theorem optional_innerGroups_iff {value : Option Json} {groups : List (List Instruction)} :
    (∃ inner, optional (list? innerGroup?) value = some inner ∧ inner.getD [] = groups) ↔
      Nullable [] (ListOf InnerInstructions) groups value :=
  optional_getD_iff (fun _ _ => list?_eq_some_iff innerGroup?_eq_some_iff)
    fun _ ⟨_, h, _⟩ => nomatch h

theorem loaded?_eq_some_iff (j : Json) (keys : List String × List String) :
    loaded? j = some keys ↔ LoadedKeys keys j := by
  refine bind_fields?_two.trans ?_
  simp only [Option.bind_eq_bind, Option.bind_eq_some_iff, Option.pure_def, Option.some_inj,
    texts?_eq_some_iff]
  constructor
  · rintro ⟨_, _, hrecord, _, hwritable, _, hreadonly, rfl⟩
    exact ⟨hrecord, hwritable, hreadonly⟩
  · rintro ⟨hrecord, hwritable, hreadonly⟩
    exact ⟨_, _, hrecord, _, hwritable, _, hreadonly, rfl⟩

theorem LoadedKeys.ne_null {keys : List String × List String} {j : Json} (h : LoadedKeys keys j) :
    j ≠ .null := by
  obtain ⟨hrecord⟩ := h
  exact hrecord.ne_null

/-- The keys that an execution loaded. -/
theorem optional_loaded_iff {value : Option Json} {writable readonly : List String} :
    (∃ loaded, optional loaded? value = some loaded ∧
      (loaded.map (·.1)).getD [] = writable ∧ (loaded.map (·.2)).getD [] = readonly) ↔
      Nullable ([], []) LoadedKeys (writable, readonly) value := by
  have hkeys (loaded : Option (List String × List String)) :
      ((loaded.map (·.1)).getD [] = writable ∧ (loaded.map (·.2)).getD [] = readonly) ↔
        loaded.getD ([], []) = (writable, readonly) := by
    rw [Prod.ext_iff]
    cases loaded <;> rfl
  simp only [hkeys]
  exact optional_getD_iff loaded?_eq_some_iff fun _ h => h.ne_null rfl

theorem Meta.ofJson?_eq_some_iff (j : Json) (m : Meta) : ofJson? j = some m ↔ m.WrittenAs j := by
  refine bind_fields?_three.trans ?_
  simp only [Option.bind_eq_bind, Option.bind_eq_some_iff, Option.pure_def, Option.some_inj]
  constructor
  · rintro ⟨_, _, _, hrecord, loaded, hloaded, inner, hinner, err, herr, rfl⟩
    exact ⟨hrecord, optional_any?_iff.mp ⟨err, herr, rfl⟩,
      optional_loaded_iff.mp ⟨loaded, hloaded, rfl, rfl⟩,
      optional_innerGroups_iff.mp ⟨inner, hinner, rfl⟩, rfl⟩
  · rintro ⟨hrecord, hfailed, hkeys, hgroups, hmade⟩
    obtain ⟨err, herr, hsome⟩ := optional_any?_iff.mpr hfailed
    obtain ⟨loaded, hloaded, hwritable, hreadonly⟩ := optional_loaded_iff.mpr hkeys
    obtain ⟨inner, hinner, rfl⟩ := optional_innerGroups_iff.mpr hgroups
    refine ⟨_, _, _, hrecord, loaded, hloaded, inner, hinner, err, herr, ?_⟩
    rw [hsome, hwritable, hreadonly, ← hmade]

theorem Meta.WrittenAs.ne_null {m : Meta} {j : Json} (h : m.WrittenAs j) : j ≠ .null := by
  obtain ⟨hrecord⟩ := h
  exact hrecord.ne_null

theorem message?_eq_some_iff (j : Json) (message : List String × List Instruction) :
    message? j = some message ↔ ∃ keys instructions,
      IsRecord [.required "accountKeys", .defaulted "instructions"] j [some keys, instructions] ∧
        Texts message.1 keys ∧ Instructions message.2 instructions := by
  refine bind_fields?_two.trans ?_
  simp only [Option.bind_eq_bind, Option.bind_eq_some_iff, Option.pure_def, Option.some_inj,
    required_eq_some_iff fun _ _ => list?_eq_some_iff string?_eq_some_iff,
    instructions?_eq_some_iff]
  constructor
  · rintro ⟨_, _, hrecord, _, ⟨_, rfl, hkeys⟩, _, hinstructions, rfl⟩
    exact ⟨_, _, hrecord, hkeys, hinstructions⟩
  · rintro ⟨_, _, hrecord, hkeys, hinstructions⟩
    exact ⟨_, _, hrecord, _, ⟨_, rfl, hkeys⟩, _, hinstructions, rfl⟩

theorem body?_eq_some_iff (j : Json) (body : List String × List String × List Instruction) :
    body? j = some body ↔ ∃ signatures message keys instructions,
      IsRecord [.required "signatures", .required "message"] j [some signatures, some message] ∧
        IsRecord [.required "accountKeys", .defaulted "instructions"] message
          [some keys, instructions] ∧
        Texts body.1 signatures ∧ Texts body.2.1 keys ∧ Instructions body.2.2 instructions := by
  refine bind_fields?_two.trans ?_
  simp only [Option.bind_eq_bind, Option.bind_eq_some_iff, Option.pure_def, Option.some_inj,
    required_eq_some_iff fun _ _ => list?_eq_some_iff string?_eq_some_iff,
    required_eq_some_iff message?_eq_some_iff]
  constructor
  · rintro ⟨_, _, hrecord, _, ⟨_, rfl, hsignatures⟩, message, ⟨_, rfl, keys, instructions, hmessage,
      hkeys, hinstructions⟩, rfl⟩
    exact ⟨_, _, keys, instructions, hrecord, hmessage, hsignatures, hkeys, hinstructions⟩
  · rintro ⟨_, _, keys, instructions, hrecord, hmessage, hsignatures, hkeys, hinstructions⟩
    exact ⟨_, _, hrecord, _, ⟨_, rfl, hsignatures⟩, body.2,
      ⟨_, rfl, keys, instructions, hmessage, hkeys, hinstructions⟩, rfl⟩

/-- The execution of a transaction. -/
theorem optional_execution_iff {value : Option Json} {m : Meta} :
    (∃ execution, optional Meta.ofJson? value = some execution ∧ execution.getD Meta.none = m) ↔
      Nullable ⟨false, [], [], []⟩ Meta.WrittenAs m value :=
  optional_getD_iff Meta.ofJson?_eq_some_iff fun _ h => h.ne_null rfl

theorem Transaction.ofJson?_eq_some_iff (j : Json) (tx : Transaction) :
    ofJson? j = some tx ↔ tx.WrittenAs j := by
  refine bind_fields?_two.trans ?_
  simp only [Option.bind_eq_bind, Option.bind_eq_some_iff, Option.pure_def, Option.some_inj,
    required_eq_some_iff body?_eq_some_iff]
  constructor
  · rintro ⟨_, _, hrecord, body, ⟨_, rfl, signatures, message, keys, instructions, hbody, hmessage,
      hsignatures, hkeys, hinstructions⟩, execution, hexecution, rfl⟩
    exact ⟨hrecord, hbody, hmessage, hsignatures, hkeys, hinstructions,
      optional_execution_iff.mp ⟨execution, hexecution, rfl⟩⟩
  · rintro ⟨hrecord, hbody, hmessage, hsignatures, hkeys, hinstructions, hexecution⟩
    obtain ⟨execution, hvalue, hstated⟩ := optional_execution_iff.mpr hexecution
    refine ⟨_, _, hrecord, (tx.signatures, tx.keys, tx.instructions), ⟨_, rfl, _, _, _, _, hbody,
      hmessage, hsignatures, hkeys, hinstructions⟩, execution, hvalue, ?_⟩
    rw [hstated]

theorem Transaction.ofJson?_eq_none_iff {j : Json} :
    ofJson? j = none ↔ ∀ tx : Transaction, ¬tx.WrittenAs j := by
  rw [Option.eq_none_iff_forall_ne_some]
  exact forall_congr' fun tx => not_congr (ofJson?_eq_some_iff j tx)

end RedemptionWatch.Solana
