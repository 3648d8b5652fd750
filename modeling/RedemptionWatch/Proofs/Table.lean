import Mathlib.Data.List.Nodup
import RedemptionWatch.Table

/-!
# Tables as functions of their keys

To insert a value changes what is looked up under its key and nothing else (`Table.get?_insert`).
In a table that comes about by insertions each key stands once (`Table.nodup_keys_insert`), and then
the entries are what is looked up (`Table.mem_entries_iff`).
-/

namespace RedemptionWatch.Table

variable {α : Type} {t : Table α} {key key' : String} {value : α}

/-- A key is in the table if its value can be looked up. -/
theorem get?_eq_none_iff : t.get? key = none ↔ key ∉ t.keys := by
  unfold get? keys
  rw [List.lookup_eq_none_iff]
  constructor
  · intro h hmem
    obtain ⟨e, he, rfl⟩ := List.mem_map.mp hmem
    exact absurd (h e he) (by simp)
  · intro h e he
    rw [bne_iff_ne]
    rintro rfl
    exact h (List.mem_map_of_mem he)

theorem any_key_iff : t.entries.any (·.1 = key) = true ↔ key ∈ t.keys := by
  simp only [List.any_eq_true, decide_eq_true_eq, keys, List.mem_map]

theorem lookup_cons_eq_ite (e : String × α) (entries : List (String × α)) (key : String) :
    (e :: entries).lookup key = if key = e.1 then some e.2 else entries.lookup key := by
  rw [List.lookup_cons]
  by_cases hkey : key = e.1
  · rw [if_pos hkey, beq_iff_eq.mpr hkey]
  · rw [if_neg hkey, beq_false_of_ne hkey]

theorem lookup_map_insert (entries : List (String × α)) (key key' : String) (value : α) :
    (entries.map fun e => if e.1 = key then (key, value) else e).lookup key' =
      if key' = key then (entries.lookup key').map fun _ => value else entries.lookup key' := by
  induction entries with
  | nil => simp
  | cons e entries ih =>
    rw [List.map_cons, lookup_cons_eq_ite, lookup_cons_eq_ite, ih]
    by_cases he : e.1 = key
    · by_cases hkey : key' = key <;> simp [he, hkey]
    · by_cases hkey : key' = key
      · simp [hkey, Ne.symm he, he]
      · simp [hkey, he]

/-- The value that is inserted stands under its key, and every other key has the value that it
had. -/
theorem get?_insert (t : Table α) (key key' : String) (value : α) :
    (t.insert key value).get? key' = if key' = key then some value else t.get? key' := by
  unfold insert
  split_ifs with hany hkey hkey
  · obtain ⟨old, hold⟩ : ∃ old, t.get? key = some old :=
      Option.ne_none_iff_exists'.mp fun h => get?_eq_none_iff.mp h (any_key_iff.mp hany)
    rw [get?, lookup_map_insert, if_pos hkey, hkey]
    exact congrArg (Option.map fun _ => value) hold
  · rw [get?, lookup_map_insert, if_neg hkey]
    rfl
  · have hnone : t.get? key = none := get?_eq_none_iff.mpr (mt any_key_iff.mpr hany)
    rw [get?, List.lookup_append, hkey, show t.entries.lookup key = none from hnone]
    simp
  · rw [get?, List.lookup_append, lookup_cons_eq_ite, if_neg hkey, List.lookup_nil, Option.or_none]
    rfl

/-- A new key stands after the others. -/
theorem keys_insert (t : Table α) (key : String) (value : α) :
    (t.insert key value).keys = if key ∈ t.keys then t.keys else t.keys ++ [key] := by
  unfold insert
  by_cases hkey : key ∈ t.keys
  · rw [if_pos (any_key_iff.mpr hkey), if_pos hkey, keys, List.map_map]
    refine List.map_congr_left fun e _ => ?_
    by_cases he : e.1 = key <;> simp [he]
  · rw [if_neg (mt any_key_iff.mp hkey), if_neg hkey, keys, List.map_append]
    rfl

theorem nodup_keys_insert (h : t.keys.Nodup) (key : String) (value : α) :
    (t.insert key value).keys.Nodup := by
  rw [keys_insert]
  split_ifs with hkey
  · exact h
  · exact List.Nodup.append h (List.nodup_singleton key) (List.disjoint_singleton.mpr hkey)

/-- Where each key stands once, the entries are what is looked up. -/
theorem mem_entries_iff (h : t.keys.Nodup) :
    (key, value) ∈ t.entries ↔ t.get? key = some value := by
  obtain ⟨entries⟩ := t
  unfold get?
  induction entries with
  | nil => simp
  | cons e entries ih =>
    obtain ⟨hnew, hrest⟩ := List.nodup_cons.mp h
    obtain ⟨k, v⟩ := e
    rw [List.mem_cons, ih hrest, lookup_cons_eq_ite]
    by_cases hkey : key = k
    · have hnone : entries.lookup key = none := get?_eq_none_iff (t := ⟨entries⟩).mpr (hkey ▸ hnew)
      subst hkey
      simp [hnone, eq_comm]
    · simp [hkey]

theorem isEmpty_iff : t.isEmpty = true ↔ ∀ key, t.get? key = none := by
  obtain ⟨entries⟩ := t
  cases entries with
  | nil => exact iff_of_true rfl fun _ => rfl
  | cons e entries =>
    refine iff_of_false nofun fun h => ?_
    have hkey := h e.1
    rw [get?_eq_none_iff] at hkey
    exact hkey (List.mem_cons_self ..)

end RedemptionWatch.Table
