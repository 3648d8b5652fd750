import Mathlib.Data.List.Forall2
import RedemptionWatch.Json.Record

/-!
# What a record says

A value that is read as a record gives a value, or none, to each of its fields. `IsRecord` says
which these are for the two forms that a record has, without a reader; `Defaulted`, `Nullable` and
`ListOf` say the same of the values of fields. The readers find what the relations say, and nothing
else (`fields?_eq_some_iff` and so on).
-/

namespace RedemptionWatch.Json

/-! ## Records -/

/-- The value of a field among the members of an object. Its name stands there once, or not at all.
-/
def IsMember (members : List (String × Json)) (name : String) (value : Option Json) : Prop :=
  members.filter (·.1 = name) = value.toList.map (name, ·)

/-- The values of the fields of a record, in order. An object has them by name. An array has them by
place; it may end early if the fields that are left have a default. -/
inductive IsRecord (fields : List Field) : Json → List (Option Json) → Prop where
  | object {members : List (String × Json)} {values : List (Option Json)}
      (hmembers : List.Forall₂ (IsMember members ·.name ·) fields values) :
      IsRecord fields (.object members) values
  | array {items : List Json} {written left : List Field} (hfields : fields = written ++ left)
      (hitems : written.length = items.length) (hleft : ∀ f ∈ left, f.hasDefault = true) :
      IsRecord fields (.array items) (items.map some ++ left.map fun _ => none)

theorem IsRecord.ne_null {fields : List Field} {j : Json} {values : List (Option Json)}
    (h : IsRecord fields j values) : j ≠ .null := by
  rintro rfl
  exact nomatch h

theorem isMember_iff {members : List (String × Json)} {name : String} {value : Option Json} :
    IsMember members name value ↔
      repeats members name = false ∧ (members.find? (·.1 = name)).map (·.2) = value := by
  have hname : ∀ m ∈ members.filter (·.1 = name), m.1 = name := fun m hm => by
    simpa using List.of_mem_filter hm
  unfold IsMember repeats
  rw [← List.head?_filter]
  generalize members.filter (·.1 = name) = found at hname
  match found with
  | [] => cases value <;> simp
  | [(key, j)] =>
    obtain rfl : key = name := hname _ (List.mem_singleton_self _)
    cases value <;> simp
  | first :: second :: rest => cases value <;> simp

theorem isRecord_object_iff {fields : List Field} {members : List (String × Json)}
    {values : List (Option Json)} :
    IsRecord fields (.object members) values ↔
      List.Forall₂ (IsMember members ·.name ·) fields values :=
  ⟨fun h => by cases h; assumption, .object⟩

theorem isRecord_array_iff {fields : List Field} {items : List Json}
    {values : List (Option Json)} :
    IsRecord fields (.array items) values ↔ items.length ≤ fields.length ∧
      (∀ f ∈ fields.drop items.length, f.hasDefault = true) ∧
        values = items.map some ++ List.replicate (fields.length - items.length) none := by
  constructor
  · rintro (_ | ⟨rfl, hitems, hleft⟩)
    rename_i written left
    rw [List.drop_left' hitems, List.length_append, ← hitems, Nat.add_sub_cancel_left,
      List.map_const']
    exact ⟨Nat.le_add_right .., hleft, rfl⟩
  · rintro ⟨hlength, hleft, rfl⟩
    rw [← List.length_drop, ← List.map_const']
    exact .array (List.take_append_drop ..).symm (List.length_take_of_le hlength) hleft

theorem fields?_eq_some_iff {fields : List Field} {j : Json} {values : List (Option Json)} :
    fields? fields j = some values ↔ IsRecord fields j values := by
  cases j with
  | object members =>
    have hvalues (value? : Field → Option Json) :
        List.Forall₂ (fun f value => value? f = value) fields values ↔
          fields.map value? = values := by
      rw [← List.forall₂_eq_eq_eq, List.forall₂_map_left_iff]
    rw [isRecord_object_iff, fields?]
    simp only [isMember_iff, List.forall₂_and_left, hvalues]
    split_ifs with hrepeats
    · obtain ⟨f, hf, hrepeats⟩ := List.any_eq_true.mp hrepeats
      exact iff_of_false nofun fun h => Bool.false_ne_true ((h.1 f hf).symm.trans hrepeats)
    · simp only [List.any_eq_true, not_exists, not_and, Bool.not_eq_true] at hrepeats
      rw [Option.some_inj]
      exact (and_iff_right hrepeats).symm
  | array items =>
    rw [isRecord_array_iff, fields?]
    split_ifs with hlong hleft
    · exact iff_of_false nofun fun h => Nat.not_le.mpr hlong h.1
    · rw [Option.some_inj, and_iff_right (Nat.not_lt.mp hlong),
        and_iff_right (List.all_eq_true.mp hleft)]
      exact eq_comm
    · exact iff_of_false nofun fun h => hleft (List.all_eq_true.mpr h.2.1)
  | null | bool _ | number _ | string _ => exact iff_of_false nofun nofun

section

variable {α : Type} {fields : List Field} {j : Json} {x : α}

/-- A reader of records with one field. -/
theorem bind_fields?_one {read : Option Json → Option α} :
    ((fields? fields j).bind fun values => match values with
      | [a] => read a
      | _ => none) = some x ↔ ∃ a, IsRecord fields j [a] ∧ read a = some x := by
  simp only [Option.bind_eq_some_iff, fields?_eq_some_iff]
  constructor
  · rintro ⟨values, hrecord, h⟩
    split at h
    · exact ⟨_, hrecord, h⟩
    · exact nomatch h
  · rintro ⟨a, hrecord, h⟩
    exact ⟨_, hrecord, h⟩

/-- A reader of records with two fields. -/
theorem bind_fields?_two {read : Option Json → Option Json → Option α} :
    ((fields? fields j).bind fun values => match values with
      | [a, b] => read a b
      | _ => none) = some x ↔ ∃ a b, IsRecord fields j [a, b] ∧ read a b = some x := by
  simp only [Option.bind_eq_some_iff, fields?_eq_some_iff]
  constructor
  · rintro ⟨values, hrecord, h⟩
    split at h
    · exact ⟨_, _, hrecord, h⟩
    · exact nomatch h
  · rintro ⟨a, b, hrecord, h⟩
    exact ⟨_, hrecord, h⟩

/-- A reader of records with three fields. -/
theorem bind_fields?_three {read : Option Json → Option Json → Option Json → Option α} :
    ((fields? fields j).bind fun values => match values with
      | [a, b, c] => read a b c
      | _ => none) = some x ↔ ∃ a b c, IsRecord fields j [a, b, c] ∧ read a b c = some x := by
  simp only [Option.bind_eq_some_iff, fields?_eq_some_iff]
  constructor
  · rintro ⟨values, hrecord, h⟩
    split at h
    · exact ⟨_, _, _, hrecord, h⟩
    · exact nomatch h
  · rintro ⟨a, b, c, hrecord, h⟩
    exact ⟨_, hrecord, h⟩

end

/-! ## Values of fields -/

/-- A value that may be left out, and then is the default. -/
inductive Defaulted {α : Type} (default : α) (P : α → Json → Prop) : α → Option Json → Prop where
  | leftOut : Defaulted default P default none
  | written {a : α} {j : Json} (h : P a j) : Defaulted default P a (some j)

/-- A value that may be left out or `null`, and then is the default. -/
inductive Nullable {α : Type} (default : α) (P : α → Json → Prop) : α → Option Json → Prop where
  | leftOut : Nullable default P default none
  | null : Nullable default P default (some .null)
  | written {a : α} {j : Json} (h : P a j) : Nullable default P a (some j)

/-- An array of values of one kind. -/
def ListOf {α : Type} (P : α → Json → Prop) (l : List α) (j : Json) : Prop :=
  ∃ items, j = .array items ∧ List.Forall₂ P l items

/-- A number from 0 on below a bound, without sign, fraction and exponent. -/
def IsNatBelow (bound n : Nat) (j : Json) : Prop :=
  ∃ number, j = .number number ∧ number.nat? = some n ∧ n < bound

section

variable {α : Type} {read : Json → Option α} {P : α → Json → Prop}

theorem required_eq_some_iff (hread : ∀ j a, read j = some a ↔ P a j) {value : Option Json}
    {a : α} : required read value = some a ↔ ∃ j, value = some j ∧ P a j := by
  cases value with
  | none => exact iff_of_false nofun nofun
  | some j => simp [required, hread]

theorem defaulted_eq_some_iff (hread : ∀ j a, read j = some a ↔ P a j) {default : α}
    {value : Option Json} {a : α} :
    defaulted default read value = some a ↔ Defaulted default P a value := by
  cases value with
  | none =>
    constructor
    · rintro ⟨⟩
      exact .leftOut
    · rintro ⟨⟩
      rfl
  | some j =>
    exact (hread j a).trans ⟨.written, fun h => by cases h; assumption⟩

theorem optional_getD_iff (hread : ∀ j a, read j = some a ↔ P a j) (hnull : ∀ a, ¬P a .null)
    {default : α} {value : Option Json} {a : α} :
    (∃ written, optional read value = some written ∧ written.getD default = a) ↔
      Nullable default P a value := by
  cases value with
  | none =>
    constructor
    · rintro ⟨_, ⟨⟩, rfl⟩
      exact .leftOut
    · rintro ⟨⟩
      exact ⟨none, rfl, rfl⟩
  | some j =>
    by_cases hj : j = .null
    · subst hj
      constructor
      · rintro ⟨_, ⟨⟩, rfl⟩
        exact .null
      · rintro (_ | _ | h)
        · exact ⟨none, rfl, rfl⟩
        · exact absurd h (hnull a)
    · have hvalue : optional read (some j) = (read j).map some := by
        cases j with
        | null => exact absurd rfl hj
        | _ => rfl
      rw [hvalue]
      constructor
      · rintro ⟨_, hwritten, rfl⟩
        obtain ⟨b, hb, rfl⟩ := Option.map_eq_some_iff.mp hwritten
        exact .written ((hread j b).mp hb)
      · rintro (_ | _ | h)
        · exact absurd rfl hj
        · exact ⟨some a, Option.map_eq_some_iff.mpr ⟨a, (hread j a).mpr h, rfl⟩, rfl⟩

theorem list?_eq_some_iff (hread : ∀ j a, read j = some a ↔ P a j) {j : Json} {l : List α} :
    list? read j = some l ↔ ListOf P l j := by
  cases j with
  | array items =>
    have hlist : ListOf P l (.array items) ↔ List.Forall₂ P l items :=
      ⟨fun ⟨_, hitems, h⟩ => by cases hitems; exact h, fun h => ⟨items, rfl, h⟩⟩
    rw [hlist, list?]
    clear hlist
    induction items generalizing l with
    | nil => simp [eq_comm]
    | cons j items ih =>
      rw [List.mapM_cons]
      simp only [Option.bind_eq_bind, Option.bind_eq_some_iff, Option.pure_def, Option.some_inj,
        hread, ih, List.forall₂_cons_right_iff]
      constructor
      · rintro ⟨a, ha, rest, hrest, rfl⟩
        exact ⟨a, rest, ha, hrest, rfl⟩
      · rintro ⟨a, rest, ha, hrest, rfl⟩
        exact ⟨a, ha, rest, hrest, rfl⟩
  | _ => exact iff_of_false nofun nofun

end

theorem natBelow?_eq_some_iff {bound n : Nat} {j : Json} :
    natBelow? bound j = some n ↔ IsNatBelow bound n j := by
  cases j with
  | number number => simp [natBelow?, IsNatBelow, Option.filter_eq_some_iff]
  | _ => exact iff_of_false nofun nofun

end RedemptionWatch.Json
