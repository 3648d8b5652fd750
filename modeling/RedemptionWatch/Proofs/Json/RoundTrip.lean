import Mathlib.Data.List.Basic
import Mathlib.Data.Option.Basic
import Mathlib.Tactic.SplitIfs
import RedemptionWatch.Json.Reader
import RedemptionWatch.Json.Writer

/-!
# What is written is read back

`Json.ofText?` reads back every value that `Json.text` writes, if its only numbers are natural
numbers of 64 bits and at most 127 arrays and objects stand inside each other
(`Json.ofText?_text`). Strings may hold any characters, for `Json.escape` undoes what
`Reader.stringRest?` does.
-/

namespace RedemptionWatch.Json

/-! ## What is written, as characters -/

mutual

/-- The characters of the text of a value. -/
def chars : Json → List Char
  | null => ['n', 'u', 'l', 'l']
  | bool true => ['t', 'r', 'u', 'e']
  | bool false => ['f', 'a', 'l', 's', 'e']
  | number n => (numberText n).toList
  | string s => '"' :: (s.toList.flatMap (fun c => (escape c).toList) ++ ['"'])
  | array items => '[' :: (itemChars true items ++ [']'])
  | object members => '{' :: (memberChars true members ++ ['}'])

/-- The characters of items. -/
def itemChars (first : Bool) : List Json → List Char
  | [] => []
  | x :: rest => (if first then [] else [',']) ++ (chars x ++ itemChars false rest)

/-- The characters of members. -/
def memberChars (first : Bool) : List (String × Json) → List Char
  | [] => []
  | (key, x) :: rest =>
    (if first then [] else [',']) ++
      (chars (string key) ++ (':' :: (chars x ++ memberChars false rest)))

end

theorem toList_quoted (s : String) : (quoted s).toList = chars (string s) := by
  have hfold : ∀ (cs : List Char) (out : String),
      (cs.foldl (fun out c => out ++ escape c) out).toList =
        out.toList ++ cs.flatMap fun c => (escape c).toList := by
    intro cs
    induction cs with
    | nil => simp
    | cons c cs ih => simp [ih]
  simp [quoted, chars, String.foldl_eq_foldl_toList, hfold]

mutual

theorem toList_write (out : String) : ∀ j, (write out j).toList = out.toList ++ chars j
  | null => by simp [write, chars]
  | bool true => by simp [write, chars]
  | bool false => by simp [write, chars]
  | number n => by simp [write, chars]
  | string s => by rw [write, String.toList_append, toList_quoted]
  | array items => by simp [write, chars, toList_writeItems]
  | object members => by simp [write, chars, toList_writeMembers]

theorem toList_writeItems (out : String) (first : Bool) :
    ∀ items, (writeItems out first items).toList = out.toList ++ itemChars first items
  | [] => by simp [writeItems, itemChars]
  | x :: rest => by
    cases first <;> simp [writeItems, itemChars, toList_writeItems, toList_write]

theorem toList_writeMembers (out : String) (first : Bool) :
    ∀ members, (writeMembers out first members).toList = out.toList ++ memberChars first members
  | [] => by simp [writeMembers, memberChars]
  | (key, x) :: rest => by
    cases first <;>
      simp [writeMembers, memberChars, toList_writeMembers, toList_write, toList_quoted]

end

theorem toList_text (j : Json) : j.text.toList = chars j := by
  simp [text, toList_write]

/-! ## Strings are read back -/

namespace Reader

theorem unit?_control : ∀ n < 32,
    unit? '0' '0' (Nat.digitChar (n / 16)) (Nat.digitChar (n % 16)) = some n := by
  decide

/-- A character that needs no escape stands for itself. -/
theorem stringRest?_cons {c : Char} (hquote : c ≠ '"') (hslash : c ≠ '\\')
    (hcontrol : ¬c.toNat < 0x20) (rest : List Char) :
    stringRest? (c :: rest) = (stringRest? rest).map fun (cs, rest) => (c :: cs, rest) := by
  rw [stringRest?.eq_def]
  split
  case h_1 h => exact nomatch h
  case h_2 h => exact absurd (List.cons.inj h).1 hquote
  case h_3 h => exact absurd (List.cons.inj h).1 hslash
  case h_4 h => exact absurd (List.cons.inj h).1 hslash
  case h_5 h =>
    cases h
    exact if_neg (not_or.mpr ⟨hcontrol, hslash⟩)

/-- An escaped character is read back. -/
theorem stringRest?_escape (c : Char) (rest : List Char) :
    stringRest? ((escape c).toList ++ rest) =
      (stringRest? rest).map fun (cs, rest) => (c :: cs, rest) := by
  unfold escape
  split
  · rfl
  · rfl
  · rfl
  · rfl
  · rfl
  · rfl
  · rfl
  · rename_i hquote hslash _ _ _ _ _
    split_ifs with hcontrol
    · have hunit : unit? '0' '0' (Nat.digitChar (c.toNat / 16)) (Nat.digitChar (c.toNat % 16)) =
          some c.toNat := unit?_control c.toNat hcontrol
      have hlow : ¬(0xD800 ≤ c.toNat ∧ c.toNat < 0xDC00) := by omega
      have hhigh : ¬(0xDC00 ≤ c.toNat ∧ c.toNat < 0xE000) := by omega
      have hchars : ("\\u00" ++ String.ofList [Nat.digitChar (c.toNat / 16),
          Nat.digitChar (c.toNat % 16)]).toList = ['\\', 'u', '0', '0',
            Nat.digitChar (c.toNat / 16), Nat.digitChar (c.toNat % 16)] := by
        simp
      rw [hchars]
      simp only [List.cons_append, List.nil_append, stringRest?, hunit, if_neg hlow, if_neg hhigh,
        Char.ofNat_toNat]
    · have hchar : c.toString.toList = [c] := by simp
      rw [hchar, List.singleton_append, stringRest?_cons hquote hslash hcontrol]

theorem stringRest?_flatMap_escape (cs rest : List Char) :
    stringRest? (cs.flatMap (fun c => (escape c).toList) ++ '"' :: rest) = some (cs, rest) := by
  induction cs with
  | nil => rfl
  | cons c cs ih => rw [List.flatMap_cons, List.append_assoc, stringRest?_escape, ih]; rfl

end Reader

/-! ## Numbers are read back -/

namespace Reader

/-- What follows a value inside another one, or nothing. -/
def Closes (rest : List Char) : Prop :=
  ∀ c ∈ rest.head?, c = ',' ∨ c = ']' ∨ c = '}'

theorem Closes.not_isDigit {rest : List Char} (h : Closes rest) :
    ∀ c ∈ rest.head?, ¬c.isDigit = true := by
  intro c hc
  rcases h c hc with rfl | rfl | rfl <;> decide

theorem digits_append {ds rest : List Char} (hds : ∀ c ∈ ds, c.isDigit = true)
    (hrest : Closes rest) : digits (ds ++ rest) = (ds, rest) := by
  have htake : rest.takeWhile Char.isDigit = [] ∧ rest.dropWhile Char.isDigit = rest := by
    cases rest with
    | nil => exact ⟨rfl, rfl⟩
    | cons c rest =>
      have hc := hrest.not_isDigit c rfl
      exact ⟨List.takeWhile_cons_of_neg hc, List.dropWhile_cons_of_neg hc⟩
  unfold digits
  rw [List.takeWhile_append_of_pos hds, List.dropWhile_append_of_pos hds, htake.1, htake.2,
    List.append_nil]

theorem digitsValue_toDigits (n : Nat) : digitsValue (Nat.toDigits 10 n) = n := by
  have hvalue : digitsValue (Nat.toDigits 10 n) = Nat.ofDigitChars 10 (Nat.toDigits 10 n) 0 := by
    unfold digitsValue Nat.ofDigitChars
    congr 1
    funext n d
    rw [Nat.mul_comm]
  rw [hvalue, Nat.ofDigitChars_ten_toDigits]

/-- Only the number 0 starts with the digit 0. -/
theorem eq_zero_of_head?_toDigits (n : Nat) (h : (Nat.toDigits 10 n).head? = some '0') : n = 0 := by
  induction n using Nat.strongRecOn with
  | ind n ih =>
    by_cases hlt : n < 10
    · have hdigit : ∀ n < 10, Nat.digitChar n = '0' → n = 0 := by decide
      rw [Nat.toDigits_of_lt_base hlt] at h
      exact hdigit n hlt (Option.some_inj.mp h)
    · rw [Nat.toDigits_of_base_le (by decide) (by omega),
        List.head?_append_of_ne_nil _ Nat.toDigits_ne_nil] at h
      have hzero := ih (n / 10) (by omega) h
      omega

/-- A natural number is read back where a value ends. -/
theorem number?_toDigits (n : Nat) {rest : List Char} (hrest : Closes rest) :
    number? (Nat.toDigits 10 n ++ rest) = some (.ofNat n, rest) := by
  have hall : ∀ c ∈ Nat.toDigits 10 n, c.isDigit = true := fun c hc =>
    Nat.isDigit_of_mem_toDigits (by decide) (by decide) hc
  have hne : Nat.toDigits 10 n ≠ [] := Nat.toDigits_ne_nil
  have hzero : (Nat.toDigits 10 n).head? = some '0' → (Nat.toDigits 10 n).length = 1 := by
    intro hhead
    rw [eq_zero_of_head?_toDigits n hhead]
    rfl
  have hsign : ∀ rest', Nat.toDigits 10 n ++ rest = '-' :: rest' → False := by
    intro rest' heq
    obtain ⟨d, ds, hds⟩ := List.exists_cons_of_ne_nil hne
    rw [hds] at heq hall
    have hminus : d = '-' := (List.cons.inj heq).1
    exact absurd (hall d List.mem_cons_self) (by rw [hminus]; decide)
  have hfraction : fraction? rest = some ([], rest) := by
    cases rest with
    | nil => rfl
    | cons c rest => rcases hrest c rfl with rfl | rfl | rfl <;> rfl
  have hexponent : exponent? rest = some (none, rest) := by
    cases rest with
    | nil => rfl
    | cons c rest => rcases hrest c rfl with rfl | rfl | rfl <;> rfl
  have hguard : (guard (Nat.toDigits 10 n ≠ [] ∧ ((Nat.toDigits 10 n).head? = some '0' →
      (Nat.toDigits 10 n).length = 1)) : Option Unit) = some () := if_pos ⟨hne, hzero⟩
  unfold number?
  simp only [digits_append hall hrest, hguard, hfraction]
  simp [hexponent, digitsValue_toDigits, JsonNumber.ofNat]

end Reader

/-! ## Values are read back -/

mutual

/-- Its only numbers are natural numbers of 64 bits, and at most `depth` arrays and objects stand
inside each other. -/
def isPlain : Nat → Json → Bool
  | _, null => true
  | _, bool _ => true
  | _, number n => n = .ofNat n.digits ∧ n.digits < UInt64.size
  | _, string _ => true
  | 0, array _ => false
  | depth + 1, array items => itemsArePlain depth items
  | 0, object _ => false
  | depth + 1, object members => membersArePlain depth members

/-- All items are plain. -/
def itemsArePlain (depth : Nat) : List Json → Bool
  | [] => true
  | x :: rest => isPlain depth x && itemsArePlain depth rest

/-- The values of all members are plain. -/
def membersArePlain (depth : Nat) : List (String × Json) → Bool
  | [] => true
  | (_, x) :: rest => isPlain depth x && membersArePlain depth rest

end

theorem chars_ofNat {n : Nat} (h : n < UInt64.size) :
    chars (number (.ofNat n)) = Nat.toDigits 10 n := by
  have hint : (JsonNumber.ofNat n).int? = some (n : Int) := rfl
  have hrange : Int64.minValue.toInt ≤ (n : Int) ∧ (n : Int) < UInt64.size := by
    have hmin : Int64.minValue.toInt ≤ 0 := by decide
    omega
  have htext : numberText (.ofNat n) = toString (n : Int) := by
    unfold numberText
    rw [hint]
    exact if_pos hrange
  rw [chars, htext]
  exact Nat.toList_repr

theorem Reader.isSpace_digit {d : Char} (hd : d.isDigit = true) : isSpace d = false := by
  cases hspace : isSpace d with
  | false => rfl
  | true =>
    simp only [isSpace, Bool.or_eq_true, decide_eq_true_eq] at hspace
    rcases hspace with ((rfl | rfl) | rfl) | rfl <;> exact absurd hd (by decide)

/-- No text of a value starts with white space or a closing bracket. -/
theorem exists_chars {depth : Nat} {j : Json} (h : j.isPlain depth) :
    ∃ c cs, chars j = c :: cs ∧ Reader.isSpace c = false ∧ c ≠ ']' := by
  cases j with
  | null => simp [chars, Reader.isSpace]
  | bool b => cases b <;> simp [chars, Reader.isSpace]
  | number n =>
    obtain ⟨hn, hlt⟩ : n = .ofNat n.digits ∧ n.digits < UInt64.size := by
      simpa [isPlain] using h
    rw [hn, chars_ofNat hlt]
    obtain ⟨d, ds, hds⟩ :=
      List.exists_cons_of_ne_nil (Nat.toDigits_ne_nil (n := n.digits) (b := 10))
    have hd : d.isDigit = true :=
      Nat.isDigit_of_mem_toDigits (by decide) (by decide) (hds ▸ List.mem_cons_self)
    refine ⟨d, ds, hds, Reader.isSpace_digit hd, ?_⟩
    rintro rfl
    exact absurd hd (by decide)
  | string s => simp [chars, Reader.isSpace]
  | array items => simp [chars, Reader.isSpace]
  | object members => simp [chars, Reader.isSpace]

namespace Reader

theorem isFinite_ofNat {n : Nat} (h : n < UInt64.size) : (JsonNumber.ofNat n).isFinite = true := by
  have hwidth : JsonNumber.width n ≤ 20 :=
    (Nat.length_toDigits_le_iff (by decide) (by decide)).mpr (Nat.lt_trans h (by decide))
  have hoverflow : n * Nat.pow 10 (0 : Int).toNat < JsonNumber.overflow :=
    Nat.lt_trans (by simpa using h) (by decide +kernel)
  unfold JsonNumber.isFinite JsonNumber.ofNat
  dsimp only
  split_ifs with hzero hlarge hinteger
  · rfl
  · omega
  · exact decide_eq_true hoverflow
  · rfl
  · exact absurd (Int.le_refl 0) hinteger

theorem skipSpace_cons {c : Char} (h : isSpace c = false) (cs : List Char) :
    skipSpace (c :: cs) = c :: cs := by
  unfold skipSpace
  exact List.dropWhile_cons_of_neg (by simp [h])

theorem value?_toDigits {n : Nat} (h : n < UInt64.size) (fuel depth : Nat) {rest : List Char}
    (hrest : Closes rest) : value? .full (fuel + 1) depth (Nat.toDigits 10 n ++ rest) =
      some (.number (.ofNat n), rest) := by
  have hread := number?_toDigits n hrest
  obtain ⟨d, ds, hds⟩ := List.exists_cons_of_ne_nil (Nat.toDigits_ne_nil (n := n) (b := 10))
  have hd : d.isDigit = true :=
    Nat.isDigit_of_mem_toDigits (by decide) (by decide) (hds ▸ List.mem_cons_self)
  rw [hds, List.cons_append] at hread ⊢
  rw [value?, skipSpace_cons (isSpace_digit hd)]
  split
  case h_7 => rw [hread]; simp [isFinite_ofNat h]
  all_goals
    rename_i heq
    rw [(List.cons.inj heq).1] at hd
    exact absurd hd (by decide)

theorem closes_itemChars (xs : List Json) (rest : List Char) :
    Closes (itemChars false xs ++ ']' :: rest) := by
  cases xs <;> simp [Closes, itemChars]

theorem closes_memberChars (ms : List (String × Json)) (rest : List Char) :
    Closes (memberChars false ms ++ '}' :: rest) := by
  rcases ms with _ | ⟨⟨key, x⟩, ms⟩ <;> simp [Closes, memberChars]

/-- Items that are not the first ones have a comma before them. -/
theorem itemChars_eq {items : List Json} (h : items ≠ []) :
    itemChars false items = ',' :: itemChars true items := by
  cases items with
  | nil => exact absurd rfl h
  | cons x rest => simp [itemChars]

theorem memberChars_eq {members : List (String × Json)} (h : members ≠ []) :
    memberChars false members = ',' :: memberChars true members := by
  rcases members with _ | ⟨⟨key, x⟩, rest⟩
  · exact absurd rfl h
  · simp [memberChars]

theorem stringUnder?_chars (s : String) (rest : List Char) :
    stringUnder? .full (s.toList.flatMap (fun c => (escape c).toList) ++ ['"'] ++ rest) =
      some (s, rest) := by
  unfold stringUnder?
  rw [List.append_assoc, List.singleton_append, stringRest?_flatMap_escape]
  simp only [String.ofList_toList]

mutual

/-- A text of a value is read back with fuel of twice its length: a level of arrays and objects
takes two of the fuel, and has two brackets. -/
theorem value?_chars : ∀ (j : Json) (depth fuel : Nat) (rest : List Char), j.isPlain depth →
    2 * (chars j).length ≤ fuel → Closes rest →
    value? .full fuel depth (chars j ++ rest) = some (j, rest)
  | null, depth, fuel + 1, rest, _, _, _ => by
    simp [chars, value?, skipSpace, isSpace, word?]
  | bool true, depth, fuel + 1, rest, _, _, _ => by
    simp [chars, value?, skipSpace, isSpace, word?]
  | bool false, depth, fuel + 1, rest, _, _, _ => by
    simp [chars, value?, skipSpace, isSpace, word?]
  | number n, depth, fuel + 1, rest, h, _, hrest => by
    obtain ⟨hn, hlt⟩ : n = .ofNat n.digits ∧ n.digits < UInt64.size := by
      simpa [isPlain] using h
    rw [hn, chars_ofNat hlt, value?_toDigits hlt fuel depth hrest]
  | string s, depth, fuel + 1, rest, _, _, _ => by
    rw [chars, List.cons_append, value?, skipSpace_cons (by decide)]
    simp only [stringUnder?_chars]
    rfl
  | array [], depth + 1, fuel + 1, rest, _, _, _ => by
    simp [chars, itemChars, value?, skipSpace, isSpace]
  | array (x :: xs), depth + 1, fuel + 1, rest, h, hfuel, _ => by
    have hplain : itemsArePlain depth (x :: xs) := by simpa [isPlain] using h
    have hx : x.isPlain depth := by
      simp only [itemsArePlain, Bool.and_eq_true] at hplain
      exact hplain.1
    have hitems := items?_itemChars (x :: xs) (List.cons_ne_nil x xs) depth fuel rest hplain (by
      simp only [chars, List.length_cons, List.length_append] at hfuel
      omega)
    -- what follows the bracket is no closing one, so there are items to read
    obtain ⟨c, cs, hc, hspace, hclose⟩ := exists_chars hx
    have hhead : itemChars true (x :: xs) ++ ']' :: rest =
        c :: (cs ++ (itemChars false xs ++ ']' :: rest)) := by
      simp [itemChars, hc]
    have hsplit : chars (array (x :: xs)) ++ rest =
        '[' :: (itemChars true (x :: xs) ++ ']' :: rest) := by
      simp [chars]
    rw [hhead] at hitems
    rw [hsplit, value?, skipSpace_cons (by decide), hhead]
    simp only [skipSpace_cons hspace]
    simp [hitems, hclose]
  | object [], depth + 1, fuel + 1, rest, _, _, _ => by
    simp [chars, memberChars, value?, skipSpace, isSpace]
  | object ((key, x) :: ms), depth + 1, fuel + 1, rest, h, hfuel, _ => by
    have hplain : membersArePlain depth ((key, x) :: ms) := by simpa [isPlain] using h
    have hmembers := members?_memberChars ((key, x) :: ms) (List.cons_ne_nil _ ms) depth fuel rest
      hplain (by
        simp only [chars, List.length_cons, List.length_append] at hfuel
        omega)
    have hhead : memberChars true ((key, x) :: ms) =
        '"' :: (memberChars true ((key, x) :: ms)).tail := by
      simp [memberChars, chars]
    have hsplit : chars (object ((key, x) :: ms)) ++ rest =
        '\x7b' :: (memberChars true ((key, x) :: ms) ++ '\x7d' :: rest) := by
      simp [chars]
    rw [hhead, List.cons_append] at hmembers
    rw [hsplit, value?, skipSpace_cons (by decide), hhead, List.cons_append]
    simp only [skipSpace_cons (show isSpace '"' = false by decide)]
    simp [hmembers]
  | array items, 0, fuel, rest, h, _, _ => by simp [isPlain] at h
  | object members, 0, fuel, rest, h, _, _ => by simp [isPlain] at h
  | j, depth, 0, rest, h, hfuel, _ => by
    obtain ⟨c, cs, hc, -⟩ := exists_chars h
    simp [hc] at hfuel

theorem items?_itemChars : ∀ (items : List Json), items ≠ [] → ∀ (depth fuel : Nat)
    (rest : List Char), itemsArePlain depth items → 2 * (itemChars true items).length + 1 ≤ fuel →
    items? .full fuel depth (itemChars true items ++ ']' :: rest) = some (items, rest)
  | [], hne, _, _, _, _, _ => absurd rfl hne
  | x :: xs, _, depth, fuel + 1, rest, h, hfuel => by
    obtain ⟨hx, hxs⟩ : isPlain depth x ∧ itemsArePlain depth xs := by
      simpa [itemsArePlain] using h
    simp only [itemChars, if_true, List.nil_append, List.length_append] at hfuel
    have hvalue := value?_chars x depth fuel _ hx (by omega) (closes_itemChars xs rest)
    have hsplit : itemChars true (x :: xs) ++ ']' :: rest =
        chars x ++ (itemChars false xs ++ ']' :: rest) := by
      simp [itemChars]
    rw [hsplit, items?, hvalue]
    by_cases hnil : xs = []
    · simp [hnil, itemChars, skipSpace, isSpace]
    · rw [itemChars_eq hnil, List.length_cons] at hfuel
      have hitems := items?_itemChars xs hnil depth fuel rest hxs (by omega)
      rw [itemChars_eq hnil, List.cons_append]
      simp only [skipSpace_cons (show isSpace ',' = false by decide), hitems, Option.map_some]

theorem members?_memberChars : ∀ (members : List (String × Json)), members ≠ [] →
    ∀ (depth fuel : Nat) (rest : List Char), membersArePlain depth members →
    2 * (memberChars true members).length + 1 ≤ fuel →
    members? .full fuel depth (memberChars true members ++ '\x7d' :: rest) = some (members, rest)
  | [], hne, _, _, _, _, _ => absurd rfl hne
  | (key, x) :: ms, _, depth, fuel + 1, rest, h, hfuel => by
    obtain ⟨hx, hms⟩ : isPlain depth x ∧ membersArePlain depth ms := by
      simpa [membersArePlain] using h
    simp only [memberChars, if_true, List.nil_append, List.length_append, List.length_cons]
      at hfuel
    have hvalue := value?_chars x depth fuel _ hx (by omega) (closes_memberChars ms rest)
    have hsplit : memberChars true ((key, x) :: ms) ++ '\x7d' :: rest =
        '"' :: (key.toList.flatMap (fun c => (escape c).toList) ++ ['"'] ++
          (':' :: (chars x ++ (memberChars false ms ++ '\x7d' :: rest)))) := by
      simp [memberChars, chars]
    rw [hsplit, members?, skipSpace_cons (by decide)]
    simp only [opened?, stringUnder?_chars, skipSpace_cons (show isSpace ':' = false by decide),
      hvalue]
    by_cases hnil : ms = []
    · simp [hnil, memberChars, skipSpace, isSpace]
    · rw [memberChars_eq hnil, List.length_cons] at hfuel
      have hmembers := members?_memberChars ms hnil depth fuel rest hms (by omega)
      rw [memberChars_eq hnil, List.cons_append]
      simp only [skipSpace_cons (show isSpace ',' = false by decide), hmembers, Option.map_some]

end

end Reader

/-- **What is written is read back.** -/
theorem ofText?_text {j : Json} (h : j.isPlain Reader.maxDepth) : ofText? j.text = some j := by
  have hread := Reader.value?_chars j Reader.maxDepth (2 * (chars j).length + 2) [] h (by omega)
    (by simp [Reader.Closes])
  rw [List.append_nil] at hread
  unfold ofText? Reader.valueAt?
  rw [toList_text, Nat.sub_zero, hread]
  rfl

end RedemptionWatch.Json
