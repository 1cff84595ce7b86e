import DocRoot.Json.Reader
import Mathlib.Tactic.SplitIfs

/-!
# What is printed is read back

The text of a value reads back as that value, whatever stands in its strings, if each of its
numbers is whole and fits a word of 64 bits, signed or unsigned, and if it nests no deeper
than the reader goes.
-/

set_option autoImplicit false

namespace DocRoot.Json

namespace Read

section Numbers

/-- Nothing that would go on with a number in front of it. -/
def EndsNumber (r : List Char) : Prop :=
  ∀ c, r.head? = some c → isDigit c = false ∧ isNumberTail [c] = false

theorem EndsNumber.cons {c : Char} (r : List Char) (hdigit : isDigit c = false)
    (htail : isNumberTail [c] = false) : EndsNumber (c :: r) := by
  rintro d ⟨⟩
  exact ⟨hdigit, htail⟩

theorem endsNumber_nil : EndsNumber [] := by
  rintro c ⟨⟩

variable {r ds : List Char} {n m : Nat}

theorem EndsNumber.takeWhile_eq (h : EndsNumber r) : r.takeWhile isDigit = [] := by
  cases r with
  | nil => rfl
  | cons c r => exact List.takeWhile_cons_of_neg (by simp [(h c rfl).1])

theorem EndsNumber.dropWhile_eq (h : EndsNumber r) : r.dropWhile isDigit = r := by
  cases r with
  | nil => rfl
  | cons c r => exact List.dropWhile_cons_of_neg (by simp [(h c rfl).1])

theorem EndsNumber.isNumberTail_eq (h : EndsNumber r) : isNumberTail r = false := by
  cases r with
  | nil => rfl
  | cons c r => exact (h c rfl).2

theorem isDigit_of_mem_toDigits {c : Char} (h : c ∈ Nat.toDigits 10 n) : isDigit c = true := by
  have hd := Nat.isDigit_of_mem_toDigits (by decide) (by decide) h
  simpa [isDigit, Char.isDigit, Char.le_def] using hd

theorem le_ofDigitChars (ds : List Char) (n : Nat) : n ≤ Nat.ofDigitChars 10 ds n := by
  induction ds generalizing n with
  | nil => exact Nat.le_refl n
  | cons d ds ih =>
    rw [Nat.ofDigitChars, List.foldl_cons]
    exact Nat.le_trans (by omega) (ih _)

/-- Digits whose value fits a word are taken, all of them. -/
theorem takeDigits_append (count : Nat) (digits : ∀ d ∈ ds, isDigit d = true)
    (fits : Nat.ofDigitChars 10 ds n ≤ mostUnsigned) (ends : EndsNumber r) :
    takeDigits n count (ds ++ r) = (Nat.ofDigitChars 10 ds n, count + ds.length, r) := by
  induction ds generalizing n count with
  | nil =>
    cases r with
    | nil => rfl
    | cons c r => simp [takeDigits, (ends c rfl).1, Nat.ofDigitChars]
  | cons d ds ih =>
    obtain ⟨hd, hds⟩ := List.forall_mem_cons.mp digits
    have hstep : 10 * n + (d.toNat - '0'.toNat) = n * 10 + digitValue d := by
      rw [Nat.mul_comm]
      rfl
    rw [Nat.ofDigitChars, List.foldl_cons, hstep] at fits ⊢
    have hfirst : n * 10 + digitValue d ≤ mostUnsigned :=
      Nat.le_trans (le_ofDigitChars ds _) fits
    rw [List.cons_append, takeDigits, if_pos ⟨hd, hfirst⟩, ih (count + 1) hds fits,
      List.length_cons, Nat.ofDigitChars]
    congr 2
    omega

theorem head?_toDigits_ne_zero (h : 10 ≤ n) : (Nat.toDigits 10 n).head? ≠ some '0' := by
  induction n using Nat.strongRecOn with
  | ind n ih =>
    rw [Nat.toDigits_of_base_le (by decide) h]
    by_cases hn : n / 10 < 10
    · have hdigit : ∀ k : Fin 10, (k : Nat) ≠ 0 → (k : Nat).digitChar ≠ '0' := by decide
      rw [Nat.toDigits_of_lt_base hn]
      simpa using hdigit ⟨n / 10, hn⟩ (by simp; omega)
    · have := ih (n / 10) (by omega) (by omega)
      obtain ⟨d, ds, hd⟩ := List.exists_cons_of_ne_nil (Nat.toDigits_ne_nil (n := n / 10) (b := 10))
      rwa [hd] at this ⊢

/-- A number has no zero in front of its digits. -/
theorem not_leadingZero (n : Nat) (r : List Char) :
    ¬((Nat.toDigits 10 n ++ r).head? = some '0' ∧ 1 < (Nat.toDigits 10 n).length) := by
  rintro ⟨hzero, hlength⟩
  by_cases hn : n < 10
  · simp [Nat.toDigits_of_lt_base hn] at hlength
  · have hne := head?_toDigits_ne_zero (Nat.not_lt.mp hn)
    obtain ⟨d, ds, hd⟩ := List.exists_cons_of_ne_nil (Nat.toDigits_ne_nil (n := n) (b := 10))
    rw [hd] at hzero hne
    exact hne hzero

theorem unsignedNumber_toDigits (negative : Bool) (fits : n ≤ mostUnsigned) (ends : EndsNumber r) :
    unsignedNumber negative (Nat.toDigits 10 n ++ r) =
      if !negative then some (.number n, r)
      else if n = 0 ∨ 9223372036854775808 < n then some (.real (Binary64.ofNat n).negate, r)
      else some (.number (-n), r) := by
  have htake : takeDigits 0 0 (Nat.toDigits 10 n ++ r) = (n, (Nat.toDigits 10 n).length, r) := by
    rw [takeDigits_append 0 (fun _ => isDigit_of_mem_toDigits)
      (by rwa [Nat.ofDigitChars_ten_toDigits]) ends, Nat.ofDigitChars_ten_toDigits, Nat.zero_add]
  have hsome : (Nat.toDigits 10 n).length ≠ 0 := Nat.ne_of_gt Nat.length_toDigits_pos
  simp only [unsignedNumber, htake, ends.takeWhile_eq, ends.dropWhile_eq, ends.isNumberTail_eq,
    hsome, if_false, ne_eq, not_true_eq_false, or_false, Bool.false_eq_true,
    not_leadingZero]

theorem toList_negSucc (n : Nat) :
    (toString (Int.negSucc n)).toList = '-' :: Nat.toDigits 10 (n + 1) := by
  change ("-" ++ (n + 1).repr).toList = _
  simp

/-- The text of a number begins with a digit, after a minus sign if it is negative. -/
theorem first_toString (n : Int) :
    ∃ c cs, (toString n).toList = c :: cs ∧ (isDigit c = true ∨ c = '-') := by
  cases n with
  | ofNat n =>
    obtain ⟨c, cs, hcs⟩ := List.exists_cons_of_ne_nil (Nat.toDigits_ne_nil (n := n) (b := 10))
    have hdigit : isDigit c = true := isDigit_of_mem_toDigits (n := n) (hcs ▸ List.mem_cons_self)
    exact ⟨c, cs, Nat.toList_repr.trans hcs, .inl hdigit⟩
  | negSucc n => exact ⟨'-', _, toList_negSucc n, .inr rfl⟩

theorem number_of_digit {c : Char} (s : List Char) (h : isDigit c = true) :
    number (c :: s) = unsignedNumber false (c :: s) := by
  rw [number]
  rintro r ⟨⟩
  exact absurd h (by decide)

/-- A whole number within the words of 64 bits reads back as itself. -/
theorem number_toString {n : Int} (low : -9223372036854775808 ≤ n) (high : n ≤ mostUnsigned)
    (ends : EndsNumber r) : number ((toString n).toList ++ r) = some (.number n, r) := by
  cases n with
  | ofNat n =>
    have hdigits : (toString (Int.ofNat n)).toList = Nat.toDigits 10 n := Nat.toList_repr
    have hnumber := unsignedNumber_toDigits false (Int.ofNat_le.mp high) ends
    obtain ⟨c, cs, hcs⟩ := List.exists_cons_of_ne_nil (Nat.toDigits_ne_nil (n := n) (b := 10))
    have hdigit : isDigit c = true := isDigit_of_mem_toDigits (n := n) (hcs ▸ List.mem_cons_self)
    rw [hcs] at hnumber hdigits
    rw [hdigits, List.cons_append, number_of_digit _ hdigit]
    exact hnumber
  | negSucc n =>
    have hsize : n + 1 ≤ 9223372036854775808 := by omega
    have hfits : n + 1 ≤ mostUnsigned := Nat.le_trans hsize (by decide)
    rw [toList_negSucc, List.cons_append, number, unsignedNumber_toDigits true hfits ends]
    simp only [Bool.not_true, Bool.false_eq_true, if_false]
    rw [if_neg (by omega), Int.negSucc_eq]
    rfl

end Numbers

section Strings

theorem unit?_low : ∀ n < 0x20,
    unit? '0' '0' (hexDigit (n / 16)) (hexDigit (n % 16)) = some n := by
  decide

/-- A character is escaped by a letter, by its number, or not at all. -/
theorem escapeChar_cases (c : Char) :
    (∃ e, escapeChar c = ['\\', e] ∧ e ≠ 'u' ∧ shortEscape? e = some c) ∨
      (c.toNat < 0x20 ∧ escapeChar c =
        ['\\', 'u', '0', '0', hexDigit (c.toNat / 16), hexDigit (c.toNat % 16)]) ∨
      (escapeChar c = [c] ∧ c ≠ '"' ∧ ¬(c.toNat < 0x20 ∨ c = '\\')) := by
  unfold escapeChar
  split_ifs with quote slash back feed line return_ tab low
  · exact .inl ⟨'"', rfl, by decide, by rw [quote]; rfl⟩
  · exact .inl ⟨'\\', rfl, by decide, by rw [slash]; rfl⟩
  · exact .inl ⟨'b', rfl, by decide, by rw [back]; rfl⟩
  · exact .inl ⟨'f', rfl, by decide, by rw [feed]; rfl⟩
  · exact .inl ⟨'n', rfl, by decide, by rw [line]; rfl⟩
  · exact .inl ⟨'r', rfl, by decide, by rw [return_]; rfl⟩
  · exact .inl ⟨'t', rfl, by decide, by rw [tab]; rfl⟩
  · exact .inr (.inl ⟨low, rfl⟩)
  · exact .inr (.inr ⟨rfl, quote, by simp [low, slash]⟩)

/-- An escaped character is read as itself. -/
theorem stringBody_escapeChar (c : Char) (r : List Char) :
    stringBody (escapeChar c ++ r) = (stringBody r).map fun (cs, r) => (c :: cs, r) := by
  rcases escapeChar_cases c with ⟨e, he, hu, hread⟩ | ⟨hlow, he⟩ | ⟨he, hquote, hplain⟩
  · rw [he]
    simp [stringBody, hu, hread]
  · have hunit := unit?_low c.toNat hlow
    have hhigh : isHighSurrogate c.toNat = false := by simp [isHighSurrogate]; omega
    have hlower : isLowSurrogate c.toNat = false := by simp [isLowSurrogate]; omega
    rw [he]
    simp [stringBody, hunit, hhigh, hlower]
  · rw [he]
    simp only [List.singleton_append]
    rw [stringBody]
    · rw [if_neg hplain]
    · exact fun h => hquote h
    · rintro _ _ _ _ _ rfl
      simp at hplain
    · rintro _ _ rfl
      simp at hplain

theorem stringBody_quoted (cs r : List Char) :
    stringBody (cs.flatMap escapeChar ++ '"' :: r) = some (cs, r) := by
  induction cs with
  | nil => rfl
  | cons c cs ih =>
    rw [List.flatMap_cons, List.append_assoc, stringBody_escapeChar, ih]
    rfl

end Strings

section Values

theorem toList_quote (s : String) :
    (quote s).toList = '"' :: (s.toList.flatMap escapeChar ++ ['"']) :=
  String.toList_ofList

theorem value_quote (fuel depth : Nat) (s : String) (r : List Char) :
    value (fuel + 1) depth ((quote s).toList ++ r) = some (.text s, r) := by
  rw [toList_quote, List.cons_append, List.append_assoc, value]
  simp [stringBody_quoted]

/-- What begins as a number is read as one. -/
theorem value_of_number {c : Char} {s : List Char} (fuel depth : Nat)
    (first : isDigit c = true ∨ c = '-') :
    value (fuel + 1) depth (c :: s) = number (c :: s) := by
  have hne : ∀ d, isDigit d = false → d ≠ '-' → c ≠ d := by
    rintro d hd hminus rfl
    rcases first with first | first
    · rw [hd] at first
      cases first
    · exact hminus first
  rw [value]
  · rintro r ⟨⟩
    exact hne 'n' (by decide) (by decide) rfl
  · rintro r ⟨⟩
    exact hne 't' (by decide) (by decide) rfl
  · rintro r ⟨⟩
    exact hne 'f' (by decide) (by decide) rfl
  · rintro r ⟨⟩
    exact hne '"' (by decide) (by decide) rfl
  · rintro r ⟨⟩
    exact hne '[' (by decide) (by decide) rfl
  · rintro r ⟨⟩
    exact hne '{' (by decide) (by decide) rfl

/-- A value that reads back where containers may nest less than `depth` deep. -/
inductive Readable : (depth : Nat) → Json → Prop
  | null (depth : Nat) : Readable depth .null
  | bool (depth : Nat) (b : Bool) : Readable depth (.bool b)
  | number (depth : Nat) (n : Int) (low : -9223372036854775808 ≤ n) (high : n ≤ mostUnsigned) :
      Readable depth (.number n)
  | text (depth : Nat) (s : String) : Readable depth (.text s)
  | array {depth : Nat} {items : List Json} (nests : 0 < depth)
      (all : ∀ x ∈ items, Readable depth x) : Readable (depth + 1) (.array items)
  | object {depth : Nat} {fields : List (String × Json)} (nests : 0 < depth)
      (all : ∀ f ∈ fields, Readable depth f.2) : Readable (depth + 1) (.object fields)

/-- The text begins with what is neither a blank nor the end of a list. -/
theorem Readable.first {depth : Nat} {x : Json} (h : Readable depth x) :
    ∃ c cs, x.print.toList = c :: cs ∧ isBlank c = false ∧ c ≠ ']' := by
  cases h with
  | null => exact ⟨'n', _, rfl, by decide, by decide⟩
  | bool _ b =>
    cases b with
    | true => exact ⟨'t', _, rfl, by decide, by decide⟩
    | false => exact ⟨'f', _, rfl, by decide, by decide⟩
  | number _ n low high =>
    obtain ⟨c, cs, hcs, hc⟩ := first_toString n
    have hne : ∀ d, isDigit d = false → d ≠ '-' → c ≠ d := by
      rintro d hd hminus rfl
      simp [hd, hminus] at hc
    refine ⟨c, cs, hcs, ?_, hne ']' (by decide) (by decide)⟩
    simp only [isBlank, Bool.or_eq_false_iff, decide_eq_false_iff_not]
    exact ⟨⟨⟨hne ' ' (by decide) (by decide), hne '\n' (by decide) (by decide)⟩,
      hne '\t' (by decide) (by decide)⟩, hne '\r' (by decide) (by decide)⟩
  | text _ s => exact ⟨'"', _, toList_quote s, by decide, by decide⟩
  | array =>
    rw [print, String.toList_append, String.toList_append]
    exact ⟨'[', _, rfl, by decide, by decide⟩
  | object =>
    rw [print, String.toList_append, String.toList_append]
    exact ⟨'{', _, rfl, by decide, by decide⟩

/-- Blanks are passed over, and there are none where a value begins. -/
theorem Readable.skipBlanks_eq {depth : Nat} {x : Json} (h : Readable depth x) (r : List Char) :
    skipBlanks (x.print.toList ++ r) = x.print.toList ++ r := by
  obtain ⟨c, cs, hcs, hblank, _⟩ := h.first
  rw [hcs, List.cons_append]
  exact List.dropWhile_cons_of_neg (by simp [hblank])

theorem skipBlanks_cons {c : Char} (r : List Char) (h : isBlank c = false) :
    skipBlanks (c :: r) = c :: r :=
  List.dropWhile_cons_of_neg (by simp [h])

/-- With fuel enough for its text the value is read back. -/
def ReadsBack (depth : Nat) (x : Json) : Prop :=
  ∀ fuel r, 2 * x.print.toList.length < fuel → EndsNumber r →
    value fuel depth (x.print.toList ++ r) = some (x, r)

section Items
variable {depth : Nat} {x : Json} {xs : List Json} {k : String} {fs : List (String × Json)}

theorem toList_printItems (x : Json) (xs : List Json) :
    (printItems (x :: xs)).toList =
      x.print.toList ++ if xs = [] then [] else ',' :: (printItems xs).toList := by
  cases xs <;> simp [printItems]

theorem toList_printFields (k : String) (x : Json) (fs : List (String × Json)) :
    (printFields ((k, x) :: fs)).toList =
      (quote k).toList ++ ':' ::
        (x.print.toList ++ if fs = [] then [] else ',' :: (printFields fs).toList) := by
  cases fs <;> simp [printFields]

/-- The items of a list are read back if each of them is. -/
theorem items_printItems (readable : ∀ y ∈ x :: xs, Readable depth y)
    (back : ∀ y ∈ x :: xs, ReadsBack depth y) (fuel : Nat) (r : List Char)
    (enough : 2 * (printItems (x :: xs)).toList.length + 1 < fuel) :
    items fuel depth ((printItems (x :: xs)).toList ++ ']' :: r) = some (x :: xs, r) := by
  induction xs generalizing x fuel with
  | nil =>
    obtain ⟨fuel, rfl⟩ := Nat.exists_eq_succ_of_ne_zero (Nat.ne_zero_of_lt enough)
    simp only [toList_printItems, if_true, List.append_nil] at enough ⊢
    have hvalue := back x List.mem_cons_self fuel (']' :: r) (by omega)
      (.cons r (by decide) (by decide))
    rw [items, hvalue]
    simp only [skipBlanks_cons r (by decide : isBlank ']' = false)]
  | cons y ys ih =>
    obtain ⟨fuel, rfl⟩ := Nat.exists_eq_succ_of_ne_zero (Nat.ne_zero_of_lt enough)
    obtain ⟨_, hreadable⟩ := List.forall_mem_cons.mp readable
    obtain ⟨hx, hback⟩ := List.forall_mem_cons.mp back
    rw [toList_printItems, if_neg (List.cons_ne_nil y ys)] at enough ⊢
    simp only [List.length_append, List.length_cons] at enough
    have hvalue := hx fuel (',' :: ((printItems (y :: ys)).toList ++ ']' :: r)) (by omega)
      (.cons _ (by decide) (by decide))
    have hskip : skipBlanks ((printItems (y :: ys)).toList ++ ']' :: r) =
        (printItems (y :: ys)).toList ++ ']' :: r := by
      rw [toList_printItems, List.append_assoc]
      exact (hreadable y List.mem_cons_self).skipBlanks_eq _
    rw [List.append_assoc, List.cons_append, items, hvalue]
    simp only [skipBlanks_cons _ (by decide : isBlank ',' = false), hskip,
      ih hreadable hback fuel (by omega), Option.map_some]

/-- So are the fields of an object. -/
theorem fields_printFields (readable : ∀ f ∈ (k, x) :: fs, Readable depth f.2)
    (back : ∀ f ∈ (k, x) :: fs, ReadsBack depth f.2) (fuel : Nat) (r : List Char)
    (enough : 2 * (printFields ((k, x) :: fs)).toList.length + 1 < fuel) :
    fields fuel depth ((printFields ((k, x) :: fs)).toList ++ '}' :: r) =
      some ((k, x) :: fs, r) := by
  induction fs generalizing k x fuel with
  | nil =>
    obtain ⟨fuel, rfl⟩ := Nat.exists_eq_succ_of_ne_zero (Nat.ne_zero_of_lt enough)
    simp only [toList_printFields, if_true, List.append_nil] at enough ⊢
    simp only [List.length_append, List.length_cons] at enough
    have hvalue := back (k, x) List.mem_cons_self fuel ('}' :: r) (by simp only; omega)
      (.cons r (by decide) (by decide))
    have hskip := (readable (k, x) List.mem_cons_self).skipBlanks_eq ('}' :: r)
    simp only [toList_quote, List.cons_append, List.append_assoc, List.nil_append, fields,
      stringBody_quoted, skipBlanks_cons _ (by decide : isBlank ':' = false), hskip, hvalue,
      skipBlanks_cons r (by decide : isBlank '}' = false), String.ofList_toList]
  | cons g fs ih =>
    obtain ⟨fuel, rfl⟩ := Nat.exists_eq_succ_of_ne_zero (Nat.ne_zero_of_lt enough)
    obtain ⟨l, y⟩ := g
    obtain ⟨hread, hreadable⟩ := List.forall_mem_cons.mp readable
    obtain ⟨hx, hback⟩ := List.forall_mem_cons.mp back
    rw [toList_printFields, if_neg (List.cons_ne_nil (l, y) fs)] at enough ⊢
    simp only [List.length_append, List.length_cons] at enough
    have hvalue := hx fuel (',' :: ((printFields ((l, y) :: fs)).toList ++ '}' :: r))
      (by simp only; omega) (.cons _ (by decide) (by decide))
    have hskip := hread.skipBlanks_eq (',' :: ((printFields ((l, y) :: fs)).toList ++ '}' :: r))
    have hnext : skipBlanks ((printFields ((l, y) :: fs)).toList ++ '}' :: r) =
        (printFields ((l, y) :: fs)).toList ++ '}' :: r := by
      rw [toList_printFields, toList_quote]
      exact skipBlanks_cons _ (by decide)
    simp only [toList_quote, List.cons_append, List.append_assoc, List.nil_append, fields,
      stringBody_quoted, skipBlanks_cons _ (by decide : isBlank ':' = false), hskip, hvalue,
      skipBlanks_cons _ (by decide : isBlank ',' = false), hnext,
      ih hreadable hback fuel (by omega), Option.map_some, String.ofList_toList]

end Items

theorem toList_print_array (xs : List Json) (r : List Char) :
    (print (.array xs)).toList ++ r = '[' :: ((printItems xs).toList ++ ']' :: r) := by
  simp [print]

theorem toList_print_object (fs : List (String × Json)) (r : List Char) :
    (print (.object fs)).toList ++ r = '{' :: ((printFields fs).toList ++ '}' :: r) := by
  simp [print]

theorem value_array {depth fuel : Nat} {xs : List Json} {r : List Char} (nests : 0 < depth)
    (readable : ∀ x ∈ xs, Readable depth x) (back : ∀ x ∈ xs, ReadsBack depth x)
    (enough : 2 * (printItems xs).toList.length + 1 < fuel) :
    value (fuel + 1) (depth + 1) ('[' :: ((printItems xs).toList ++ ']' :: r)) =
      some (.array xs, r) := by
  have hdeep : ¬depth + 1 ≤ 1 := by omega
  cases xs with
  | nil =>
    rw [value, if_neg hdeep]
    rfl
  | cons x xs =>
    have hx := readable x List.mem_cons_self
    obtain ⟨c, cs, hcs, _, hne⟩ := hx.first
    have hitems := items_printItems readable back fuel r enough
    have hskip : skipBlanks ((printItems (x :: xs)).toList ++ ']' :: r) =
        (printItems (x :: xs)).toList ++ ']' :: r := by
      rw [toList_printItems, List.append_assoc]
      exact hx.skipBlanks_eq _
    rw [value, if_neg hdeep, hskip, Nat.add_sub_cancel]
    rw [toList_printItems, hcs, List.cons_append, List.cons_append] at hitems ⊢
    split
    · rename_i he
      exact absurd (List.cons.inj he).1 hne
    · rw [hitems]
      rfl

theorem value_object {depth fuel : Nat} {fs : List (String × Json)} {r : List Char}
    (nests : 0 < depth) (readable : ∀ f ∈ fs, Readable depth f.2)
    (back : ∀ f ∈ fs, ReadsBack depth f.2)
    (enough : 2 * (printFields fs).toList.length + 1 < fuel) :
    value (fuel + 1) (depth + 1) ('{' :: ((printFields fs).toList ++ '}' :: r)) =
      some (.object fs, r) := by
  have hdeep : ¬depth + 1 ≤ 1 := by omega
  cases fs with
  | nil =>
    rw [value, if_neg hdeep]
    rfl
  | cons f fs =>
    obtain ⟨k, x⟩ := f
    have hfields := fields_printFields readable back fuel r enough
    rw [toList_printFields, toList_quote, List.cons_append, List.cons_append] at hfields ⊢
    rw [value, if_neg hdeep, Nat.add_sub_cancel, skipBlanks_cons _ (by decide)]
    split
    · rename_i he
      exact absurd (List.cons.inj he).1 (by decide)
    · rw [hfields]
      rfl

theorem Readable.readsBack {depth : Nat} {x : Json} (h : Readable depth x) :
    ReadsBack depth x := by
  induction h with
  | null depth =>
    intro fuel r enough _
    obtain ⟨fuel, rfl⟩ := Nat.exists_eq_succ_of_ne_zero (Nat.ne_zero_of_lt enough)
    rfl
  | bool depth b =>
    intro fuel r enough _
    obtain ⟨fuel, rfl⟩ := Nat.exists_eq_succ_of_ne_zero (Nat.ne_zero_of_lt enough)
    cases b <;> rfl
  | number depth n low high =>
    intro fuel r enough ends
    obtain ⟨fuel, rfl⟩ := Nat.exists_eq_succ_of_ne_zero (Nat.ne_zero_of_lt enough)
    obtain ⟨c, cs, hcs, hc⟩ := first_toString n
    have hnumber := number_toString low high ends
    rw [hcs, List.cons_append] at hnumber
    rw [print, hcs, List.cons_append, value_of_number fuel depth hc, hnumber]
  | text depth s =>
    intro fuel r enough _
    obtain ⟨fuel, rfl⟩ := Nat.exists_eq_succ_of_ne_zero (Nat.ne_zero_of_lt enough)
    exact value_quote fuel depth s r
  | @array depth xs nests all ih =>
    intro fuel r enough _
    obtain ⟨fuel, rfl⟩ := Nat.exists_eq_succ_of_ne_zero (Nat.ne_zero_of_lt enough)
    have hlength := congrArg List.length (toList_print_array xs [])
    simp only [List.length_append, List.length_cons, List.length_nil] at hlength
    rw [toList_print_array]
    exact value_array nests all ih (by omega)
  | @object depth fs nests all ih =>
    intro fuel r enough _
    obtain ⟨fuel, rfl⟩ := Nat.exists_eq_succ_of_ne_zero (Nat.ne_zero_of_lt enough)
    have hlength := congrArg List.length (toList_print_object fs [])
    simp only [List.length_append, List.length_cons, List.length_nil] at hlength
    rw [toList_print_object]
    exact value_object nests all ih (by omega)

end Values

end Read

open Read in
/-- The text of a value is read as that value. -/
theorem parse?_print {x : Json} (h : Readable deepest x) : parse? x.print = some x := by
  have hskip := h.skipBlanks_eq []
  rw [List.append_nil] at hskip
  have hvalue := h.readsBack (2 * x.print.toList.length + 2) [] (by omega) endsNumber_nil
  rw [List.append_nil] at hvalue
  simp only [parse?, hskip, hvalue]
  rfl

end DocRoot.Json
