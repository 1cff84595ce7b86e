import DocRoot.Utf8

/-!
# Text and its bytes

Well-formed bytes are the bytes of exactly one text, so reading and writing are inverse
in both directions. A byte below 0x80 in written text is always a character of its own.
What is well-formed here is so for the standard library.
-/

set_option autoImplicit false

namespace DocRoot.Utf8

section Chars

theorem toNat_ofNat {n : Nat} (h : n.isValidChar) : (Char.ofNat n).toNat = n := by
  rw [Char.ofNat, dif_pos h]
  rfl

theorem encodeChar_of_lt {c : Char} (h : c.toNat < 0x80) :
    encodeChar c = [UInt8.ofNat c.toNat] := by
  simp [encodeChar, h]

theorem le_of_mem_encodeChar {c : Char} (h : 0x80 ≤ c.toNat) {b : UInt8} (hb : b ∈ encodeChar c) :
    0x80 ≤ b.toNat := by
  have hv : c.toNat < 0xD800 ∨ (0xDFFF < c.toNat ∧ c.toNat < 0x110000) := c.valid
  simp only [encodeChar, if_neg (Nat.not_lt.mpr h)] at hb
  split at hb
  · simp only [List.mem_cons, List.not_mem_nil, or_false] at hb
    rcases hb with rfl | rfl <;> rw [UInt8.toNat_ofNat'] <;> omega
  · split at hb
    · simp only [List.mem_cons, List.not_mem_nil, or_false] at hb
      rcases hb with rfl | rfl | rfl <;> rw [UInt8.toNat_ofNat'] <;> omega
    · simp only [List.mem_cons, List.not_mem_nil, or_false] at hb
      rcases hb with rfl | rfl | rfl | rfl <;> rw [UInt8.toNat_ofNat'] <;> omega

theorem mem_encodeChar_iff {c : Char} {b : UInt8} (hb : b.toNat < 0x80) :
    b ∈ encodeChar c ↔ c.toNat = b.toNat := by
  by_cases h : c.toNat < 0x80
  · rw [encodeChar_of_lt h, List.mem_singleton, ← UInt8.toNat_inj, UInt8.toNat_ofNat',
      Nat.mod_eq_of_lt (by omega)]
    exact eq_comm
  · constructor
    · intro hm
      have := le_of_mem_encodeChar (Nat.not_lt.mp h) hm
      omega
    · intro he
      omega

theorem mem_encode_iff {cs : List Char} {c : Char} (hc : c.toNat < 0x80) :
    UInt8.ofNat c.toNat ∈ encode cs ↔ c ∈ cs := by
  have hb : (UInt8.ofNat c.toNat).toNat = c.toNat := by
    rw [UInt8.toNat_ofNat', Nat.mod_eq_of_lt (by omega)]
  constructor
  · intro h
    obtain ⟨d, hd, hm⟩ := List.mem_flatMap.mp h
    rw [mem_encodeChar_iff (by omega), hb] at hm
    have hdc : d = c := Char.toNat_inj.mp hm
    exact hdc ▸ hd
  · intro h
    refine List.mem_flatMap.mpr ⟨c, h, ?_⟩
    rw [mem_encodeChar_iff (by omega), hb]

end Chars

section Reading
variable {a b c d : UInt8}

theorem isTail_iff : isTail b = true ↔ 0x80 ≤ b.toNat ∧ b.toNat ≤ 0xBF := by
  simp [isTail, UInt8.le_iff_toNat_le]

theorem ofNat_eq_iff {n : Nat} (h : n < 256) : UInt8.ofNat n = b ↔ n = b.toNat := by
  rw [← UInt8.toNat_inj, UInt8.toNat_ofNat', Nat.mod_eq_of_lt h]

theorem tailCount_eq_zero (h : tailCount a = some 0) : a.toNat < 0x80 := by
  simp only [tailCount, UInt8.lt_iff_toNat_lt] at h
  split at h
  · assumption
  · repeat' split at h
    all_goals simp at h

theorem tailCount_eq_one (h : tailCount a = some 1) : 0xC2 ≤ a.toNat ∧ a.toNat < 0xE0 := by
  simp only [tailCount, UInt8.lt_iff_toNat_lt, UInt8.reduceToNat] at h
  repeat' split at h
  all_goals simp at h
  omega

theorem tailCount_eq_two (h : tailCount a = some 2) : 0xE0 ≤ a.toNat ∧ a.toNat < 0xF0 := by
  simp only [tailCount, UInt8.lt_iff_toNat_lt, UInt8.reduceToNat] at h
  repeat' split at h
  all_goals simp at h
  omega

theorem tailCount_of_ne {n : Nat} (h : tailCount a = some n) (h0 : n ≠ 0) (h1 : n ≠ 1)
    (h2 : n ≠ 2) : 0xF0 ≤ a.toNat ∧ a.toNat < 0xF5 := by
  simp only [tailCount, UInt8.lt_iff_toNat_lt, UInt8.reduceToNat] at h
  repeat' split at h
  all_goals simp at h
  all_goals omega

/-- What the range of the second byte comes to in numbers. -/
theorem inSecond_bounds (h : inSecond a b = true) :
    (0x80 ≤ b.toNat ∧ b.toNat ≤ 0xBF) ∧ (a.toNat = 0xE0 → 0xA0 ≤ b.toNat) ∧
      (a.toNat = 0xED → b.toNat ≤ 0x9F) ∧ (a.toNat = 0xF0 → 0x90 ≤ b.toNat) ∧
      (a.toNat = 0xF4 → b.toNat ≤ 0x8F) := by
  refine ⟨isTail_iff.mp (isTail_of_inSecond h), ?_⟩
  simp only [inSecond, ← UInt8.toNat_inj, UInt8.reduceToNat] at h
  repeat' split at h
  all_goals simp only [Bool.and_eq_true, decide_eq_true_eq, UInt8.le_iff_toNat_le,
    UInt8.reduceToNat, isTail_iff] at h
  all_goals omega

theorem encodeChar_ofNat_toNat (h : tailCount a = some 0) :
    encodeChar (Char.ofNat a.toNat) = [a] := by
  have ha := tailCount_eq_zero h
  have hc : (Char.ofNat a.toNat).toNat = a.toNat := toNat_ofNat (Or.inl (by omega))
  rw [encodeChar_of_lt (by omega), hc]
  simp

theorem encodeChar_join2 (ha : tailCount a = some 1) (hb : isTail b = true) :
    encodeChar (join2 a b) = [a, b] := by
  have ha := tailCount_eq_one ha
  have hb := isTail_iff.mp hb
  have hv : (join2 a b).toNat = (a.toNat - 0xC0) * 64 + (b.toNat - 0x80) :=
    toNat_ofNat (Or.inl (by omega))
  simp only [encodeChar]
  rw [if_neg (by omega), if_pos (by omega)]
  simp only [List.cons.injEq, and_true]
  refine ⟨?_, ?_⟩ <;> rw [ofNat_eq_iff (by omega)] <;> omega

theorem encodeChar_join3 (ha : tailCount a = some 2) (hb : inSecond a b = true)
    (hc : isTail c = true) : encodeChar (join3 a b c) = [a, b, c] := by
  have ha := tailCount_eq_two ha
  have hb := inSecond_bounds hb
  have hc := isTail_iff.mp hc
  have hvalid : ((a.toNat - 0xE0) * 4096 + (b.toNat - 0x80) * 64 +
      (c.toNat - 0x80)).isValidChar := by
    unfold Nat.isValidChar
    omega
  have hv : (join3 a b c).toNat =
      (a.toNat - 0xE0) * 4096 + (b.toNat - 0x80) * 64 + (c.toNat - 0x80) := toNat_ofNat hvalid
  simp only [encodeChar]
  rw [if_neg (by omega), if_neg (by omega), if_pos (by omega)]
  simp only [List.cons.injEq, and_true]
  refine ⟨?_, ?_, ?_⟩ <;> rw [ofNat_eq_iff (by omega)] <;> omega

theorem encodeChar_join4 (ha : 0xF0 ≤ a.toNat ∧ a.toNat < 0xF5) (hb : inSecond a b = true)
    (hc : isTail c = true) (hd : isTail d = true) : encodeChar (join4 a b c d) = [a, b, c, d] := by
  have hb := inSecond_bounds hb
  have hc := isTail_iff.mp hc
  have hd := isTail_iff.mp hd
  have hvalid : ((a.toNat - 0xF0) * 262144 + (b.toNat - 0x80) * 4096 + (c.toNat - 0x80) * 64 +
      (d.toNat - 0x80)).isValidChar := by
    unfold Nat.isValidChar
    omega
  have hv : (join4 a b c d).toNat = (a.toNat - 0xF0) * 262144 + (b.toNat - 0x80) * 4096 +
      (c.toNat - 0x80) * 64 + (d.toNat - 0x80) := toNat_ofNat hvalid
  simp only [encodeChar]
  rw [if_neg (by omega), if_neg (by omega), if_neg (by omega)]
  simp only [List.cons.injEq, and_true]
  refine ⟨?_, ?_, ?_, ?_⟩ <;> rw [ofNat_eq_iff (by omega)] <;> omega

theorem of_some_cons_eq_map {c : Char} {l : List (Option Char)} {cs : List Char}
    (h : some c :: l = cs.map some) : ∃ ds, cs = c :: ds ∧ l = ds.map some := by
  obtain ⟨x, ds, rfl, hx, hl⟩ := List.map_eq_cons_iff.mp h.symm
  obtain rfl := Option.some.inj hx
  exact ⟨ds, rfl, hl.symm⟩

theorem none_cons_ne_map (l : List (Option Char)) (cs : List Char) : none :: l ≠ cs.map some := by
  cases cs <;> simp

/-- Bytes that are read without a flaw are the bytes of what is read. -/
theorem encode_of_scan {bs : Bytes} {cs : List Char} (h : scan bs = cs.map some) :
    encode cs = bs := by
  fun_induction scan bs generalizing cs with
  | case1 =>
    obtain rfl : cs = [] := by simpa using h.symm
    rfl
  | case3 a r ha ih =>
    obtain ⟨ds, rfl, hr⟩ := of_some_cons_eq_map h
    rw [encode_cons, encodeChar_ofNat_toNat ha, ih hr, List.singleton_append]
  | case5 a ha b r hb ih =>
    obtain ⟨ds, rfl, hr⟩ := of_some_cons_eq_map h
    rw [encode_cons, encodeChar_join2 ha hb, ih hr]
    rfl
  | case9 a ha b hb c r hc ih =>
    obtain ⟨ds, rfl, hr⟩ := of_some_cons_eq_map h
    rw [encode_cons, encodeChar_join3 ha hb hc, ih hr]
    rfl
  | case15 a n h2 h1 h0 ha b hb c hc d r hd ih =>
    obtain ⟨ds, rfl, hr⟩ := of_some_cons_eq_map h
    rw [encode_cons, encodeChar_join4 (tailCount_of_ne ha h2 h1 h0) hb hc hd, ih hr]
    rfl
  | _ => exact absurd h (none_cons_ne_map _ _)

theorem encode_of_decode? {bs : Bytes} {cs : List Char} (h : decode? bs = some cs) :
    encode cs = bs :=
  encode_of_scan (eq_map_some_of_allSome h)

theorem utf8_of_text? {bs : Bytes} {s : String} (h : text? bs = some s) : utf8 s = bs := by
  obtain ⟨cs, hcs, rfl⟩ := Option.map_eq_some_iff.mp h
  simpa [utf8] using encode_of_decode? hcs

end Reading

section Ascii
variable {a b : UInt8}

theorem tailCount_of_lt (h : b.toNat < 0x80) : tailCount b = some 0 := by
  rw [tailCount, if_pos (UInt8.lt_iff_toNat_lt.mpr h)]

theorem isTail_of_lt (h : b.toNat < 0x80) : isTail b = false := by
  rw [← Bool.not_eq_true, isTail_iff]
  omega

theorem inSecond_of_lt (h : b.toNat < 0x80) : inSecond a b = false := by
  cases hs : inSecond a b with
  | false => rfl
  | true => exact absurd (isTail_of_inSecond hs) (by simp [isTail_of_lt h])

theorem scan_cons_of_lt (h : b.toNat < 0x80) (r : Bytes) :
    scan (b :: r) = some (Char.ofNat b.toNat) :: scan r := by
  rw [scan.eq_def]
  simp only [tailCount_of_lt h]

/-- A text of such bytes alone has one byte for each character. -/
theorem encode_map_ofNat {bs : Bytes} (h : ∀ b ∈ bs, b.toNat < 0x80) :
    encode (bs.map fun b => Char.ofNat b.toNat) = bs := by
  induction bs with
  | nil => rfl
  | cons b bs ih =>
    obtain ⟨hb, hbs⟩ := List.forall_mem_cons.mp h
    rw [List.map_cons, encode_cons, ih hbs, encodeChar_ofNat_toNat (tailCount_of_lt hb)]
    rfl

/-- A byte below 0x80 ends whatever stands before it, and what follows is read apart. -/
theorem scan_append_cons_of_lt (h : b.toNat < 0x80) (x y : Bytes) :
    scan (x ++ b :: y) = scan x ++ some (Char.ofNat b.toNat) :: scan y := by
  have hb := scan_cons_of_lt h y
  have ht := isTail_of_lt h
  have hs : ∀ a, inSecond a b = false := fun _ => inSecond_of_lt h
  fun_induction scan x with
  | case1 => exact hb
  | _ =>
    -- a part that breaks off before the byte is one flaw, as it is at the end of the input
    simp only [List.cons_append, List.nil_append] at *
    rw [scan.eq_def]
    simp only [*, Bool.false_eq_true, if_true, if_false]

theorem allSome_append_cons (l r : List (Option Char)) (c : Char) :
    allSome (l ++ some c :: r) = (allSome l).bind fun cs => (allSome r).map (cs ++ c :: ·) := by
  induction l with
  | nil => cases h : allSome r <;> simp [allSome, h]
  | cons x l ih =>
    cases x with
    | none => rfl
    | some d =>
      rw [List.cons_append, allSome, ih, allSome]
      cases allSome l <;> cases allSome r <;> rfl

/-- What stands on the two sides of a slash is text of its own. -/
theorem decode?_append_slash (x y : Bytes) :
    decode? (x ++ 0x2F :: y) = (decode? x).bind fun cs => (decode? y).map (cs ++ '/' :: ·) := by
  rw [decode?, scan_append_cons_of_lt (by decide), allSome_append_cons]
  rfl

end Ascii

section Standard

/-- The standard library writes a character the same way. -/
theorem encodeChar_eq (c : Char) : encodeChar c = String.utf8EncodeChar c := by
  have hv : c.toNat < 0xD800 ∨ (0xDFFF < c.toNat ∧ c.toNat < 0x110000) := c.valid
  have hval : c.val.toNat = c.toNat := rfl
  have hone : c.toNat < 0x80 ↔ c.toNat ≤ 0x7F := by omega
  have htwo : c.toNat < 0x800 ↔ c.toNat ≤ 0x7FF := by omega
  have hthree : c.toNat < 0x10000 ↔ c.toNat ≤ 0xFFFF := by omega
  simp only [encodeChar, String.utf8EncodeChar, hval, hone, htwo, hthree]
  split
  · rfl
  split
  · have hlead : 0xC0 + c.toNat / 64 = c.toNat / 64 % 32 + 0xC0 := by omega
    rw [hlead, Nat.add_comm 0x80]
  split
  · have hlead : 0xE0 + c.toNat / 4096 = c.toNat / 4096 % 16 + 0xE0 := by omega
    simp only [hlead, Nat.add_comm 0x80]
  · have hlead : 0xF0 + c.toNat / 262144 = c.toNat / 262144 % 8 + 0xF0 := by omega
    simp only [hlead, Nat.add_comm 0x80]

theorem utf8Encode_eq (cs : List Char) : List.utf8Encode cs = (encode cs).toByteArray := by
  have hchar : encodeChar = String.utf8EncodeChar := funext encodeChar_eq
  rw [List.utf8Encode, encode, hchar]

/-- The bytes of texts are those that the standard library takes for UTF-8. -/
theorem isValidUTF8_iff {bs : Bytes} :
    (List.toByteArray bs).IsValidUTF8 ↔ ∃ s : String, utf8 s = bs := by
  constructor
  · rintro ⟨cs, h⟩
    rw [utf8Encode_eq, List.toByteArray_inj] at h
    refine ⟨String.ofList cs, ?_⟩
    rw [utf8, String.toList_ofList, h]
  · rintro ⟨s, rfl⟩
    exact ⟨s.toList, (utf8Encode_eq _).symm⟩

end Standard

end DocRoot.Utf8
