import DocRoot.Percent
import DocRoot.Proofs.Utf8

/-!
# Slashes and escapes

A slash is no hexadecimal digit, so no escape reaches over one, and what stands on its
two sides is decoded apart. No escape is written for a slash, and none writes one. `Decodes` is
the reading that decoding does.
-/

set_option autoImplicit false

namespace DocRoot.Percent

variable {b c : UInt8} {r : Bytes}

theorem decode_of_not_first (h : hexDigit? b = none) :
    decode (0x25 :: b :: r) = 0x25 :: decode (b :: r) := by
  cases r with
  | nil => rfl
  | cons c r => simp [decode, h]

theorem decode_of_not_second (h : hexDigit? c = none) :
    decode (0x25 :: b :: c :: r) = 0x25 :: decode (b :: c :: r) := by
  cases hb : hexDigit? b <;> simp [decode, h, hb]

theorem decode_append_slash (a b : Bytes) :
    decode (a ++ 0x2F :: b) = decode a ++ 0x2F :: decode b := by
  have hslash : hexDigit? 0x2F = none := rfl
  have hb : decode (0x2F :: b) = 0x2F :: decode b := decode_cons_of_ne (by decide) b
  fun_induction decode a with
  | case1 => exact hb
  | case2 x =>
    by_cases hx : x = 0x25
    · subst hx
      rw [List.singleton_append, decode_of_not_first hslash, hb]
      rfl
    · rw [List.singleton_append, decode_cons_of_ne hx, hb]
      rfl
  | case3 x y =>
    have hy : decode (y :: 0x2F :: b) = y :: 0x2F :: decode b := by
      by_cases he : y = 0x25
      · subst he
        rw [decode_of_not_first hslash, hb]
      · rw [decode_cons_of_ne he, hb]
    by_cases hx : x = 0x25
    · subst hx
      exact (decode_of_not_second hslash).trans (congrArg _ hy)
    · exact (decode_cons_of_ne hx _).trans (congrArg _ hy)
  | case4 y z r h l hz hy ih => exact (decode_escape hy hz _).trans (congrArg _ ih)
  | case5 y z r hnot ih =>
    simp only [List.cons_append] at ih ⊢
    rw [decode, if_pos rfl]
    split
    · rename_i h l hh hl
      exact absurd hl (hnot h l hh)
    · rw [ih]
  | case6 x y z r hx ih => exact (decode_cons_of_ne hx _).trans (congrArg _ ih)

section Escaped

/-- The text in which all that a link may not hold is escaped. -/
def text (s : String) : String :=
  String.ofList ((encode (utf8 s)).map fun b => Char.ofNat b.toNat)

variable {bs : Bytes} {s : String}

theorem isLinkSafe_upperHexDigit {n : UInt8} (h : n < 16) : isLinkSafe (upperHexDigit n) = true ∧
    upperHexDigit n ≠ 0x2F := by
  have all : ∀ k : Fin 16, isLinkSafe (upperHexDigit (.ofNat k)) = true ∧
      upperHexDigit (.ofNat k) ≠ 0x2F := by
    decide
  simpa using all ⟨n.toNat, by simpa [UInt8.lt_iff_toNat_lt] using h⟩

theorem div_lt (b : UInt8) : b / 16 < 16 := by
  have := b.toNat_lt
  rw [UInt8.lt_iff_toNat_lt, UInt8.toNat_div]
  simp
  omega

theorem mod_lt (b : UInt8) : b % 16 < 16 := by
  rw [UInt8.lt_iff_toNat_lt, UInt8.toNat_mod]
  exact Nat.mod_lt _ (by decide)

theorem mem_encodeByte (h : c ∈ encodeByte b) :
    (isLinkSafe c = true ∨ c = 0x25) ∧ (c = 0x2F → b = 0x2F) := by
  unfold encodeByte at h
  split at h
  · rename_i hsafe
    obtain rfl := List.mem_singleton.mp h
    exact ⟨Or.inl hsafe, id⟩
  · have hhi := isLinkSafe_upperHexDigit (div_lt b)
    have hlo := isLinkSafe_upperHexDigit (mod_lt b)
    simp only [List.mem_cons, List.not_mem_nil, or_false] at h
    rcases h with rfl | rfl | rfl
    · exact ⟨Or.inr rfl, fun he => absurd he (by decide)⟩
    · exact ⟨Or.inl hhi.1, fun he => absurd he hhi.2⟩
    · exact ⟨Or.inl hlo.1, fun he => absurd he hlo.2⟩

theorem mem_encode (h : c ∈ encode bs) : isLinkSafe c = true ∨ c = 0x25 := by
  obtain ⟨b, _, hb⟩ := List.mem_flatMap.mp h
  exact (mem_encodeByte hb).1

theorem slash_mem_of_mem_encode (h : 0x2F ∈ encode bs) : 0x2F ∈ bs := by
  obtain ⟨b, hbs, hb⟩ := List.mem_flatMap.mp h
  exact (mem_encodeByte hb).2 rfl ▸ hbs

theorem toNat_lt_of_isLinkSafe (h : isLinkSafe b = true) : b.toNat < 0x80 := by
  simp only [isLinkSafe, Bool.or_eq_true, Bool.and_eq_true, decide_eq_true_eq, beq_iff_eq,
    UInt8.le_iff_toNat_le, ← UInt8.toNat_inj] at h
  simp at h
  omega

theorem utf8_text (s : String) : utf8 (text s) = encode (utf8 s) := by
  rw [utf8, text, String.toList_ofList]
  apply Utf8.encode_map_ofNat
  intro b hb
  rcases mem_encode hb with hsafe | rfl
  · exact toNat_lt_of_isLinkSafe hsafe
  · decide

theorem encode_append (as bs : Bytes) : encode (as ++ bs) = encode as ++ encode bs :=
  List.flatMap_append

theorem text_append_slash (s : String) : text (s ++ "/") = text s ++ "/" := by
  apply utf8_injective
  have hslash : encode (utf8 "/") = utf8 "/" := by decide
  rw [utf8_text, utf8_append, utf8_append, utf8_text, encode_append, hslash]

theorem text_ne_empty (h : s ≠ "") : text s ≠ "" := by
  intro he
  have hdecode := decode_encode (utf8 s)
  rw [← utf8_text, he, utf8_empty, decode_nil, ← utf8_empty] at hdecode
  exact h (utf8_injective hdecode).symm

theorem slash_not_mem_text (h : '/' ∉ s.toList) : '/' ∉ (text s).toList := by
  intro hm
  have hbyte : 0x2F ∈ utf8 (text s) := (Utf8.mem_encode_iff (c := '/') (by decide)).mpr hm
  rw [utf8_text] at hbyte
  exact h ((Utf8.mem_encode_iff (c := '/') (by decide)).mp (slash_mem_of_mem_encode hbyte))

end Escaped

section Reading
variable {bs out : Bytes} {n : Nat}

/-- The number that a hexadecimal digit stands for, be it capital or small. -/
def DigitOf (b : UInt8) (n : Nat) : Prop :=
  (utf8 "0123456789ABCDEF")[n]? = some b ∨ (utf8 "0123456789abcdef")[n]? = some b

instance (b : UInt8) (n : Nat) : Decidable (DigitOf b n) := inferInstanceAs (Decidable (_ ∨ _))

def BeginsEscape (bs : Bytes) : Prop :=
  ∃ hi lo rest h l, bs = 0x25 :: hi :: lo :: rest ∧ DigitOf hi h ∧ DigitOf lo l

/-- What the bytes say, read once from left to right. An escape says the byte that its two
digits number, and a byte that begins no escape says itself. -/
inductive Decodes : Bytes → Bytes → Prop
  | nil : Decodes [] []
  | escape {hi lo : UInt8} {h l : Nat} {rest out : Bytes} : DigitOf hi h → DigitOf lo l →
      Decodes rest out → Decodes (0x25 :: hi :: lo :: rest) (UInt8.ofNat (16 * h + l) :: out)
  | plain {b : UInt8} {rest out : Bytes} : ¬BeginsEscape (b :: rest) → Decodes rest out →
      Decodes (b :: rest) (b :: out)

theorem hexDigit?_of_digitOf (h : DigitOf b n) : hexDigit? b = some (.ofNat n) := by
  have capital : ∀ k : Fin 16,
      hexDigit? ((utf8 "0123456789ABCDEF")[k]?.getD 0) = some (.ofNat k) := by
    decide
  have small : ∀ k : Fin 16,
      hexDigit? ((utf8 "0123456789abcdef")[k]?.getD 0) = some (.ofNat k) := by
    decide
  rcases h with h | h
  · obtain ⟨hn, _⟩ := List.getElem?_eq_some_iff.mp h
    simpa [h] using capital ⟨n, hn⟩
  · obtain ⟨hn, _⟩ := List.getElem?_eq_some_iff.mp h
    simpa [h] using small ⟨n, hn⟩

theorem digitOf_of_hexDigit? {v : UInt8} (h : hexDigit? b = some v) : DigitOf b v.toNat := by
  have all : ∀ k : Fin 256,
      (hexDigit? (.ofNat k)).all (fun v => DigitOf (.ofNat k) v.toNat) = true := by
    decide +kernel
  simpa [h] using all ⟨b.toNat, b.toNat_lt⟩

theorem beginsEscape_iff :
    BeginsEscape bs ↔ ∃ hi lo rest h l, bs = 0x25 :: hi :: lo :: rest ∧
      hexDigit? hi = some h ∧ hexDigit? lo = some l := by
  constructor
  · rintro ⟨hi, lo, rest, h, l, rfl, hh, hl⟩
    exact ⟨hi, lo, rest, _, _, rfl, hexDigit?_of_digitOf hh, hexDigit?_of_digitOf hl⟩
  · rintro ⟨hi, lo, rest, h, l, rfl, hh, hl⟩
    exact ⟨hi, lo, rest, _, _, rfl, digitOf_of_hexDigit? hh, digitOf_of_hexDigit? hl⟩

theorem decode_plain (h : ¬BeginsEscape (b :: r)) : decode (b :: r) = b :: decode r := by
  by_cases hb : b = 0x25
  · subst hb
    match r with
    | [] => rfl
    | [_] => rfl
    | c :: d :: r =>
      cases hc : hexDigit? c with
      | none => exact decode_of_not_first hc
      | some v =>
        cases hd : hexDigit? d with
        | none => exact decode_of_not_second hd
        | some w => exact absurd (beginsEscape_iff.mpr ⟨c, d, r, v, w, rfl, hc, hd⟩) h
  · exact decode_cons_of_ne hb r

/-- Decoding is this reading, so it never reads again what it has written. -/
theorem decodes_iff : Decodes bs out ↔ decode bs = out := by
  constructor
  · intro h
    induction h with
    | nil => rfl
    | @escape _ _ h l _ _ hh hl _ ih =>
      have hbyte : 16 * UInt8.ofNat h + UInt8.ofNat l = UInt8.ofNat (16 * h + l) := by
        simp
      rw [decode_escape (hexDigit?_of_digitOf hh) (hexDigit?_of_digitOf hl), ih, hbyte]
    | plain hnot _ ih => rw [decode_plain hnot, ih]
  · rintro rfl
    have hshort : ∀ c d : UInt8, ¬BeginsEscape [c] ∧ ¬BeginsEscape [c, d] := by
      intro c d
      constructor <;> rintro ⟨_, _, _, _, _, h, _⟩ <;> simp at h
    fun_induction decode bs with
    | case1 => exact .nil
    | case2 c => exact .plain (hshort c c).1 .nil
    | case3 c d => exact .plain (hshort c d).2 (.plain (hshort d d).1 .nil)
    | case4 c d r h l hd hc ih =>
      have hbyte : 16 * h + l = UInt8.ofNat (16 * h.toNat + l.toNat) := by simp
      rw [hbyte]
      exact .escape (digitOf_of_hexDigit? hc) (digitOf_of_hexDigit? hd) ih
    | case5 c d r hnot ih =>
      refine .plain ?_ ih
      rintro ⟨_, _, _, _, _, ⟨⟩, hh, hl⟩
      exact hnot _ _ (hexDigit?_of_digitOf hh) (hexDigit?_of_digitOf hl)
    | case6 a c d r ha ih =>
      refine .plain ?_ ih
      rintro ⟨_, _, _, _, _, heq, _⟩
      exact ha (List.cons.inj heq).1

end Reading

end DocRoot.Percent
