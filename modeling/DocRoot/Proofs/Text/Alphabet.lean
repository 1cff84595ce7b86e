import DocRoot.AccessLog.Moment
import DocRoot.Address.Ip
import DocRoot.Proofs.Utf8

/-!
# Texts over an alphabet

Which characters a number, an address or a date can be written in. A character below 0x80 that
none of the bytes of a text may stand for is not in the text.
-/

set_option autoImplicit false

namespace DocRoot

namespace Text

/-- The text is written in characters with this property. -/
def Over (p : Char → Prop) (s : String) : Prop := ∀ c ∈ s.toList, p c

instance (p : Char → Prop) [DecidablePred p] (s : String) : Decidable (Over p s) :=
  List.decidableBAll p s.toList

/-- All digits, as far as those of base sixteen, have the property. -/
def OnDigits (p : Char → Prop) : Prop := ∀ d < 16, p d.digitChar

instance (p : Char → Prop) [DecidablePred p] : Decidable (OnDigits p) :=
  Nat.decidableBallLT 16 fun d _ => p d.digitChar

variable {p : Char → Prop} {s u : String}

namespace Over

@[simp] theorem append_iff : Over p (s ++ u) ↔ Over p s ∧ Over p u := by
  simp only [Over, String.toList_append, List.forall_mem_append]

theorem ofList {cs : List Char} (h : ∀ c ∈ cs, p c) : Over p (String.ofList cs) := by
  intro c hc
  exact h c (by simpa using hc)

theorem ite {q : Prop} [Decidable q] (hs : Over p s) (hu : Over p u) :
    Over p (if q then s else u) := by
  split
  · exact hs
  · exact hu

theorem intercalate {sep : String} (hs : Over p sep) {parts : List String}
    (h : ∀ part ∈ parts, Over p part) : Over p (sep.intercalate parts) := by
  induction parts with
  | nil =>
    rintro c hc
    simp at hc
  | cons a parts ih =>
    obtain ⟨ha, hparts⟩ := List.forall_mem_cons.mp h
    cases parts with
    | nil => simpa using ha
    | cons b parts =>
      rw [String.intercalate_cons_cons]
      simp only [append_iff]
      exact ⟨⟨ha, hs⟩, ih hparts⟩

theorem digits (hd : OnDigits p) (base n : Nat) (hb : 1 < base) (hb' : base ≤ 16) :
    ∀ c ∈ Nat.toDigits base n, p c := by
  induction n using Nat.strongRecOn with
  | ind n ih =>
    intro c hc
    rw [Nat.toDigits_eq_if hb] at hc
    split at hc
    · obtain rfl := List.mem_singleton.mp hc
      exact hd _ (by omega)
    · rcases List.mem_append.mp hc with hc | hc
      · exact ih (n / base) (Nat.div_lt_self (by omega) hb) c hc
      · obtain rfl := List.mem_singleton.mp hc
        have := Nat.mod_lt n (by omega : base > 0)
        exact hd _ (by omega)

theorem number (hd : OnDigits p) (n : Nat) : Over p (toString n) := by
  intro c hc
  exact digits hd 10 n (by decide) (by decide) c (by simpa using hc)

theorem integer (hd : OnDigits p) (minus : p '-') (n : Int) : Over p (toString n) := by
  cases n with
  | ofNat n => exact number hd n
  | negSucc n =>
    have hminus : Over p "-" := by
      rintro c hc
      obtain rfl : c = '-' := by simpa using hc
      exact minus
    exact append_iff.mpr ⟨hminus, number hd (n + 1)⟩

end Over

/-- Different numbers are written differently. -/
theorem number_injective {m n : Nat} (h : toString m = toString n) : m = n := by
  have hdigits := congrArg String.toList h
  simp only [Nat.toString_eq_repr, Nat.toList_repr] at hdigits
  rw [← @Nat.ofDigitChars_ten_toDigits m, hdigits, Nat.ofDigitChars_ten_toDigits]

/-- A character below 0x80 is a byte of each text that has it. -/
theorem not_mem_of_bytes {ok : UInt8 → Bool} {c : Char} (ascii : c.toNat < 0x80)
    (bad : ok (UInt8.ofNat c.toNat) = false) (h : (utf8 s).all ok = true) : c ∉ s.toList := by
  intro hc
  have hb := List.all_eq_true.mp h _ ((Utf8.mem_encode_iff ascii).mpr hc)
  rw [bad] at hb
  cases hb

end Text

open Text

variable {p : Char → Prop}

namespace Ip

theorem over_octetsText (hd : OnDigits p) (dot : Over p ".") (os : List UInt8) :
    Over p (octetsText os) := by
  refine .intercalate dot ?_
  intro part hpart
  obtain ⟨o, _, rfl⟩ := List.mem_map.mp hpart
  exact .number hd _

theorem over_groupsText (hd : OnDigits p) (colon : Over p ":") (gs : List UInt16) :
    Over p (groupsText gs) := by
  refine .intercalate colon ?_
  intro part hpart
  obtain ⟨g, _, rfl⟩ := List.mem_map.mp hpart
  exact .ofList (Over.digits hd 16 _ (by decide) (by decide))

/-- An address is written in digits, points and colons. -/
theorem over_text (hd : OnDigits p) (dot : Over p ".") (colon : Over p ":")
    (mapped : Over p "::ffff:") (run : Over p "::") (ip : Ip) : Over p ip.text := by
  unfold text
  split
  · exact over_octetsText hd dot _
  · split
    · exact Over.append_iff.mpr ⟨mapped, over_octetsText hd dot _⟩
    · refine .ite ?_ (over_groupsText hd colon _)
      simp only [Over.append_iff, over_groupsText hd colon, run, and_self]

end Ip

namespace Moment

theorem over_padded (hd : OnDigits p) (width n : Nat) : Over p (padded width n) := by
  refine Over.append_iff.mpr ⟨.ofList ?_, .number hd n⟩
  intro c hc
  obtain rfl := List.eq_of_mem_replicate hc
  exact hd 0 (by decide)

theorem over_monthName (names : ∀ name ∈ monthNames, Over p name) (month : Nat) :
    Over p (monthName month) := by
  unfold monthName
  cases h : monthNames[month - 1]? with
  | none =>
    rintro c hc
    simp at hc
  | some name => exact names name (List.mem_of_getElem? h)

theorem over_sign {q : Prop} [Decidable q] (minus : Over p "-") (plus : Over p "+") :
    Over p (if q then "-" else "+") :=
  .ite minus plus

theorem over_yearText (hd : OnDigits p) (minus : Over p "-") (plus : Over p "+") (y : Int) :
    Over p (yearText y) :=
  .ite (over_padded hd _ _) (Over.append_iff.mpr ⟨over_sign minus plus, over_padded hd _ _⟩)

theorem over_offsetText (hd : OnDigits p) (minus : Over p "-") (plus : Over p "+") {mark : String}
    (hm : Over p mark) (offset : Int) : Over p (offsetText mark offset) := by
  simp only [offsetText, Over.append_iff, over_sign minus plus, hm, over_padded hd, and_self]

theorem over_clock (hd : OnDigits p) (colon : Over p ":") (t : Moment) : Over p t.clock := by
  simp only [clock, Over.append_iff, over_padded hd, colon, and_self]

end Moment

end DocRoot
