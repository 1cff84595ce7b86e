import DocRoot.Address.Socket
import Mathlib.Data.List.Induction

/-!
# Numbers inside an address

A number is spelled by its digits, of either case and behind any zeros. The reader of a number
takes all digits that come, and accepts exactly the spellings that its form allows.
-/

set_option autoImplicit false

namespace DocRoot.SocketAddr

variable {radix n d : Nat} {c : Char} {s t r : List Char} {ds : List Nat}

/-- The digits a number is written with, of either case and behind any zeros. -/
def Spells (radix : Nat) (t : List Char) (n : Nat) : Prop :=
  ∃ zeros, t.map Char.toLower = List.replicate zeros '0' ++ Nat.toDigits radix n

section Digit

theorem toLower_of_le (h : 128 ≤ c.toNat) : c.toLower = c := by
  have hupper : ¬(c.val ≥ 'A'.val ∧ c.val ≤ 'Z'.val) := by
    rintro ⟨-, hle⟩
    have : c.toNat ≤ 90 := hle
    omega
  exact dif_neg hupper

theorem toNat_digitChar_lt (h : d < 16) : d.digitChar.toNat < 128 := by
  have table : ∀ e : Fin 16, e.val.digitChar.toNat < 128 := by decide
  exact table ⟨d, h⟩

theorem digitOf?_sixteen : digitOf? 16 c = some d ↔ d < 16 ∧ c.toLower = d.digitChar := by
  by_cases hc : c.toNat < 128
  · have table : ∀ k : Fin 128, ∀ e : Fin 16, digitOf? 16 (Char.ofNat k) = some e.val ↔
        (Char.ofNat k).toLower = e.val.digitChar := by
      decide +kernel
    have hentry : ∀ hd : d < 16, digitOf? 16 c = some d ↔ c.toLower = d.digitChar := by
      intro hd
      simpa using table ⟨c.toNat, hc⟩ ⟨d, hd⟩
    constructor
    · intro h
      have hd : d < 16 := by simpa using (Option.filter_eq_some_iff.mp h).2
      exact ⟨hd, (hentry hd).mp h⟩
    · rintro ⟨hd, h⟩
      exact (hentry hd).mpr h
  · have hle := Nat.not_lt.mp hc
    constructor
    · intro h
      have hnone : digitOf? 16 c = none := by
        rw [digitOf?, if_neg (by omega), if_neg (by omega), if_neg (by omega)]
        rfl
      rw [hnone] at h
      cases h
    · rintro ⟨hd, h⟩
      rw [toLower_of_le hle] at h
      exact absurd (h ▸ toNat_digitChar_lt hd) hc

theorem digitOf?_eq_some_iff (h : radix ≤ 16) :
    digitOf? radix c = some d ↔ d < radix ∧ c.toLower = d.digitChar := by
  have hsub : digitOf? radix c = (digitOf? 16 c).filter (· < radix) := by
    simp only [digitOf?, Option.filter_filter]
    congr 1
    funext e
    simp
    omega
  rw [hsub, Option.filter_eq_some_iff, digitOf?_sixteen, decide_eq_true_eq]
  constructor
  · rintro ⟨⟨-, hc⟩, hd⟩
    exact ⟨hd, hc⟩
  · rintro ⟨hd, hc⟩
    exact ⟨⟨Nat.lt_of_lt_of_le hd h, hc⟩, hd⟩

theorem map_digitOf?_eq_iff (h : radix ≤ 16) : t.map (digitOf? radix) = ds.map some ↔
    (∀ d ∈ ds, d < radix) ∧ t.map Char.toLower = ds.map Nat.digitChar := by
  induction t generalizing ds with
  | nil =>
    cases ds with
    | nil => simp
    | cons d ds => simp
  | cons c t ih =>
    cases ds with
    | nil => simp
    | cons d ds =>
      simp only [List.map_cons, List.cons.injEq, ih, digitOf?_eq_some_iff h, List.forall_mem_cons]
      constructor
      · rintro ⟨⟨hd, hc⟩, hds, ht⟩
        exact ⟨⟨hd, hds⟩, hc, ht⟩
      · rintro ⟨⟨hd, hds⟩, hc, ht⟩
        exact ⟨⟨hd, hc⟩, hds, ht⟩

end Digit

section Run

/-- What may stand behind a number that has all its digits. -/
def NoDigit (radix : Nat) (r : List Char) : Prop := ∀ c ∈ r.head?, digitOf? radix c = none

theorem noDigit_nil : NoDigit radix [] := by
  simp [NoDigit]

theorem noDigit_cons : NoDigit radix (c :: r) ↔ digitOf? radix c = none := by
  simp [NoDigit]

theorem digits_of_noDigit (h : NoDigit radix r) : digits radix r = ([], r) := by
  cases r with
  | nil => rfl
  | cons c r => rw [digits, noDigit_cons.mp h]

theorem digits_cons (h : digitOf? radix c = some d) :
    digits radix (c :: s) = (d :: (digits radix s).1, (digits radix s).2) := by
  rw [digits, h]

theorem digits_append (ht : t.map (digitOf? radix) = ds.map some) (hr : NoDigit radix r) :
    digits radix (t ++ r) = (ds, r) := by
  induction t generalizing ds with
  | nil => rw [List.nil_append, digits_of_noDigit hr, List.map_eq_nil_iff.mp ht.symm]
  | cons c t ih =>
    cases ds with
    | nil => cases ht
    | cons d ds =>
      rw [List.map_cons, List.map_cons] at ht
      obtain ⟨hc, ht⟩ := List.cons.inj ht
      rw [List.cons_append, digits_cons hc, ih ht]

theorem exists_digits_eq (radix : Nat) (s : List Char) :
    ∃ t, s = t ++ (digits radix s).2 ∧ t.map (digitOf? radix) = (digits radix s).1.map some ∧
      NoDigit radix (digits radix s).2 := by
  induction s with
  | nil => exact ⟨[], rfl, rfl, noDigit_nil⟩
  | cons c s ih =>
    cases hc : digitOf? radix c with
    | none =>
      rw [digits_of_noDigit (noDigit_cons.mpr hc)]
      exact ⟨[], rfl, rfl, noDigit_cons.mpr hc⟩
    | some d =>
      obtain ⟨t, hs, ht, hr⟩ := ih
      rw [digits_cons hc]
      refine ⟨c :: t, ?_, ?_, hr⟩
      · rw [List.cons_append, ← hs]
      · rw [List.map_cons, hc, ht, List.map_cons]

theorem value_concat (ds : List Nat) (d : Nat) :
    value radix (ds ++ [d]) = value radix ds * radix + d := by
  simp [value]

theorem value_replicate_zero_append (zeros : Nat) (ds : List Nat) :
    value radix (List.replicate zeros 0 ++ ds) = value radix ds := by
  induction zeros with
  | zero => rfl
  | succ zeros ih =>
    rw [List.replicate_succ, List.cons_append, ← ih]
    simp [value]

end Run

section Value

/-- Digits written out are those of their value behind zeros. -/
theorem exists_zeros (hradix : 1 < radix) (hne : ds ≠ []) (hds : ∀ d ∈ ds, d < radix) :
    ∃ zeros, ds.map Nat.digitChar =
      List.replicate zeros '0' ++ Nat.toDigits radix (value radix ds) := by
  induction ds using List.reverseRecOn with
  | nil => exact absurd rfl hne
  | append_singleton ds d ih =>
    obtain ⟨hds, hlast⟩ := List.forall_mem_append.mp hds
    have hd : d < radix := hlast d List.mem_cons_self
    rw [value_concat, List.map_append, List.map_singleton, ← Nat.toDigits_of_lt_base hd]
    by_cases hnil : ds = []
    · subst hnil
      exact ⟨0, by simp [value]⟩
    · obtain ⟨zeros, hzeros⟩ := ih hnil hds
      rw [hzeros]
      by_cases hvalue : value radix ds = 0
      · refine ⟨zeros + 1, ?_⟩
        rw [hvalue, Nat.toDigits_zero, Nat.zero_mul, Nat.zero_add, List.replicate_succ']
      · refine ⟨zeros, ?_⟩
        rw [List.append_assoc,
          Nat.toDigits_append_toDigits hradix (Nat.pos_of_ne_zero hvalue) hd, Nat.mul_comm]

/-- A number is written with digits that have it as their value. No zero is the first of several. -/
theorem exists_toDigits_eq (hradix : 1 < radix) (n : Nat) :
    ∃ ds, Nat.toDigits radix n = ds.map Nat.digitChar ∧ (∀ d ∈ ds, d < radix) ∧
      value radix ds = n ∧ (ds.head? = some 0 → ds.length = 1) := by
  induction n using Nat.strongRecOn with
  | ind n ih =>
    by_cases hn : n < radix
    · exact ⟨[n], Nat.toDigits_of_lt_base hn, by simpa using hn, by simp [value], fun _ => rfl⟩
    · have hpos : 0 < n / radix := Nat.div_pos (Nat.not_lt.mp hn) (by omega)
      have hmod := Nat.mod_lt n (Nat.zero_lt_of_lt hradix)
      obtain ⟨ds, htext, hds, hvalue, hhead⟩ := ih _ (Nat.div_lt_self (by omega) hradix)
      refine ⟨ds ++ [n % radix], ?_, ?_, ?_, ?_⟩
      · rw [Nat.toDigits_of_base_le hradix (Nat.not_lt.mp hn), htext, List.map_append]
        rfl
      · exact List.forall_mem_append.mpr ⟨hds, List.forall_mem_singleton.mpr hmod⟩
      · rw [value_concat, hvalue, Nat.mul_comm, Nat.div_add_mod]
      · intro hzero
        cases ds with
        | nil =>
          rw [← hvalue] at hpos
          exact absurd hpos (Nat.lt_irrefl 0)
        | cons d ds =>
          obtain rfl := List.length_eq_zero_iff.mp (Nat.succ.inj (hhead hzero))
          obtain rfl : d = 0 := Option.some.inj hzero
          simp [← hvalue, value] at hpos

end Value

namespace NumberForm

/-- What a form allows as the spelling of a number. -/
structure Accepts (f : NumberForm) (t : List Char) (n : Nat) : Prop where
  spells : Spells f.radix t n
  short : ∀ most ∈ f.most, t.length ≤ most
  plain : f.leadingZeros = false → t.map Char.toLower = Nat.toDigits f.radix n
  lt_bound : n < f.bound

/-- The digits that a form does not refuse. -/
structure Fits (f : NumberForm) (ds : List Nat) : Prop where
  ne_nil : ds ≠ []
  short : ∀ most ∈ f.most, ds.length ≤ most
  plain : f.leadingZeros = false → ds.head? = some 0 → ds.length ≤ 1
  lt_bound : value f.radix ds < f.bound

variable {f : NumberForm}

theorem fits_iff : f.Fits ds ↔
    ¬(ds = [] ∨ (f.most.any (· < ds.length)) ∨
      (!f.leadingZeros ∧ ds.head? = some 0 ∧ 1 < ds.length) ∨ f.bound ≤ value f.radix ds) := by
  simp only [not_or, not_and, Nat.not_le, Nat.not_lt, Bool.not_eq_true', Option.any_eq_true,
    decide_eq_true_eq, not_exists]
  constructor
  · intro h
    exact ⟨h.ne_nil, h.short, h.plain, h.lt_bound⟩
  · rintro ⟨hne, hshort, hplain, hbound⟩
    exact ⟨hne, hshort, hplain, hbound⟩

theorem number_eq_some_iff_fits : number f s = some (n, r) ↔
    ∃ ds, digits f.radix s = (ds, r) ∧ f.Fits ds ∧ value f.radix ds = n := by
  rw [number]
  constructor
  · intro h
    simp only at h
    split at h
    · cases h
    · rename_i hfits
      cases h
      exact ⟨_, rfl, fits_iff.mpr hfits, rfl⟩
  · rintro ⟨ds, hds, hfits, rfl⟩
    rw [hds]
    exact if_neg (fits_iff.mp hfits)

theorem Fits.accepts (h : f.Fits ds) (hradix : 1 < f.radix) (hradix' : f.radix ≤ 16)
    (ht : t.map (digitOf? f.radix) = ds.map some) : f.Accepts t (value f.radix ds) := by
  obtain ⟨hds, htext⟩ := (map_digitOf?_eq_iff hradix').mp ht
  obtain ⟨zeros, hzeros⟩ := exists_zeros hradix h.ne_nil hds
  have hlength : t.length = ds.length := by
    rw [← List.length_map (f := digitOf? f.radix), ht, List.length_map]
  refine ⟨⟨zeros, htext.trans hzeros⟩, fun most hmost => hlength ▸ h.short most hmost, ?_,
    h.lt_bound⟩
  intro hplain
  -- A zero in front would be the only digit, and no digit of the number would be left.
  cases zeros with
  | zero => exact htext.trans hzeros
  | succ zeros =>
    cases ds with
    | nil => exact absurd rfl h.ne_nil
    | cons d ds =>
      rw [List.replicate_succ, List.cons_append, List.map_cons] at hzeros
      obtain ⟨hd, hrest⟩ := List.cons.inj hzeros
      have hone := h.plain hplain (congrArg some (Nat.digitChar_eq_zero.mp hd))
      obtain rfl := List.length_eq_zero_iff.mp (Nat.le_zero.mp (Nat.le_of_succ_le_succ hone))
      exact absurd (List.append_eq_nil_iff.mp hrest.symm).2 Nat.toDigits_ne_nil

theorem Accepts.exists_fits (h : f.Accepts t n) (hradix : 1 < f.radix) (hradix' : f.radix ≤ 16) :
    ∃ ds, t.map (digitOf? f.radix) = ds.map some ∧ f.Fits ds ∧ value f.radix ds = n := by
  obtain ⟨zeros, hzeros⟩ := h.spells
  obtain ⟨ds, hdigits, hds, hvalue, hhead⟩ := exists_toDigits_eq hradix n
  have hall : ∀ d ∈ List.replicate zeros 0 ++ ds, d < f.radix := by
    intro d hd
    rcases List.mem_append.mp hd with hd | hd
    · rw [List.eq_of_mem_replicate hd]
      omega
    · exact hds d hd
  have htext : t.map Char.toLower = (List.replicate zeros 0 ++ ds).map Nat.digitChar := by
    rw [hzeros, hdigits, List.map_append, List.map_replicate]
    rfl
  have hlength : t.length = (List.replicate zeros 0 ++ ds).length := by
    rw [← List.length_map (f := Char.toLower), htext, List.length_map]
  have hvalue' : value f.radix (List.replicate zeros 0 ++ ds) = n := by
    rw [value_replicate_zero_append, hvalue]
  refine ⟨_, (map_digitOf?_eq_iff hradix').mpr ⟨hall, htext⟩, ⟨?_, ?_, ?_, ?_⟩, hvalue'⟩
  · intro hnil
    rw [List.append_eq_nil_iff] at hnil
    rw [hnil.2] at hdigits
    exact Nat.toDigits_ne_nil hdigits
  · exact fun most hmost => hlength ▸ h.short most hmost
  · intro hplain hzero
    have hnone : zeros = 0 := by
      have := congrArg List.length (hzeros.symm.trans (h.plain hplain))
      rw [List.length_append, List.length_replicate] at this
      omega
    subst hnone
    exact Nat.le_of_eq (hhead hzero)
  · exact hvalue' ▸ h.lt_bound

/-- A number is read where a spelling stands that no digit follows. -/
theorem number_eq_some_iff (hradix : 1 < f.radix) (hradix' : f.radix ≤ 16) :
    number f s = some (n, r) ↔ ∃ t, s = t ++ r ∧ f.Accepts t n ∧ NoDigit f.radix r := by
  rw [number_eq_some_iff_fits]
  constructor
  · rintro ⟨ds, hds, hfits, rfl⟩
    obtain ⟨t, hs, ht, hr⟩ := exists_digits_eq f.radix s
    rw [hds] at hs ht hr
    exact ⟨t, hs, hfits.accepts hradix hradix' ht, hr⟩
  · rintro ⟨t, rfl, haccepts, hr⟩
    obtain ⟨ds, ht, hfits, hvalue⟩ := haccepts.exists_fits hradix hradix'
    exact ⟨ds, digits_append ht hr, hfits, hvalue⟩

theorem number_eq_none_of_noDigit (h : NoDigit f.radix s) : number f s = none := by
  rw [Option.eq_none_iff_forall_ne_some]
  rintro ⟨n, r⟩ hsome
  obtain ⟨ds, hds, hfits, -⟩ := number_eq_some_iff_fits.mp hsome
  rw [digits_of_noDigit h] at hds
  exact hfits.ne_nil (congrArg Prod.fst hds).symm

end NumberForm

section Forms

theorem length_toDigits_le {zeros : List Char}
    (h : t.map Char.toLower = zeros ++ Nat.toDigits radix n) :
    (Nat.toDigits radix n).length ≤ t.length := by
  have hlength := congrArg List.length h
  rw [List.length_map, List.length_append] at hlength
  omega

theorem map_toLower_toDigits (hradix : 1 < radix) (hradix' : radix ≤ 16) (n : Nat) :
    (Nat.toDigits radix n).map Char.toLower = Nat.toDigits radix n := by
  have table : ∀ e : Fin 16, e.val.digitChar.toLower = e.val.digitChar := by decide
  obtain ⟨ds, hdigits, hds, -, -⟩ := exists_toDigits_eq hradix n
  rw [hdigits, List.map_map]
  exact List.map_congr_left fun d hd => table ⟨d, Nat.lt_of_lt_of_le (hds d hd) hradix'⟩

theorem spells_toDigits (hradix : 1 < radix) (hradix' : radix ≤ 16) (n : Nat) :
    Spells radix (Nat.toDigits radix n) n :=
  ⟨0, map_toLower_toDigits hradix hradix' n⟩

theorem Spells.number_eq (h : Spells 10 t n) {bound : Nat} (hn : n < bound) :
    number ⟨10, none, true, bound⟩ t = some (n, []) := by
  have haccepts : NumberForm.Accepts ⟨10, none, true, bound⟩ t n :=
    ⟨h, by rintro most ⟨⟩, by rintro ⟨⟩, hn⟩
  exact (NumberForm.number_eq_some_iff (by simp) (by simp)).mpr
    ⟨t, (List.append_nil t).symm, haccepts, noDigit_nil⟩

/-- Digits spell one number, since they are read as what they spell under any bound above it. -/
theorem Spells.unique {m : Nat} (h : Spells 10 t n) (h' : Spells 10 t m) : n = m := by
  have hn : n < n + m + 1 := by omega
  have hm : m < n + m + 1 := by omega
  have hsame := (h.number_eq hn).symm.trans (h'.number_eq hm)
  cases hsame
  rfl

theorem toLower_eq_self (h : c.toLower.isDigit = true) : c.toLower = c := by
  by_cases hc : c.toNat < 128
  · have table : ∀ k : Fin 128, (Char.ofNat k).toLower.isDigit = true →
        (Char.ofNat k).toLower = Char.ofNat k := by
      decide
    simpa [h] using table ⟨c.toNat, hc⟩
  · exact toLower_of_le (Nat.not_lt.mp hc)

/-- No decimal digit has another case. -/
theorem eq_toDigits_of_map_toLower (h : t.map Char.toLower = Nat.toDigits 10 n) :
    t = Nat.toDigits 10 n := by
  have hkept : ∀ c ∈ t, c.toLower = id c := by
    intro c hc
    have hdigit : c.toLower ∈ Nat.toDigits 10 n := h ▸ List.mem_map_of_mem hc
    exact toLower_eq_self (Nat.isDigit_of_mem_toDigits (by decide) (by decide) hdigit)
  rw [← h, List.map_congr_left hkept, List.map_id]

/-- An octet is written in one way. -/
theorem octet_accepts_iff : octet.Accepts t n ↔ n < 256 ∧ t = Nat.toDigits 10 n := by
  constructor
  · intro h
    exact ⟨h.lt_bound, eq_toDigits_of_map_toLower (h.plain rfl)⟩
  · rintro ⟨hn, rfl⟩
    refine ⟨spells_toDigits (by decide) (by decide) n, ?_,
      fun _ => map_toLower_toDigits (by decide) (by decide) n, hn⟩
    rintro most ⟨⟩
    exact (Nat.length_toDigits_le_iff (by decide) (by decide)).mpr (by omega)

theorem group_accepts_iff : group.Accepts t n ↔ Spells 16 t n ∧ t.length ≤ 4 := by
  constructor
  · intro h
    exact ⟨h.spells, h.short 4 rfl⟩
  · rintro ⟨hspells, hlength⟩
    obtain ⟨zeros, hzeros⟩ := hspells
    have hn : n < 16 ^ 4 := (Nat.length_toDigits_le_iff (by decide) (by decide)).mp
      (Nat.le_trans (length_toDigits_le hzeros) hlength)
    exact ⟨⟨zeros, hzeros⟩, by rintro most ⟨⟩; exact hlength, by rintro ⟨⟩, hn⟩

theorem zoneNumber_accepts_iff : zoneNumber.Accepts t n ↔ Spells 10 t n ∧ n < UInt32.size :=
  ⟨fun h => ⟨h.spells, h.lt_bound⟩, fun h => ⟨h.1, by rintro most ⟨⟩, by rintro ⟨⟩, h.2⟩⟩

theorem portNumber_accepts_iff : portNumber.Accepts t n ↔ Spells 10 t n ∧ n < 65536 :=
  ⟨fun h => ⟨h.spells, h.lt_bound⟩, fun h => ⟨h.1, by rintro most ⟨⟩, by rintro ⟨⟩, h.2⟩⟩

end Forms

end DocRoot.SocketAddr
