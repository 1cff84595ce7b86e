import DocRoot.Proofs.Address.Number

/-!
# The texts of addresses

Four octets have one text. Eight groups have many: each group is up to four digits, the last two may
be written as four octets, and two colons stand for one or more zero groups. The reader of groups
takes as many as it can, and accepts exactly these texts.
-/

set_option autoImplicit false

namespace DocRoot.SocketAddr

/-- A group is spelled by one to four digits. -/
structure IsGroup (t : List Char) (g : UInt16) : Prop where
  spells : Spells 16 t g.toNat
  short : t.length ≤ 4

/-- The group that two octets are. -/
def pair (a b : UInt8) : UInt16 := UInt16.ofNat (a.toNat * 256 + b.toNat)

/-- One or more groups with colons between them, the last two of which may be four octets. -/
inductive GroupsText : (octetsLast : Bool) → List Char → List UInt16 → Prop
  | group {t : List Char} {g : UInt16} : IsGroup t g → GroupsText false t [g]
  | octets (a b c d : UInt8) :
    GroupsText true (Ip.octetsText [a, b, c, d]).toList [pair a b, pair c d]
  | more {octetsLast : Bool} {t rest : List Char} {g : UInt16} {gs : List UInt16} :
    IsGroup t g → GroupsText octetsLast rest gs →
    GroupsText octetsLast (t ++ ':' :: rest) (g :: gs)

/-- The groups on one side of two colons, if there are any. -/
inductive SideText : (octetsLast : Bool) → List Char → List UInt16 → Prop
  | empty : SideText false [] []
  | groups {octetsLast : Bool} {t : List Char} {gs : List UInt16} :
    GroupsText octetsLast t gs → SideText octetsLast t gs

/-- All eight groups, or fewer around two colons, which are zeros for the others. -/
inductive Text6 : List Char → List UInt16 → Prop
  | whole {octetsLast : Bool} {t : List Char} {gs : List UInt16} :
    GroupsText octetsLast t gs → gs.length = 8 → Text6 t gs
  | elided {octetsLast : Bool} {front back : List Char} {before after : List UInt16} :
    SideText false front before → SideText octetsLast back after →
    before.length + after.length < 8 →
    Text6 (front ++ ':' :: ':' :: back)
      (before ++ List.replicate (8 - (before.length + after.length)) 0 ++ after)

variable {first octetsLast : Bool} {limit n : Nat} {sep : Char} {s t r : List Char}
  {g : UInt16} {gs : List UInt16} {os ns : List Nat}

section Octets

theorem given_eq_some_iff {c : Char} {u : Unit} : given c s = some (u, r) ↔ s = c :: r := by
  cases s with
  | nil => simp [given]
  | cons d s =>
    by_cases h : d = c
    · simp [given, h]
    · simp [given, h]

/-- A text behind the separator, which the first item does not have. -/
def lead (sep : Char) (first : Bool) (t : List Char) : List Char := if first then t else sep :: t

theorem lead_append (sep : Char) (first : Bool) (t r : List Char) :
    lead sep first (t ++ r) = lead sep first t ++ r := by
  cases first with
  | false => rfl
  | true => rfl

theorem lead_injective (h : lead sep first t = lead sep first s) : t = s := by
  cases first with
  | false => exact List.tail_eq_of_cons_eq h
  | true => exact h

theorem item_eq_some_iff {α : Type} {read : Reader α} {x : α} :
    item sep first read s = some (x, r) ↔ ∃ t, s = lead sep first t ∧ read t = some (x, r) := by
  cases first with
  | true => simp [item, lead]
  | false => simp [item, lead, Option.bind_eq_some_iff, given_eq_some_iff]

theorem number_octet_eq_some_iff : number octet s = some (n, r) ↔
    ∃ o : UInt8, n = o.toNat ∧ s = Nat.toDigits 10 o.toNat ++ r ∧ NoDigit 10 r := by
  rw [NumberForm.number_eq_some_iff (by decide) (by decide)]
  simp only [octet_accepts_iff]
  constructor
  · rintro ⟨t, rfl, ⟨hn, rfl⟩, hr⟩
    have hbyte : (UInt8.ofNat n).toNat = n := UInt8.toNat_ofNat_of_lt' hn
    exact ⟨UInt8.ofNat n, hbyte.symm, by rw [hbyte], hr⟩
  · rintro ⟨o, rfl, rfl, hr⟩
    exact ⟨_, rfl, ⟨o.toNat_lt, rfl⟩, hr⟩

theorem toList_octetsText (a b c d : UInt8) : (Ip.octetsText [a, b, c, d]).toList =
    Nat.toDigits 10 a.toNat ++ '.' :: (Nat.toDigits 10 b.toNat ++ '.' ::
      (Nat.toDigits 10 c.toNat ++ '.' :: Nat.toDigits 10 d.toNat)) := by
  simp [Ip.octetsText]

/-- A dot and an octet behind it. -/
theorem item_octet_eq_some_iff : item '.' false (number octet) s = some (n, r) ↔
    ∃ o : UInt8, n = o.toNat ∧ s = '.' :: (Nat.toDigits 10 o.toNat ++ r) ∧ NoDigit 10 r := by
  rw [item_eq_some_iff]
  constructor
  · rintro ⟨t, rfl, ht⟩
    obtain ⟨o, hn, rfl, hr⟩ := number_octet_eq_some_iff.mp ht
    exact ⟨o, hn, rfl, hr⟩
  · rintro ⟨o, hn, rfl, hr⟩
    exact ⟨_, rfl, number_octet_eq_some_iff.mpr ⟨o, hn, rfl, hr⟩⟩

theorem octets_eq_some_iff : octets s = some (os, r) ↔ ∃ a b c d : UInt8,
    os = [a.toNat, b.toNat, c.toNat, d.toNat] ∧
      s = (Ip.octetsText [a, b, c, d]).toList ++ r ∧ NoDigit 10 r := by
  have hdot : ∀ r, NoDigit 10 ('.' :: r) := fun r => noDigit_cons.mpr rfl
  simp only [octets, Option.bind_eq_bind, Option.bind_eq_some_iff, Prod.exists, Option.pure_def,
    Option.some.injEq, Prod.mk.injEq, toList_octetsText]
  constructor
  · rintro ⟨_, _, ha, _, _, hb, _, _, hc, _, _, hd, rfl, rfl⟩
    obtain ⟨a, rfl, rfl, -⟩ := number_octet_eq_some_iff.mp ha
    obtain ⟨b, rfl, rfl, -⟩ := item_octet_eq_some_iff.mp hb
    obtain ⟨c, rfl, rfl, -⟩ := item_octet_eq_some_iff.mp hc
    obtain ⟨d, rfl, rfl, hr⟩ := item_octet_eq_some_iff.mp hd
    exact ⟨a, b, c, d, rfl, by simp, hr⟩
  · rintro ⟨a, b, c, d, rfl, rfl, hr⟩
    refine ⟨_, _, number_octet_eq_some_iff.mpr ⟨a, rfl, ?_, hdot _⟩,
      _, _, item_octet_eq_some_iff.mpr ⟨b, rfl, rfl, hdot _⟩,
      _, _, item_octet_eq_some_iff.mpr ⟨c, rfl, rfl, hdot _⟩,
      _, _, item_octet_eq_some_iff.mpr ⟨d, rfl, rfl, hr⟩, rfl, rfl⟩
    simp

end Octets

section Groups

/-- What cannot be taken for more of the groups in front of it. -/
structure Stops (r : List Char) : Prop where
  noDigit : NoDigit 16 r
  noDot : r.head? ≠ some '.'
  noMore : ∀ r', r = ':' :: r' → NoDigit 16 r'

theorem NoDigit.ten (h : NoDigit 16 r) : NoDigit 10 r := by
  intro c hc
  rw [Option.eq_none_iff_forall_ne_some]
  intro d hd
  have hten := (digitOf?_eq_some_iff (by decide)).mp hd
  have hsixteen : digitOf? 16 c = some d :=
    (digitOf?_eq_some_iff (by decide)).mpr ⟨by omega, hten.2⟩
  rw [h c hc] at hsixteen
  cases hsixteen

/-- Decimal digits are digits to a reader of groups as well. -/
theorem exists_hex_digits (n : Nat) :
    ∃ ds : List Nat, (Nat.toDigits 10 n).map (digitOf? 16) = ds.map some := by
  have hten : 1 < 10 := by decide
  obtain ⟨ds, htext, hds, -, -⟩ := exists_toDigits_eq hten n
  refine ⟨ds, (map_digitOf?_eq_iff (Nat.le_refl 16)).mpr ⟨fun d hd => ?_, ?_⟩⟩
  · exact Nat.lt_trans (hds d hd) (by decide)
  · rw [map_toLower_toDigits (by decide) (by decide), htext]

theorem IsGroup.exists_digits (h : IsGroup t g) :
    ∃ ds : List Nat, t.map (digitOf? 16) = ds.map some := by
  obtain ⟨ds, ht, -, -⟩ := (group_accepts_iff.mpr ⟨h.spells, h.short⟩).exists_fits
    (by decide) (by decide)
  exact ⟨ds, ht⟩

/-- No octets begin where a group ends without a dot. -/
theorem octets_of_group (h : IsGroup t g) (hr : NoDigit 16 r) (hdot : r.head? ≠ some '.') :
    octets (t ++ r) = none := by
  rw [Option.eq_none_iff_forall_ne_some]
  rintro ⟨os, r'⟩ hsome
  obtain ⟨a, b, c, d, -, htext, -⟩ := octets_eq_some_iff.mp hsome
  rw [toList_octetsText, List.append_assoc, List.cons_append] at htext
  obtain ⟨ds, hds⟩ := h.exists_digits
  obtain ⟨ds', hds'⟩ := exists_hex_digits a.toNat
  -- Both ways of reading take the same digits, so they leave the same text.
  have hread := digits_append hds hr
  rw [htext, digits_append hds' (noDigit_cons.mpr rfl)] at hread
  obtain ⟨-, rfl⟩ := Prod.mk.inj hread
  exact hdot rfl

theorem octets_of_noDigit (h : NoDigit 16 s) : octets s = none := by
  rw [octets, NumberForm.number_eq_none_of_noDigit h.ten]
  rfl

theorem item_eq_none {α : Type} {read : Reader α} (h : ∀ t, s = lead sep first t → read t = none) :
    item sep first read s = none := by
  rw [Option.eq_none_iff_forall_ne_some]
  rintro ⟨x, r⟩ hsome
  obtain ⟨t, ht, hread⟩ := item_eq_some_iff.mp hsome
  rw [h t ht] at hread
  cases hread

theorem toNat_pair (a b : UInt8) : (pair a b).toNat = a.toNat * 256 + b.toNat := by
  have ha : a.toNat < 256 := a.toNat_lt
  have hb : b.toNat < 256 := b.toNat_lt
  have hlt : a.toNat * 256 + b.toNat < 65536 := by omega
  exact UInt16.toNat_ofNat_of_lt' hlt

theorem IsGroup.number_group (h : IsGroup t g) (hr : NoDigit 16 r) :
    number group (t ++ r) = some (g.toNat, r) :=
  (NumberForm.number_eq_some_iff (by decide) (by decide)).mpr
    ⟨t, rfl, group_accepts_iff.mpr ⟨h.spells, h.short⟩, hr⟩

theorem exists_isGroup (h : number group s = some (n, r)) :
    ∃ t, s = t ++ r ∧ IsGroup t (UInt16.ofNat n) := by
  obtain ⟨t, rfl, haccepts, -⟩ :=
    (NumberForm.number_eq_some_iff (by decide) (by decide)).mp h
  have hn : (UInt16.ofNat n).toNat = n := UInt16.toNat_ofNat_of_lt' haccepts.lt_bound
  exact ⟨t, rfl, hn.symm ▸ haccepts.spells, haccepts.short 4 rfl⟩

section Step

theorem groups_octets {a b c d : Nat} (hlimit : 0 < limit)
    (h : item ':' first octets s = some ([a, b, c, d], r)) :
    groups first (limit + 1) s = ([a * 256 + b, c * 256 + d], true, r) := by
  rw [groups, if_pos hlimit, h]

theorem groups_group (hno : item ':' first octets s = none)
    (h : item ':' first (number group) s = some (n, r)) :
    groups first (limit + 1) s =
      (n :: (groups false limit r).1, (groups false limit r).2) := by
  rw [groups]
  by_cases hlimit : 0 < limit
  · simp only [if_pos hlimit, hno, h]
  · simp only [if_neg hlimit, h]

theorem groups_of_stops (h : Stops r) (first : Bool) (limit : Nat) :
    groups first limit r = ([], false, r) := by
  have hnone : ∀ t, r = lead ':' first t → NoDigit 16 t := by
    intro t ht
    cases first with
    | false => exact h.noMore t ht
    | true =>
      obtain rfl : r = t := ht
      exact h.noDigit
  have hoctets : item ':' first octets r = none :=
    item_eq_none fun t ht => octets_of_noDigit (hnone t ht)
  have hgroup : item ':' first (number group) r = none :=
    item_eq_none fun t ht => NumberForm.number_eq_none_of_noDigit (hnone t ht)
  cases limit with
  | zero => rfl
  | succ limit =>
    rw [groups]
    simp only [hoctets, hgroup, ite_self]

end Step

/-- A group that another one or the end follows is read as a group. -/
theorem groups_of_isGroup (h : IsGroup t g) (hr : NoDigit 16 r) (hdot : r.head? ≠ some '.')
    (first : Bool) (limit : Nat) :
    groups first (limit + 1) (lead ':' first t ++ r) =
      (g.toNat :: (groups false limit r).1, (groups false limit r).2) := by
  rw [← lead_append]
  have hread : item ':' first (number group) (lead ':' first (t ++ r)) = some (g.toNat, r) :=
    item_eq_some_iff.mpr ⟨t ++ r, rfl, h.number_group hr⟩
  refine groups_group (item_eq_none fun t' ht' => ?_) hread
  obtain rfl := lead_injective ht'
  exact octets_of_group h hr hdot

theorem groups_complete (h : GroupsText octetsLast t gs) (hr : Stops r) (first : Bool)
    (hlimit : gs.length ≤ limit) :
    groups first limit (lead ':' first t ++ r) = (gs.map UInt16.toNat, octetsLast, r) := by
  induction h generalizing first limit with
  | group hg =>
    cases limit with
    | zero => exact absurd hlimit (Nat.not_succ_le_zero _)
    | succ limit =>
      rw [groups_of_isGroup hg hr.noDigit hr.noDot, groups_of_stops hr]
      rfl
  | octets a b c d =>
    cases limit with
    | zero => exact absurd hlimit (Nat.not_succ_le_zero _)
    | succ limit =>
      rw [← lead_append]
      have hread := octets_eq_some_iff.mpr ⟨a, b, c, d, rfl, rfl, hr.noDigit.ten⟩
      rw [groups_octets (Nat.lt_of_succ_le (Nat.le_of_succ_le_succ hlimit))
        (item_eq_some_iff.mpr ⟨_, rfl, hread⟩)]
      simp only [List.map_cons, List.map_nil, toNat_pair]
  | @more octetsLast t rest g gs hg hrest ih =>
    cases limit with
    | zero => exact absurd hlimit (Nat.not_succ_le_zero _)
    | succ limit =>
      have hnext := ih false (Nat.le_of_succ_le_succ hlimit)
      rw [← lead_append, List.append_assoc, lead_append, List.cons_append,
        groups_of_isGroup hg (noDigit_cons.mpr rfl) (by simp)]
      rw [lead, if_neg Bool.false_ne_true, List.cons_append] at hnext
      rw [hnext]
      rfl

theorem groups_sound (h : groups first limit s = (ns, octetsLast, r)) :
    (ns = [] ∧ octetsLast = false ∧ s = r) ∨ ∃ t, s = lead ':' first t ++ r ∧
      GroupsText octetsLast t (ns.map UInt16.ofNat) ∧ ns.length ≤ limit := by
  induction limit generalizing first s ns with
  | zero =>
    cases h
    exact .inl ⟨rfl, rfl, rfl⟩
  | succ limit ih =>
    rw [groups] at h
    split at h
    · rename_i a b c d r' hoctets
      obtain ⟨hlimit, hoctets⟩ := Option.ite_none_right_eq_some.mp hoctets
      obtain ⟨t, rfl, ht⟩ := item_eq_some_iff.mp hoctets
      obtain ⟨a', b', c', d', hos, htext, -⟩ := octets_eq_some_iff.mp ht
      cases hos
      cases h
      rw [htext, lead_append]
      exact .inr ⟨_, rfl, .octets a' b' c' d', Nat.succ_le_succ hlimit⟩
    · split at h
      · rename_i n r' hgroup
        obtain ⟨t, rfl, ht⟩ := item_eq_some_iff.mp hgroup
        obtain ⟨t, rfl, hg⟩ := exists_isGroup ht
        rw [lead_append]
        cases hrest : groups false limit r' with
        | mk ns' after =>
          obtain ⟨octetsLast', r''⟩ := after
          rw [hrest] at h
          cases h
          rcases ih hrest with ⟨rfl, rfl, rfl⟩ | ⟨rest, rfl, hgroups, hlength⟩
          · exact .inr ⟨t, rfl, .group hg, Nat.succ_le_succ (Nat.zero_le _)⟩
          · refine .inr ⟨_, ?_, .more hg hgroups, Nat.succ_le_succ hlength⟩
            rw [lead_append]
            simp [lead]
      · cases h
        exact .inl ⟨rfl, rfl, rfl⟩

end Groups

section Whole

variable {front back : List Char} {before after : List UInt16}

theorem stops_colons (r : List Char) : Stops (':' :: ':' :: r) := by
  refine ⟨noDigit_cons.mpr rfl, by simp, ?_⟩
  rintro r' ⟨⟩
  exact noDigit_cons.mpr rfl

theorem SideText.groups_eq (h : SideText octetsLast t gs) (hr : Stops r)
    (hlimit : gs.length ≤ limit) :
    SocketAddr.groups true limit (t ++ r) = (gs.map UInt16.toNat, octetsLast, r) := by
  cases h with
  | empty => exact groups_of_stops hr true limit
  | groups hgroups => exact groups_complete hgroups hr true hlimit

theorem SideText.of_length (h : SideText octetsLast t gs) (hne : gs.length ≠ 0) :
    GroupsText octetsLast t gs := by
  cases h with
  | empty => exact absurd rfl hne
  | groups hgroups => exact hgroups

theorem exists_sideText (h : SocketAddr.groups true limit s = (ns, octetsLast, r)) :
    ∃ t, s = t ++ r ∧ SideText octetsLast t (ns.map UInt16.ofNat) ∧ ns.length ≤ limit := by
  rcases groups_sound h with ⟨rfl, rfl, rfl⟩ | ⟨t, rfl, hgroups, hlength⟩
  · exact ⟨[], rfl, .empty, Nat.zero_le _⟩
  · exact ⟨t, rfl, .groups hgroups, hlength⟩

/-- Every text of an address is read as its eight groups. -/
theorem ipv6_complete (h : Text6 t gs) (hr : Stops r) :
    ipv6 (t ++ r) = some (gs.map UInt16.toNat, r) := by
  cases h with
  | whole hgroups hlength =>
    have hread := groups_complete hgroups hr true (Nat.le_of_eq hlength)
    rw [lead, if_pos rfl] at hread
    simp only [ipv6, hread, List.length_map, hlength, if_true]
  | @elided octetsLast front back before after hfront hback hlength =>
    have hbefore : before.length ≤ 8 := by omega
    have hafter : after.length ≤ 7 - before.length := by omega
    have hread := hfront.groups_eq (stops_colons (back ++ r)) hbefore
    have hrest := hback.groups_eq hr hafter
    rw [List.append_assoc, List.cons_append, List.cons_append]
    simp only [ipv6, hread, List.length_map]
    rw [if_neg (by omega), if_neg Bool.false_ne_true]
    simp [given, hrest, Nat.sub_sub]

/-- What is read as eight groups is the text of an address. -/
theorem ipv6_sound (h : ipv6 s = some (ns, r)) :
    ∃ t, s = t ++ r ∧ Text6 t (ns.map UInt16.ofNat) := by
  rw [ipv6] at h
  cases hfront : groups true 8 s with
  | mk before after =>
    obtain ⟨octetsLast, r₁⟩ := after
    obtain ⟨front, rfl, hside, hle⟩ := exists_sideText hfront
    simp only [hfront] at h
    split at h
    · rename_i hlength
      cases h
      have hlength' : (ns.map UInt16.ofNat).length = 8 := by rw [List.length_map, hlength]
      exact ⟨front, rfl, .whole (hside.of_length (hlength'.trans_ne (by decide))) hlength'⟩
    · rename_i hlength
      split at h
      · cases h
      · rename_i hlast
        obtain rfl : octetsLast = false := by simpa using hlast
        simp only [Option.bind_eq_bind, Option.bind_eq_some_iff, Prod.exists, given_eq_some_iff,
          Option.pure_def, Option.some.injEq, Prod.mk.injEq] at h
        obtain ⟨_, _, rfl, _, r₂, rfl, hns, rfl⟩ := h
        cases hback : groups true (7 - before.length) r₂ with
        | mk after rest =>
          obtain ⟨octetsLast, r₃⟩ := rest
          obtain ⟨back, rfl, hside', hle'⟩ := exists_sideText hback
          refine ⟨front ++ ':' :: ':' :: back, by simp, ?_⟩
          have helided := Text6.elided hside hside' (by simp; omega)
          rw [← hns, hback]
          simpa [Nat.sub_sub] using helided

end Whole

end DocRoot.SocketAddr
