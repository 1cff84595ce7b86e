import DocRoot.Proofs.Address.Printing

/-!
# Hosts and ports

A host is four octets, or groups in square brackets, which may end in a zone. It is written in front
of a colon and a port, and no port has a colon in it, so a text is read as the host and the port
that it was put together from, or not at all.
-/

set_option autoImplicit false

namespace DocRoot.SocketAddr

/-- What may stand between groups and their bracket: the number of a zone behind a percent sign. -/
inductive ZoneText : List Char → Nat → Prop
  | none : ZoneText [] 0
  | number {t : List Char} {zone : Nat} : Spells 10 t zone → ZoneText ('%' :: t) zone

/-- The address that a host says, and its zone. -/
inductive Denotes : List Char → Ip → Nat → Prop
  | octets (a b c d : UInt8) : Denotes (Ip.octetsText [a, b, c, d]).toList (.v4 #v[a, b, c, d]) 0
  | groups {t z : List Char} {gs : Vector UInt16 8} {zone : Nat} : Text6 t gs.toList →
    ZoneText z zone → Denotes ('[' :: (t ++ (z ++ [']']))) (.v6 gs) zone

variable {n zone : Nat} {s t r : List Char} {ns : List Nat} {a : SocketAddr} {ip : Ip}

section Parts

theorem ofV4_octets (a b c d : UInt8) :
    ofV4 [a.toNat, b.toNat, c.toNat, d.toNat] = some (.v4 #v[a, b, c, d]) := by
  simp [ofV4]

theorem ofV6_eq_some_iff : ofV6 ns = some ip ↔
    ∃ gs : Vector UInt16 8, ip = .v6 gs ∧ gs.toList = ns.map UInt16.ofNat := by
  rw [ofV6]
  constructor
  · intro h
    obtain ⟨hsize, hip⟩ := Option.dite_none_right_eq_some.mp h
    exact ⟨_, (Option.some.inj hip).symm, rfl⟩
  · rintro ⟨gs, rfl, hgs⟩
    have hsize : (ns.map UInt16.ofNat).toArray.size = 8 := by
      rw [← hgs]
      simp
    rw [dif_pos hsize]
    congr
    exact hgs.symm

/-- At the end of a text nothing but digits is a port. -/
theorem portNumber_eq_some_iff :
    number portNumber s = some (n, []) ↔ Spells 10 s n ∧ n < 65536 := by
  rw [NumberForm.number_eq_some_iff (by decide) (by decide)]
  simp only [portNumber_accepts_iff, List.append_nil]
  constructor
  · rintro ⟨t, rfl, h, -⟩
    exact h
  · intro h
    exact ⟨s, rfl, h, noDigit_nil⟩

theorem readZone_eq_some_iff : readZone s = some (zone, r) ↔
    ∃ t, s = '%' :: (t ++ r) ∧ Spells 10 t zone ∧ zone < UInt32.size ∧ NoDigit 10 r := by
  simp only [readZone, Option.bind_eq_some_iff, Prod.exists, given_eq_some_iff,
    NumberForm.number_eq_some_iff (f := zoneNumber) (by decide) (by decide),
    zoneNumber_accepts_iff]
  constructor
  · rintro ⟨-, _, rfl, t, rfl, ⟨hspells, hlt⟩, hr⟩
    exact ⟨t, rfl, hspells, hlt, hr⟩
  · rintro ⟨t, rfl, hspells, hlt, hr⟩
    exact ⟨(), _, rfl, t, rfl, ⟨hspells, hlt⟩, hr⟩

theorem zone_eq_iff : (readZone s).getD (0, s) = (zone, ']' :: r) ↔
    ∃ z, s = z ++ ']' :: r ∧ ZoneText z zone ∧ zone < UInt32.size := by
  constructor
  · intro h
    cases hzone : readZone s with
    | none =>
      rw [hzone] at h
      cases h
      exact ⟨[], rfl, .none, by decide⟩
    | some x =>
      rw [hzone] at h
      obtain rfl : x = (zone, ']' :: r) := h
      obtain ⟨t, rfl, hspells, hlt, -⟩ := readZone_eq_some_iff.mp hzone
      exact ⟨'%' :: t, rfl, .number hspells, hlt⟩
  · rintro ⟨z, rfl, hzone, hlt⟩
    cases hzone with
    | none => rfl
    | number hspells =>
      rw [List.cons_append,
        readZone_eq_some_iff.mpr ⟨_, rfl, hspells, hlt, noDigit_cons.mpr rfl⟩, Option.getD_some]

theorem readV4_eq_some_iff : readV4 s = some (a, []) ↔ ∃ b c d e t p,
    s = (Ip.octetsText [b, c, d, e]).toList ++ ':' :: t ∧ Spells 10 t p ∧ p < 65536 ∧
      a = ⟨.v4 #v[b, c, d, e], UInt16.ofNat p, 0⟩ := by
  simp only [readV4, Option.bind_eq_bind, Option.bind_eq_some_iff, Prod.exists, Option.pure_def,
    Option.some.injEq, Prod.mk.injEq, given_eq_some_iff]
  constructor
  · rintro ⟨os, _, hos, _, t, rfl, p, _, hp, ip, hip, rfl, rfl⟩
    obtain ⟨b, c, d, e, rfl, hs, -⟩ := octets_eq_some_iff.mp hos
    obtain ⟨hspells, hlt⟩ := portNumber_eq_some_iff.mp hp
    rw [ofV4_octets] at hip
    cases hip
    exact ⟨b, c, d, e, t, p, hs, hspells, hlt, rfl⟩
  · rintro ⟨b, c, d, e, t, p, hs, hspells, hlt, rfl⟩
    have hr : NoDigit 10 (':' :: t) := noDigit_cons.mpr rfl
    have hos := octets_eq_some_iff.mpr ⟨b, c, d, e, rfl, hs, hr⟩
    exact ⟨_, _, hos, (), t, rfl, p, [], portNumber_eq_some_iff.mpr ⟨hspells, hlt⟩, _,
      ofV4_octets b c d e, rfl, rfl⟩

theorem stops_of_zone {z : List Char} (h : ZoneText z zone) (r : List Char) :
    Stops (z ++ ']' :: r) := by
  cases h with
  | none => exact ⟨noDigit_cons.mpr rfl, by simp, by rintro r' ⟨⟩⟩
  | number => exact ⟨noDigit_cons.mpr rfl, by simp, by rintro r' ⟨⟩⟩

theorem readV6_eq_some_iff : readV6 s = some (a, []) ↔ ∃ x z t p zone, ∃ gs : Vector UInt16 8,
    s = '[' :: (x ++ (z ++ [']'])) ++ ':' :: t ∧ Text6 x gs.toList ∧ ZoneText z zone ∧
      zone < UInt32.size ∧ Spells 10 t p ∧ p < 65536 ∧ a = ⟨.v6 gs, UInt16.ofNat p, zone⟩ := by
  simp only [readV6, Option.bind_eq_bind, Option.bind_eq_some_iff, Prod.exists, Option.pure_def,
    Option.some.injEq, Prod.mk.injEq, given_eq_some_iff]
  constructor
  · rintro ⟨_, s₁, rfl, ns, s₂, hns, _, s₃, hs₃, _, t, rfl, p, _, hp, ip, hip, rfl, rfl⟩
    obtain ⟨x, rfl, htext⟩ := ipv6_sound hns
    obtain ⟨z, rfl, hzone, hlt⟩ := zone_eq_iff.mp (Prod.ext rfl hs₃)
    obtain ⟨gs, rfl, hgs⟩ := ofV6_eq_some_iff.mp hip
    obtain ⟨hspells, hlt'⟩ := portNumber_eq_some_iff.mp hp
    exact ⟨x, z, t, p, _, gs, by simp, hgs ▸ htext, hzone, hlt, hspells, hlt', rfl⟩
  · rintro ⟨x, z, t, p, zone, gs, rfl, htext, hzone, hlt, hspells, hlt', rfl⟩
    have hns := ipv6_complete htext (stops_of_zone hzone (':' :: t))
    have hz : (readZone (z ++ ']' :: ':' :: t)).getD (0, z ++ ']' :: ':' :: t) =
        (zone, ']' :: ':' :: t) :=
      zone_eq_iff.mpr ⟨z, rfl, hzone, hlt⟩
    have hgs : gs.toList = (gs.toList.map UInt16.toNat).map UInt16.ofNat := by
      simp [Function.comp_def]
    refine ⟨(), x ++ (z ++ ']' :: ':' :: t), by simp, _, _, hns, (), ':' :: t, ?_, (), t, rfl,
      p, [], portNumber_eq_some_iff.mpr ⟨hspells, hlt'⟩,
      _, ofV6_eq_some_iff.mpr ⟨gs, rfl, hgs⟩, ?_, rfl⟩
    · rw [hz]
    · rw [hz]

end Parts

section Whole

variable {host : List Char} {text : String}

theorem parse?_eq_some_iff_read :
    parse? text = some a ↔ (readV4 text.toList).or (readV6 text.toList) = some (a, []) := by
  rw [parse?]
  split
  · rename_i b h
    rw [h]
    simp
  · rename_i h
    constructor
    · intro hnone
      cases hnone
    · intro hsome
      exact absurd hsome (h a)

theorem octets_bracket (s : List Char) : octets ('[' :: s) = none :=
  octets_of_noDigit (noDigit_cons.mpr rfl)

theorem readV4_bracket (s : List Char) : readV4 ('[' :: s) = none := by
  rw [readV4, octets_bracket]
  rfl

/-- A text is read where it is a host, a colon and a port. -/
theorem parse?_eq_some_iff : parse? text = some a ↔ ∃ host t,
    text.toList = host ++ ':' :: t ∧ Denotes host a.ip a.zone ∧ a.zone < UInt32.size ∧
      Spells 10 t a.port.toNat := by
  have hport : ∀ p, p < 65536 → (UInt16.ofNat p).toNat = p := fun _ => UInt16.toNat_ofNat_of_lt'
  rw [parse?_eq_some_iff_read, Option.or_eq_some_iff, readV4_eq_some_iff, readV6_eq_some_iff]
  constructor
  · rintro (⟨b, c, d, e, t, p, htext, hspells, hlt, rfl⟩ |
      ⟨-, x, z, t, p, zone, gs, htext, hx, hz, hzone, hspells, hlt, rfl⟩)
    · exact ⟨_, t, htext, .octets b c d e, Nat.zero_lt_succ _, (hport p hlt).symm ▸ hspells⟩
    · exact ⟨_, t, htext, .groups hx hz, hzone, (hport p hlt).symm ▸ hspells⟩
  · obtain ⟨ip, port, zone⟩ := a
    rintro ⟨host, t, htext, hhost, hzone, hspells⟩
    cases hhost with
    | octets b c d e =>
      exact .inl ⟨b, c, d, e, t, _, htext, hspells, port.toNat_lt, by simp⟩
    | groups hx hz =>
      refine .inr ⟨?_, _, _, t, _, _, _, htext, hx, hz, hzone, hspells, port.toNat_lt, by simp⟩
      rw [htext]
      exact readV4_bracket _

theorem colon_not_mem_of_spells (h : Spells 10 t n) : ':' ∉ t := by
  obtain ⟨zeros, hzeros⟩ := h
  intro hmem
  have hlower : ':' ∈ t.map Char.toLower := List.mem_map.mpr ⟨':', hmem, rfl⟩
  rw [hzeros, List.mem_append] at hlower
  rcases hlower with hlower | hlower
  · exact absurd (List.eq_of_mem_replicate hlower) (by decide)
  · exact absurd (Nat.isDigit_of_mem_toDigits (by decide) (by decide) hlower) (by decide)

/-- Two texts are cut at their last colons alike. -/
theorem append_colon_inj {front front' back back' : List Char} (hback : ':' ∉ back)
    (hback' : ':' ∉ back') (h : front ++ ':' :: back = front' ++ ':' :: back') :
    front = front' ∧ back = back' := by
  have hrev := congrArg List.reverse h
  simp only [List.reverse_append, List.reverse_cons, List.append_assoc, List.singleton_append]
    at hrev
  have hsplit := congrArg (List.splitOn ':') hrev
  rw [List.splitOn_append_cons_self_of_not_mem (mt List.mem_reverse.mp hback),
    List.splitOn_append_cons_self_of_not_mem (mt List.mem_reverse.mp hback')] at hsplit
  obtain rfl := List.reverse_inj.mp (List.head_eq_of_cons_eq hsplit)
  exact ⟨List.append_cancel_right h, rfl⟩

theorem ofHostPort?_eq_some_iff {host : String} {port : UInt16} :
    ofHostPort? host port = some a ↔
      a.port = port ∧ Denotes host.toList a.ip a.zone ∧ a.zone < UInt32.size := by
  have htext : (host ++ ":" ++ toString port.toNat).toList =
      host.toList ++ ':' :: Nat.toDigits 10 port.toNat := by
    simp [String.toList_append]
  have hport : Spells 10 (Nat.toDigits 10 port.toNat) port.toNat :=
    spells_toDigits (by decide) (by decide) port.toNat
  rw [ofHostPort?, parse?_eq_some_iff, htext]
  constructor
  · rintro ⟨host', t, hsplit, hhost, hzone, hspells⟩
    obtain ⟨rfl, rfl⟩ := append_colon_inj (colon_not_mem_of_spells hport)
      (colon_not_mem_of_spells hspells) hsplit
    have hsame := hspells.unique hport
    exact ⟨UInt16.toNat_inj.mp hsame, hhost, hzone⟩
  · rintro ⟨rfl, hhost, hzone⟩
    exact ⟨_, _, rfl, hhost, hzone, hport⟩

end Whole

section Host

variable {host : List Char} {ip' : Ip} {zone' : Nat} {z z' : List Char}

theorem ZoneText.unique (h : ZoneText z zone) (h' : ZoneText z zone') : zone = zone' := by
  cases h with
  | none =>
    cases h'
    rfl
  | number hspells =>
    cases h' with
    | number hspells' => exact hspells.unique hspells'

theorem ne_octets_of_bracket {a b c d : UInt8} :
    (Ip.octetsText [a, b, c, d]).toList ≠ '[' :: s := by
  intro h
  have hread : octets ('[' :: s) = some ([a.toNat, b.toNat, c.toNat, d.toNat], []) :=
    octets_eq_some_iff.mpr ⟨a, b, c, d, rfl, by rw [List.append_nil, h], noDigit_nil⟩
  rw [octets_bracket] at hread
  cases hread

/-- A host denotes one address: the groups are cut off where their reader stops. -/
theorem Denotes.unique (h : Denotes host ip zone) (h' : Denotes host ip' zone') :
    ip = ip' ∧ zone = zone' := by
  cases h with
  | octets a b c d =>
    generalize htext : (Ip.octetsText [a, b, c, d]).toList = host at h'
    cases h' with
    | octets a' b' c' d' =>
      have hread := octets_eq_some_iff.mpr ⟨a, b, c, d, rfl, rfl, noDigit_nil⟩
      rw [htext, octets_eq_some_iff.mpr ⟨a', b', c', d', rfl, rfl, noDigit_nil⟩] at hread
      simp only [Option.some.injEq, Prod.mk.injEq, List.cons.injEq, UInt8.toNat_inj] at hread
      obtain ⟨⟨rfl, rfl, rfl, rfl, -⟩, -⟩ := hread
      exact ⟨rfl, rfl⟩
    | groups => exact absurd htext ne_octets_of_bracket
  | @groups t z gs zone ht hz =>
    generalize htext : '[' :: (t ++ (z ++ [']'])) = host at h'
    cases h' with
    | octets a b c d => exact absurd htext.symm ne_octets_of_bracket
    | @groups t' z' gs' zone' ht' hz' =>
      have hread := ipv6_complete ht (stops_of_zone hz [])
      rw [(List.cons.inj htext).2, ipv6_complete ht' (stops_of_zone hz' [])] at hread
      obtain ⟨hgs, hrest⟩ := Prod.mk.inj (Option.some.inj hread)
      obtain rfl := List.append_cancel_right hrest
      have hsame := (List.map_inj_right fun _ _ => UInt16.toNat_inj.mp).mp hgs
      exact ⟨congrArg Ip.v6 (Vector.toList_inj.mp hsame).symm, hz.unique hz'⟩

/-- What is put in front of the port of an address. -/
def hostText : Ip → String
  | .v4 octets => (Ip.v4 octets).text
  | .v6 groups => "[" ++ (Ip.v6 groups).text ++ "]"

theorem exists_octets (octets : Vector UInt8 4) : ∃ a b c d, octets = #v[a, b, c, d] := by
  refine ⟨octets[0], octets[1], octets[2], octets[3], Vector.ext fun i hi => ?_⟩
  match i, hi with
  | 0, _ => rfl
  | 1, _ => rfl
  | 2, _ => rfl
  | 3, _ => rfl

theorem denotes_hostText (ip : Ip) : Denotes (hostText ip).toList ip 0 := by
  cases ip with
  | v4 octets =>
    obtain ⟨a, b, c, d, rfl⟩ := exists_octets octets
    exact .octets a b c d
  | v6 groups =>
    have hdenotes := Denotes.groups (text6_text groups) .none
    simpa [hostText] using hdenotes

/-- A host and a port are read as the address that the host denotes and that port, and not at all
where the host denotes none or its zone is too large. No host denotes two, and every address is
read back from its text. -/
theorem host_is_read_as_it_denotes (host : String) (port : UInt16) :
    ((ofHostPort? host port).isSome ↔
      ∃ ip zone, Denotes host.toList ip zone ∧ zone < UInt32.size) ∧
    (∀ a, ofHostPort? host port = some a ↔
      a.port = port ∧ Denotes host.toList a.ip a.zone ∧ a.zone < UInt32.size) ∧
    (∀ ip ip' zone zone', Denotes host.toList ip zone → Denotes host.toList ip' zone' →
      ip = ip' ∧ zone = zone') ∧
    ∀ ip, ofHostPort? (hostText ip) port = some ⟨ip, port, 0⟩ := by
  refine ⟨?_, fun a => ofHostPort?_eq_some_iff, fun _ _ _ _ => Denotes.unique, fun ip => ?_⟩
  · rw [Option.isSome_iff_exists]
    constructor
    · rintro ⟨a, ha⟩
      obtain ⟨-, hdenotes, hzone⟩ := ofHostPort?_eq_some_iff.mp ha
      exact ⟨a.ip, a.zone, hdenotes, hzone⟩
    · rintro ⟨ip, zone, hdenotes, hzone⟩
      exact ⟨⟨ip, port, zone⟩, ofHostPort?_eq_some_iff.mpr ⟨rfl, hdenotes, hzone⟩⟩
  · exact ofHostPort?_eq_some_iff.mpr ⟨rfl, denotes_hostText ip, Nat.zero_lt_succ _⟩

/-- A zone has to fit into thirty-two bits, so not every host that denotes an address is read. -/
theorem wide_zone_is_refused :
    Denotes "[::1%4294967296]".toList (.v6 #v[0, 0, 0, 0, 0, 0, 0, 1]) 4294967296 ∧
      ofHostPort? "[::1%4294967296]" 8080 = none := by
  have hdenotes :
      Denotes "[::1%4294967296]".toList (.v6 #v[0, 0, 0, 0, 0, 0, 0, 1]) 4294967296 := by
    have hone : IsGroup ['1'] 1 := isGroup_hex 1
    have hgroups : Text6 "::1".toList (#v[0, 0, 0, 0, 0, 0, 0, 1] : Vector UInt16 8).toList :=
      .elided .empty (.groups (.group hone)) (by decide)
    have hzone : ZoneText "%4294967296".toList 4294967296 :=
      .number (spells_toDigits (by decide) (by decide) 4294967296)
    exact .groups hgroups hzone
  refine ⟨hdenotes, Option.eq_none_iff_forall_ne_some.mpr fun a ha => ?_⟩
  obtain ⟨-, hread, hzone⟩ := ofHostPort?_eq_some_iff.mp ha
  rw [← (hdenotes.unique hread).2] at hzone
  exact absurd hzone (by decide)

end Host

end DocRoot.SocketAddr
