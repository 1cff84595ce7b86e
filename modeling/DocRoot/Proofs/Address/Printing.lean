import DocRoot.Proofs.Address.Groups

/-!
# The printed address

What is printed of an address is one of its texts. The run of zeros that is left out is a part of
the groups, so the two colons in its place stand for as many zeros as it has.
-/

set_option autoImplicit false

namespace DocRoot.SocketAddr

open Ip (hex groupsText longestRun octetsText)

variable {gs : List UInt16}

theorem isGroup_hex (g : UInt16) : IsGroup (hex g.toNat).toList g := by
  rw [hex, String.toList_ofList]
  refine ⟨spells_toDigits (by decide) (by decide) _, ?_⟩
  exact (Nat.length_toDigits_le_iff (by decide) (by decide)).mpr g.toNat_lt

theorem groupsText_cons_cons (g g' : UInt16) (gs : List UInt16) :
    (groupsText (g :: g' :: gs)).toList =
      (hex g.toNat).toList ++ ':' :: (groupsText (g' :: gs)).toList := by
  simp [groupsText]

theorem GroupsText.groupsText (g : UInt16) (gs : List UInt16) :
    GroupsText false (Ip.groupsText (g :: gs)).toList (g :: gs) := by
  induction gs generalizing g with
  | nil =>
    have hone : Ip.groupsText [g] = hex g.toNat := by simp [Ip.groupsText]
    rw [hone]
    exact .group (isGroup_hex g)
  | cons g' gs ih =>
    rw [groupsText_cons_cons]
    exact .more (isGroup_hex g) (ih g')

theorem SideText.groupsText (gs : List UInt16) :
    SideText false (Ip.groupsText gs).toList gs := by
  cases gs with
  | nil => exact .empty
  | cons g gs => exact .groups (.groupsText g gs)

theorem takeWhile_zero (gs : List UInt16) :
    gs.takeWhile (· == 0) = List.replicate (Ip.zeros gs) 0 := by
  rw [Ip.zeros, List.eq_replicate_iff]
  refine ⟨rfl, fun g hg => ?_⟩
  exact beq_iff_eq.mp (List.all_eq_true.mp List.all_takeWhile g hg)

/-- The longest run, where there is one, lies in the groups and is counted from their front. -/
theorem exists_longestRun (i : Nat) (h : 0 < (longestRun i gs).2) : ∃ before after,
    gs = before ++ List.replicate (longestRun i gs).2 0 ++ after ∧
      (longestRun i gs).1 = i + before.length := by
  induction gs generalizing i with
  | nil => exact absurd h (Nat.lt_irrefl 0)
  | cons g gs ih =>
    by_cases hlater : Ip.zeros (g :: gs) < (longestRun (i + 1) gs).2
    · rw [longestRun, if_pos hlater] at h ⊢
      obtain ⟨before, after, hgs, hstart⟩ := ih (i + 1) h
      refine ⟨g :: before, after, ?_, ?_⟩
      · rw [List.cons_append, List.cons_append, ← hgs]
      · rw [hstart, List.length_cons, Nat.add_assoc, Nat.add_comm 1]
    · rw [longestRun, if_neg hlater]
      refine ⟨[], (g :: gs).dropWhile (· == 0), ?_, rfl⟩
      rw [List.nil_append, ← takeWhile_zero, List.takeWhile_append_dropWhile]

/-- Two colons in the place of the longest run leave the other groups as they are. -/
theorem Text6.of_run (hlength : gs.length = 8) (hrun : 1 < (longestRun 0 gs).2) :
    Text6 (groupsText (gs.take (longestRun 0 gs).1) ++ "::" ++
      groupsText (gs.drop ((longestRun 0 gs).1 + (longestRun 0 gs).2))).toList gs := by
  obtain ⟨before, after, hgs, hstart⟩ := exists_longestRun 0 (Nat.lt_of_succ_lt hrun)
  generalize longestRun 0 gs = run at hgs hstart hrun ⊢
  obtain ⟨start, count⟩ := run
  obtain rfl : start = before.length := hstart.trans (Nat.zero_add _)
  subst hgs
  rw [List.length_append, List.length_append, List.length_replicate] at hlength
  have htake : (before ++ List.replicate count 0 ++ after).take before.length = before := by
    rw [List.append_assoc, List.take_left]
  have hdrop : (before ++ List.replicate count 0 ++ after).drop (before.length + count) =
      after := by
    rw [List.drop_left' (by rw [List.length_append, List.length_replicate])]
  have helided : Text6 ((groupsText before).toList ++ ':' :: ':' :: (groupsText after).toList)
      (before ++ List.replicate (8 - (before.length + after.length)) 0 ++ after) :=
    .elided (.groupsText before) (.groupsText after) (by omega)
  have hcount : 8 - (before.length + after.length) = count := by omega
  rw [hcount] at helided
  simpa [htake, hdrop] using helided

theorem pair_div_mod (g : UInt16) : pair (g / 256).toUInt8 (g % 256).toUInt8 = g := by
  rw [pair, ← UInt16.toNat_inj]
  have := g.toNat_lt
  simp
  omega

/-- The printed groups are a text of the address. -/
theorem text6_text (groups : Vector UInt16 8) : Text6 (Ip.v6 groups).text.toList groups.toList := by
  have hlength : groups.toList.length = 8 := groups.length_toList
  rw [Ip.text]
  split
  · rename_i h l hgs
    rw [hgs]
    have hmark : IsGroup ['f', 'f', 'f', 'f'] 0xFFFF := isGroup_hex 0xFFFF
    have hback := GroupsText.more hmark
      (.octets (h / 256).toUInt8 (h % 256).toUInt8 (l / 256).toUInt8 (l % 256).toUInt8)
    have helided := Text6.elided .empty (.groups hback) (by simp)
    rw [pair_div_mod, pair_div_mod] at helided
    simpa using helided
  · dsimp only
    split
    · rename_i hrun
      exact .of_run hlength hrun
    · cases hlist : groups.toList with
      | nil =>
        rw [hlist] at hlength
        cases hlength
      | cons g gs =>
        rw [hlist] at hlength
        exact .whole (.groupsText g gs) hlength

end DocRoot.SocketAddr
