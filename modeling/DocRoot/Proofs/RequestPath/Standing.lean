import DocRoot.RequestPath

/-!
# Which pieces of a path stand

`walk` keeps a stack. Here the same is said of the places of the pieces: a step up takes back
the nearest name before it that no earlier step has taken back, and what no step takes back
stands. `leaves_walk` reads the stack off the places.
-/

set_option autoImplicit false

namespace DocRoot.RequestPath

/-- The piece at this place is neither empty nor a step. -/
def NameAt (pieces : List (List Char)) (i : Nat) : Prop :=
  ∃ p, pieces[i]? = some p ∧ p ≠ [] ∧ p ≠ ['.'] ∧ p ≠ ['.', '.']

/-- The step up at `j` takes back the name at `i`: it still stands, and no name between
the two does. -/
def TakesBack (pieces : List (List Char)) (j i : Nat) : Prop :=
  pieces[j]? = some ['.', '.'] ∧ i < j ∧ NameAt pieces i ∧
    (∀ earlier, earlier < j → ¬TakesBack pieces earlier i) ∧
    ∀ k, i < k → k < j → NameAt pieces k →
      ∃ earlier, ∃ _ : earlier < j, TakesBack pieces earlier k
termination_by j

/-- The piece at this place is a name that no step up takes back. -/
def Stands (pieces : List (List Char)) (i : Nat) : Prop :=
  NameAt pieces i ∧ ∀ j, ¬TakesBack pieces j i

/-- The step up at this place finds no name that stands, and is passed over. -/
def Overreaches (pieces : List (List Char)) (j : Nat) : Prop :=
  pieces[j]? = some ['.', '.'] ∧ ∀ i, ¬TakesBack pieces j i

/-- The names are the pieces that stand, in their order. -/
def Leaves (pieces : List (List Char)) (names : List String) : Prop :=
  ∃ places : List Nat, places.Pairwise (· < ·) ∧ (∀ i, i ∈ places ↔ Stands pieces i) ∧
    names.map (some ·.toList) = places.map (pieces[·]?)

section Places
variable {pieces stack : List (List Char)} {places : List Nat} {p : List Char} {n i : Nat}

/-- The name has not been taken back by any step before `n`. -/
def StandsBefore (pieces : List (List Char)) (n i : Nat) : Prop :=
  i < n ∧ NameAt pieces i ∧ ∀ j, j < n → ¬TakesBack pieces j i

theorem NameAt.lt_length (h : NameAt pieces i) : i < pieces.length := by
  obtain ⟨p, hp, _⟩ := h
  exact (List.getElem?_eq_some_iff.mp hp).1

/-- A step up takes back the last name that stands before it. -/
theorem takesBack_iff :
    TakesBack pieces n i ↔
      pieces[n]? = some ['.', '.'] ∧ StandsBefore pieces n i ∧
        ∀ k, i < k → ¬StandsBefore pieces n k := by
  rw [TakesBack]
  constructor
  · rintro ⟨hn, hi, hname, hfree, hbetween⟩
    refine ⟨hn, ⟨hi, hname, hfree⟩, ?_⟩
    rintro k hk ⟨hkn, hkname, hkfree⟩
    obtain ⟨earlier, he, htaken⟩ := hbetween k hk hkn hkname
    exact hkfree earlier he htaken
  · rintro ⟨hn, ⟨hi, hname, hfree⟩, hlast⟩
    refine ⟨hn, hi, hname, hfree, ?_⟩
    intro k hk hkn hkname
    apply Classical.byContradiction
    intro hnone
    refine hlast k hk ⟨hkn, hkname, ?_⟩
    intro earlier he htaken
    exact hnone ⟨earlier, he, htaken⟩

theorem standsBefore_succ_iff :
    StandsBefore pieces (n + 1) i ↔
      (StandsBefore pieces n i ∧ ¬TakesBack pieces n i) ∨ i = n ∧ NameAt pieces n := by
  constructor
  · rintro ⟨hi, hname, hfree⟩
    by_cases he : i = n
    · subst he
      exact Or.inr ⟨rfl, hname⟩
    · exact Or.inl ⟨⟨by omega, hname, fun j hj => hfree j (by omega)⟩, hfree n (by omega)⟩
  · rintro (⟨⟨hi, hname, hfree⟩, hn⟩ | ⟨rfl, hname⟩)
    · refine ⟨by omega, hname, ?_⟩
      intro j hj
      by_cases he : j = n
      · exact he ▸ hn
      · exact hfree j (by omega)
    · refine ⟨by omega, hname, ?_⟩
      intro j hj htaken
      have := (takesBack_iff.mp htaken).2.1.1
      omega

theorem stands_iff : Stands pieces i ↔ StandsBefore pieces pieces.length i := by
  constructor
  · rintro ⟨hname, hfree⟩
    exact ⟨hname.lt_length, hname, fun j _ => hfree j⟩
  · rintro ⟨_, hname, hfree⟩
    refine ⟨hname, ?_⟩
    intro j htaken
    obtain ⟨hj, _⟩ := takesBack_iff.mp htaken
    exact hfree j (List.getElem?_eq_some_iff.mp hj).1 htaken

/-- The stack holds the pieces that stand before `n`, the last of them first. -/
structure Stacks (pieces : List (List Char)) (n : Nat) (stack : List (List Char))
    (places : List Nat) : Prop where
  descending : places.Pairwise (· > ·)
  mem_iff : ∀ i, i ∈ places ↔ StandsBefore pieces n i
  read : stack.map some = places.map (pieces[·]?)

theorem stacks_zero : Stacks pieces 0 [] [] where
  descending := .nil
  mem_iff := by
    intro i
    simp [StandsBefore]
  read := rfl

/-- The piece is no step up and no name. -/
theorem Stacks.skip (h : Stacks pieces n stack places) (hup : pieces[n]? ≠ some ['.', '.'])
    (hname : ¬NameAt pieces n) : Stacks pieces (n + 1) stack places where
  descending := h.descending
  mem_iff := by
    intro i
    have hnot : ¬TakesBack pieces n i := fun ht => hup (takesBack_iff.mp ht).1
    simp [h.mem_iff, standsBefore_succ_iff, hnot, hname]
  read := h.read

theorem Stacks.name (h : Stacks pieces n stack places) (hn : pieces[n]? = some p)
    (hname : NameAt pieces n) : Stacks pieces (n + 1) (p :: stack) (n :: places) where
  descending := by
    refine List.pairwise_cons.mpr ⟨?_, h.descending⟩
    intro i hi
    exact ((h.mem_iff i).mp hi).1
  mem_iff := by
    intro i
    have hnot : ¬TakesBack pieces n i := by
      intro ht
      obtain ⟨q, hq, _, _, hne⟩ := hname
      exact hne (Option.some.inj (hq.symm.trans (takesBack_iff.mp ht).1))
    rw [standsBefore_succ_iff, List.mem_cons, h.mem_iff]
    simp only [hnot, not_false_eq_true, and_true, hname]
    exact or_comm
  read := by
    rw [List.map_cons, List.map_cons, h.read, hn]

/-- The last name that stands is the one that a step up takes back. -/
theorem Stacks.takesBack_iff_head (h : Stacks pieces n stack places)
    (hn : pieces[n]? = some ['.', '.']) : TakesBack pieces n i ↔ places.head? = some i := by
  rw [takesBack_iff]
  cases hplaces : places with
  | nil =>
    have hnone : ¬StandsBefore pieces n i := by
      rw [← h.mem_iff, hplaces]
      exact List.not_mem_nil
    simp [hnone]
  | cons last rest =>
    have hsorted := h.descending
    rw [hplaces, List.pairwise_cons] at hsorted
    have hmem : ∀ k, StandsBefore pieces n k ↔ k = last ∨ k ∈ rest := by
      intro k
      rw [← h.mem_iff, hplaces, List.mem_cons]
    simp only [hn, true_and, hmem, List.head?_cons, Option.some.injEq]
    constructor
    · rintro ⟨rfl | hi, hlast⟩
      · rfl
      · exact absurd (Or.inl rfl) (hlast last (hsorted.1 i hi))
    · rintro rfl
      refine ⟨Or.inl rfl, ?_⟩
      rintro k hk (rfl | hrest)
      · omega
      · have := hsorted.1 k hrest
        omega

theorem Stacks.up (h : Stacks pieces n stack places) (hn : pieces[n]? = some ['.', '.']) :
    Stacks pieces (n + 1) stack.tail places.tail where
  descending := h.descending.tail
  mem_iff := by
    intro i
    have hname : ¬NameAt pieces n := by
      rintro ⟨q, hq, _, _, hne⟩
      exact hne (Option.some.inj (hq.symm.trans hn))
    rw [standsBefore_succ_iff, ← h.mem_iff, h.takesBack_iff_head hn]
    simp only [hname, and_false, or_false]
    cases hplaces : places with
    | nil => simp
    | cons last rest =>
      have hsorted := h.descending
      rw [hplaces, List.pairwise_cons] at hsorted
      simp only [List.tail_cons, List.mem_cons, List.head?_cons, Option.some.injEq]
      constructor
      · intro hi
        have := hsorted.1 i hi
        exact ⟨Or.inr hi, by omega⟩
      · rintro ⟨rfl | hi, hne⟩
        · exact absurd rfl hne
        · exact hi
  read := by
    rw [List.map_tail, List.map_tail, h.read]

theorem Stacks.push (h : Stacks pieces n stack places) (hn : pieces[n]? = some p) :
    ∃ places', Stacks pieces (n + 1) (RequestPath.push stack p) places' := by
  unfold RequestPath.push
  split
  · rename_i hskip
    refine ⟨places, h.skip ?_ ?_⟩
    · rw [hn]
      rintro ⟨rfl⟩
      simp at hskip
    · rintro ⟨q, hq, hempty, hdot, _⟩
      obtain rfl := Option.some.inj (hn.symm.trans hq)
      exact hskip.elim hempty hdot
  · rename_i hskip
    split
    · rename_i hup
      subst hup
      exact ⟨places.tail, h.up hn⟩
    · rename_i hup
      exact ⟨n :: places, h.name hn
        ⟨p, hn, fun he => hskip (.inl he), fun he => hskip (.inr he), hup⟩⟩

theorem stacks_walk (pieces : List (List Char)) {n : Nat} (hn : n ≤ pieces.length) :
    ∃ places, Stacks pieces n (walk [] (pieces.take n)) places := by
  induction n with
  | zero => exact ⟨[], stacks_zero⟩
  | succ n ih =>
    obtain ⟨places, h⟩ := ih (by omega)
    have hget : pieces[n]? = some pieces[n] := List.getElem?_eq_getElem (by omega)
    rw [List.take_succ_eq_append_getElem (by omega), walk_append]
    exact h.push hget

/-- What the walk leaves is what stands. -/
theorem leaves_walk (pieces : List (List Char)) :
    Leaves pieces ((walk [] pieces).reverse.map String.ofList) := by
  obtain ⟨places, h⟩ := stacks_walk pieces (Nat.le_refl _)
  rw [List.take_length] at h
  refine ⟨places.reverse, List.pairwise_reverse.mpr h.descending, ?_, ?_⟩
  · intro i
    rw [List.mem_reverse, h.mem_iff, stands_iff]
  · rw [List.map_reverse (f := fun i => pieces[i]?), ← h.read]
    simp

theorem push_append {standing : List (List Char)} (h : p = ['.', '.'] → stack ≠ []) :
    push (stack ++ standing) p = push stack p ++ standing := by
  unfold push
  split
  · rfl
  · split
    · rename_i hup
      obtain ⟨last, rest, rfl⟩ := List.exists_cons_of_ne_nil (h hup)
      rfl
    · rfl

/-- Where no step up overreaches, what stood before the pieces is not touched. -/
theorem walk_of_not_overreaches (h : ∀ j, ¬Overreaches pieces j)
    (standing : List (List Char)) : walk standing pieces = walk [] pieces ++ standing := by
  have hprefix : ∀ n, n ≤ pieces.length →
      walk standing (pieces.take n) = walk [] (pieces.take n) ++ standing := by
    intro n
    induction n with
    | zero =>
      intro _
      rfl
    | succ n ih =>
      intro hn
      have hget : pieces[n]? = some pieces[n] := List.getElem?_eq_getElem (by omega)
      obtain ⟨places, hstacks⟩ := stacks_walk pieces (n := n) (by omega)
      rw [List.take_succ_eq_append_getElem (by omega), walk_append, walk_append, ih (by omega)]
      apply push_append
      intro hup
      rw [hup] at hget
      obtain ⟨i, hi⟩ : ∃ i, TakesBack pieces n i :=
        Classical.byContradiction fun hnone => h n ⟨hget, not_exists.mp hnone⟩
      have hread := hstacks.read
      intro hempty
      rw [hempty, List.map_nil, eq_comm, List.map_eq_nil_iff] at hread
      rw [hstacks.takesBack_iff_head hget, hread] at hi
      cases hi
  simpa using hprefix pieces.length (Nat.le_refl _)

end Places

end DocRoot.RequestPath
