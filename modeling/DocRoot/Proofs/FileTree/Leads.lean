import DocRoot.FileTree.Walk

/-!
# Where steps lead

`Leads` tells what the walk does without its checks: by which paths it looks places up and
where it ends. A walk that may look up only some paths ends where the unlimited one does, or
not at all, so `walk_eq_ok_iff` compares any two walks over the same steps.
-/

set_option autoImplicit false

namespace DocRoot.FileTree

/-- A step that is looked up as a name. -/
structure Plain (s : Name) : Prop where
  moves : Path.stays s = false
  ne_dotdot : s ≠ Path.dotdot
  fits : s.length ≤ maxNameLength

theorem Plain.ne_nil {s : Name} (h : Plain s) : s ≠ [] := (Path.stays_eq_false_iff.mp h.moves).1

theorem Plain.ne_dot {s : Name} (h : Plain s) : s ≠ Path.dot :=
  (Path.stays_eq_false_iff.mp h.moves).2

theorem Plain.asksDirectory {s : Name} (h : Plain s) (rest : List Name) :
    Path.asksDirectory (s :: rest) = false := by
  simp [Path.asksDirectory, h.moves, h.ne_dotdot]

/-- The steps lead from `here` to the last place over at most `links` links. The list
holds the paths that places are looked up by on the way, in this order. -/
inductive Leads (t : FileTree) : Nat → Location → List Name → List Location → Location → Prop
  | arrived (links : Nat) (here : Location) : Leads t links here [] [] here
  | stay {links : Nat} {here l : Location} {s : Name} {rest : List Name} {seen : List Location} :
      Path.stays s = true → Leads t links here rest seen l → Leads t links here (s :: rest) seen l
  | dotdot {links : Nat} {here l : Location} {rest : List Name} {seen : List Location} :
      Leads t links here.dropLast rest seen l → Leads t links here (Path.dotdot :: rest) seen l
  | directory {links : Nat} {here l : Location} {s : Name} {rest : List Name}
      {seen : List Location} :
      Plain s → t.at? (here ++ [s]) = some .directory →
      Leads t links (here ++ [s]) rest seen l →
      Leads t links here (s :: rest) (lookedUp (here ++ [s]) rest ++ seen) l
  | link {links : Nat} {here l : Location} {s : Name} {rest : List Name} {seen : List Location}
      {target : Bytes} :
      Plain s → t.at? (here ++ [s]) = some (.link target) →
      Leads t links (if Path.isAbsolute target then [] else here) (Path.steps target ++ rest)
        seen l →
      Leads t (links + 1) here (s :: rest) ((here ++ [s]) :: seen) l
  | leaf {links : Nat} {here : Location} {s : Name} {n : Node} :
      Plain s → t.at? (here ++ [s]) = some n → n.isDirectory = false → n.isLink = false →
      Leads t links here [s] [here ++ [s]] (here ++ [s])

section Lookups
variable {t : FileTree} {place : Location} {rest : List Name}

theorem mem_lookedUp {x : Location} :
    x ∈ lookedUp place rest ↔ x = place ∨ Path.asksDirectory rest = true ∧ x = place ++ [[]] := by
  unfold lookedUp
  split
  · rename_i hasks
    simp [hasks]
  · rename_i hasks
    simp [hasks]

@[simp] theorem lookedUp_nil (place : Location) : lookedUp place [] = [place] := rfl

/-- In front of a name a place is looked up once. -/
theorem lookedUp_cons {s : Name} (hs : Plain s) (place : Location) (rest : List Name) :
    lookedUp place (s :: rest) = [place] := by
  rw [lookedUp, hs.asksDirectory]
  rfl

theorem lookedUp_of_plain (h : ∀ s ∈ rest, Plain s) (place : Location) :
    lookedUp place rest = [place] := by
  cases rest with
  | nil => rfl
  | cons s rest => exact lookedUp_cons (h s List.mem_cons_self) place rest

theorem lookups_of_not_link (h : (t.at? place).any (·.isLink) = false) (rest : List Name) :
    t.lookups place rest = lookedUp place rest := by
  rw [lookups, h]
  rfl

theorem lookups_of_link {target : Bytes} (h : t.at? place = some (.link target))
    (rest : List Name) : t.lookups place rest = [place] := by
  rw [lookups, h]
  rfl

end Lookups

section Walk
variable {t : FileTree} {ending : Ending} {visits : Location → Bool} {links : Nat}
  {here : Location} {s : Name} {rest : List Name}

/-- A walk takes one step after another, and starts anew at a link with one link less. -/
@[elab_as_elim] theorem walk_induction {motive : Nat → Location → List Name → Prop}
    (nil : ∀ links here, motive links here [])
    (cons : ∀ links here s rest, (∀ place, motive links place rest) →
      (∀ fewer place steps, links = fewer + 1 → motive fewer place steps) →
      motive links here (s :: rest)) :
    ∀ links here steps, motive links here steps := by
  intro links
  induction links with
  | zero =>
    intro here steps
    induction steps generalizing here with
    | nil => exact nil 0 here
    | cons s rest ih => exact cons 0 here s rest ih (fun _ _ _ h => absurd h (by simp))
  | succ links outer =>
    intro here steps
    induction steps generalizing here with
    | nil => exact nil (links + 1) here
    | cons s rest ih =>
      apply cons (links + 1) here s rest ih
      rintro fewer place steps h
      obtain rfl : links = fewer := by omega
      exact outer place steps

@[simp] theorem walk_nil : t.walk ending visits links here [] = .ok here := by
  cases links <;> rfl

theorem walk_stay (h : Path.stays s = true) :
    t.walk ending visits links here (s :: rest) = t.walk ending visits links here rest := by
  cases links <;> simp [walk, walkWith, h]

@[simp] theorem walk_dotdot :
    t.walk ending visits links here (Path.dotdot :: rest) =
      t.walk ending visits links here.dropLast rest := by
  have hmoves : Path.stays Path.dotdot = false := by decide
  cases links <;> simp [walk, walkWith, hmoves]

theorem walk_long (hmoves : Path.stays s = false) (hdd : s ≠ Path.dotdot)
    (h : maxNameLength < s.length) :
    t.walk ending visits links here (s :: rest) = .error .nameTooLong := by
  cases links <;> simp [walk, walkWith, hmoves, hdd, h]

/-- What the walk does where a link is met. -/
def followLink (t : FileTree) (ending : Ending) (visits : Location → Bool) (here : Location)
    (steps : List Name) : Nat → Except Fault Location
  | 0 => .error .tooManyLinks
  | links + 1 => t.walk ending visits links here steps

theorem walk_plain (hs : Plain s) :
    t.walk ending visits links here (s :: rest) =
      if (t.lookups (here ++ [s]) rest).all visits then
        match t.at? (here ++ [s]) with
        | none => if rest = [] ∧ ending = .create then .ok (here ++ [s]) else .error .noEntry
        | some .directory => t.walk ending visits links (here ++ [s]) rest
        | some (.link target) =>
          if rest = [] ∧ ending = .keep then .ok (here ++ [s])
          else
            t.followLink ending visits (if Path.isAbsolute target then [] else here)
              (Path.steps target ++ rest) links
        | some _ => if rest = [] then .ok (here ++ [s]) else .error .notADirectory
      else .error .nameTooLong := by
  have hfits := Nat.not_lt.mpr hs.fits
  cases hv : (t.lookups (here ++ [s]) rest).all visits with
  | false =>
    cases links <;>
      simp only [walk, walkWith, hs.moves, hs.ne_dotdot, hfits, hv, if_false, Bool.false_eq_true,
        Bool.not_false, if_true]
  | true =>
    cases hn : t.at? (here ++ [s]) with
    | none =>
      cases links <;>
        simp only [walk, walkWith, hs.moves, hs.ne_dotdot, hfits, hv, hn, if_false,
          Bool.false_eq_true, Bool.not_true, if_true]
    | some n =>
      cases n <;> cases links <;>
        simp only [walk, walkWith, followLink, hs.moves, hs.ne_dotdot, hfits, hv, hn, if_false,
          Bool.false_eq_true, Bool.not_true, if_true]

/-- A step that the walk gets past stays, is two dots or is a name. -/
theorem step_cases {l : Location} (h : t.walk ending visits links here (s :: rest) = .ok l) :
    Path.stays s = true ∨ s = Path.dotdot ∨ Plain s := by
  cases hmoves : Path.stays s with
  | true => exact Or.inl rfl
  | false =>
    by_cases hdd : s = Path.dotdot
    · exact Or.inr (Or.inl hdd)
    by_cases hf : maxNameLength < s.length
    · rw [walk_long hmoves hdd hf] at h
      cases h
    · exact Or.inr (Or.inr ⟨hmoves, hdd, Nat.not_lt.mp hf⟩)

/-- A walk that follows every link and arrives has found its way by `Leads`, also in a tree
that has more than it has seen. If it may end at nothing, something is there in that tree. -/
theorem leads_of_walk_in {u : FileTree} {steps : List Name} {l : Location}
    (follows : ending ≠ .keep) (keeps : ∀ m n, t.at? m = some n → u.at? m = some n)
    (fresh : ending = .create → t.at? l = none →
      ∃ n, u.at? l = some n ∧ n.isDirectory = false ∧ n.isLink = false)
    (h : t.walk ending visits links here steps = .ok l) :
    ∃ seen, u.Leads links here steps seen l ∧ ∀ p ∈ seen, visits p = true := by
  induction links, here, steps using walk_induction with
  | nil links here =>
    obtain rfl : here = l := by simpa using h
    exact ⟨[], .arrived links here, by simp⟩
  | cons links here s rest ihRest ihLink =>
    rcases step_cases h with hstays | rfl | hs
    · obtain ⟨seen, hl, hv⟩ := ihRest here (by rwa [walk_stay hstays] at h)
      exact ⟨seen, .stay hstays hl, hv⟩
    · obtain ⟨seen, hl, hv⟩ := ihRest here.dropLast (by simpa using h)
      exact ⟨seen, .dotdot hl, hv⟩
    rw [walk_plain hs] at h
    cases hv : (t.lookups (here ++ [s]) rest).all visits with
    | false => simp [hv] at h
    | true =>
    simp only [hv, if_true] at h
    have hlooked : ∀ p ∈ t.lookups (here ++ [s]) rest, visits p = true := List.all_eq_true.mp hv
    cases hn : t.at? (here ++ [s]) with
    | none =>
      simp only [hn] at h
      split at h
      · rename_i hend
        obtain ⟨rfl, hcreate⟩ := hend
        obtain rfl := Except.ok.inj h
        obtain ⟨n, hu, hd, hlink⟩ := fresh hcreate hn
        rw [lookups_of_not_link (by simp [hn])] at hlooked
        exact ⟨_, .leaf hs hu hd hlink, hlooked⟩
      · cases h
    | some n =>
      cases n with
      | directory =>
        obtain ⟨seen, hl, hseen⟩ := ihRest (here ++ [s]) (by simpa [hn] using h)
        rw [lookups_of_not_link (by simp [hn, Node.isLink])] at hlooked
        exact ⟨_, .directory hs (keeps _ _ hn) hl, List.forall_mem_append.mpr ⟨hlooked, hseen⟩⟩
      | link target =>
        cases links with
        | zero => simp [hn, followLink, follows] at h
        | succ links =>
          obtain ⟨seen, hl, hseen⟩ :=
            ihLink links _ _ rfl (by simpa [hn, followLink, follows] using h)
          rw [lookups_of_link hn] at hlooked
          exact ⟨_, .link hs (keeps _ _ hn) hl,
            List.forall_mem_cons.mpr ⟨hlooked _ List.mem_cons_self, hseen⟩⟩
      | _ =>
        simp only [hn] at h
        split at h
        · rename_i hr
          subst hr
          obtain rfl := Except.ok.inj h
          rw [lookups_of_not_link (by simp [hn, Node.isLink])] at hlooked
          exact ⟨_, .leaf hs (keeps _ _ hn) rfl rfl, hlooked⟩
        · cases h

theorem leads_of_walk {steps : List Name} {l : Location}
    (h : t.walk .follow visits links here steps = .ok l) :
    ∃ seen, t.Leads links here steps seen l ∧ ∀ p ∈ seen, visits p = true :=
  leads_of_walk_in (by simp) (fun _ _ hn => hn) (by simp) h

theorem Leads.walk_eq {steps : List Name} {seen : List Location} {l : Location}
    (h : t.Leads links here steps seen l) (hv : ∀ p ∈ seen, visits p = true) :
    t.walk .follow visits links here steps = .ok l := by
  induction h with
  | arrived => simp
  | stay hstays _ ih => rw [walk_stay hstays, ih hv]
  | dotdot _ ih => simpa using ih hv
  | directory hs hn _ ih =>
    obtain ⟨hlooked, hrest⟩ := List.forall_mem_append.mp hv
    rw [walk_plain hs, lookups_of_not_link (by simp [hn, Node.isLink]),
      List.all_eq_true.mpr hlooked, hn]
    exact ih hrest
  | link hs hn _ ih =>
    obtain ⟨hp, hrest⟩ := List.forall_mem_cons.mp hv
    simpa [walk_plain hs, lookups_of_link hn, hp, hn, followLink] using ih hrest
  | @leaf _ _ _ n hs hn hd hl =>
    rw [walk_plain hs, lookups_of_not_link (by simp [hn, hl]), lookedUp_nil,
      List.all_eq_true.mpr hv, hn]
    cases n <;> simp_all [Node.isDirectory, Node.isLink]

theorem walk_eq_ok_iff {steps : List Name} {l : Location} :
    t.walk .follow visits links here steps = .ok l ↔
      ∃ seen, t.Leads links here steps seen l ∧ ∀ p ∈ seen, visits p = true :=
  ⟨leads_of_walk, fun ⟨_, h, hv⟩ => h.walk_eq hv⟩

/-- The steps lead one way only, over the same places to the same end. -/
theorem Leads.unique {steps : List Name} {seen seen' : List Location} {l l' : Location}
    (h : t.Leads links here steps seen l) (h' : t.Leads links here steps seen' l') :
    seen = seen' ∧ l = l' := by
  induction h generalizing seen' l' with
  | arrived =>
    cases h' with
    | arrived => exact ⟨rfl, rfl⟩
  | stay hstays _ ih =>
    cases h' with
    | stay _ h' => exact ih h'
    | dotdot _ => cases hstays
    | directory hs _ _ => cases hs.moves.symm.trans hstays
    | link hs _ _ => cases hs.moves.symm.trans hstays
    | leaf hs _ _ _ => cases hs.moves.symm.trans hstays
  | dotdot _ ih =>
    cases h' with
    | stay hstays _ => cases hstays
    | dotdot h' => exact ih h'
    | directory hs _ _ => exact absurd rfl hs.ne_dotdot
    | link hs _ _ => exact absurd rfl hs.ne_dotdot
    | leaf hs _ _ _ => exact absurd rfl hs.ne_dotdot
  | directory hs hn _ ih =>
    cases h' with
    | stay hstays _ => cases hs.moves.symm.trans hstays
    | dotdot _ => exact absurd rfl hs.ne_dotdot
    | directory _ _ h' =>
      obtain ⟨rfl, rfl⟩ := ih h'
      exact ⟨rfl, rfl⟩
    | link _ hn' _ => cases hn.symm.trans hn'
    | leaf _ hn' hd _ =>
      cases hn.symm.trans hn'
      cases hd
  | link hs hn _ ih =>
    cases h' with
    | stay hstays _ => cases hs.moves.symm.trans hstays
    | dotdot _ => exact absurd rfl hs.ne_dotdot
    | directory _ hn' _ => cases hn.symm.trans hn'
    | link _ hn' h' =>
      cases hn.symm.trans hn'
      obtain ⟨rfl, rfl⟩ := ih h'
      exact ⟨rfl, rfl⟩
    | leaf _ hn' _ hl =>
      cases hn.symm.trans hn'
      cases hl
  | leaf hs hn hd hl =>
    cases h' with
    | stay hstays _ => cases hs.moves.symm.trans hstays
    | dotdot _ => exact absurd rfl hs.ne_dotdot
    | directory _ hn' _ =>
      cases hn.symm.trans hn'
      cases hd
    | link _ hn' _ =>
      cases hn.symm.trans hn'
      cases hl
    | leaf _ _ _ _ => exact ⟨rfl, rfl⟩

end Walk

end DocRoot.FileTree
