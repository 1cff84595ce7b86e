import DocRoot.Proofs.FileTree.Leads

/-!
# Places spelled without links

A place is spelled without links if all that stands above it is a directory. Steps
lead to such places only, and such a place is found under its own spelling. From this
follows what the operations on a path share: they agree on the place, because each of
them ends where `resolve` does.
-/

set_option autoImplicit false

namespace DocRoot.FileTree

/-- The node stands at this place, and its spelling goes through directories only. -/
structure Holds (t : FileTree) (l : Location) (n : Node) : Prop where
  node : t.at? l = some n
  plain : ∀ s ∈ l, Plain s
  above : ∀ dir, dir <+: l → dir ≠ l → t.at? dir = some .directory

section Spelling
variable {t : FileTree} {links : Nat} {here l : Location} {s : Name} {n m : Node}
  {steps names : List Name} {seen : List Location}

theorem holds_top (t : FileTree) : t.Holds [] .directory where
  node := rfl
  plain := by simp
  above := by
    intro dir hp hne
    exact absurd (List.prefix_nil.mp hp) hne

theorem Holds.node_unique (h : t.Holds l n) (h' : t.Holds l m) : n = m :=
  Option.some.inj (h.node.symm.trans h'.node)

theorem Holds.child (h : t.Holds here .directory) (hs : Plain s)
    (hn : t.at? (here ++ [s]) = some n) : t.Holds (here ++ [s]) n where
  node := hn
  plain := by
    intro x hx
    rcases List.mem_append.mp hx with hx | hx
    · exact h.plain x hx
    · obtain rfl := List.mem_singleton.mp hx
      exact hs
  above := by
    intro dir hp hne
    have hp' : dir <+: here := (List.prefix_concat_iff.mp hp).resolve_left hne
    by_cases he : dir = here
    · exact he ▸ h.node
    · exact h.above dir hp' he

theorem Holds.parent (h : t.Holds here .directory) : t.Holds here.dropLast .directory where
  node := by
    by_cases he : here.dropLast = here
    · rw [he]
      exact h.node
    · exact h.above _ (List.dropLast_prefix here) he
  plain := fun x hx => h.plain x (List.dropLast_subset here hx)
  above := by
    intro dir hp hne
    have hp' := hp.trans (List.dropLast_prefix here)
    apply h.above dir hp'
    rintro rfl
    exact hne (hp.eq_of_length_le (List.dropLast_prefix dir).length_le)

/-- Where steps lead there is a node that is no link, and links are not in the way. -/
theorem Leads.holds (h : t.Leads links here steps seen l) (hd : t.Holds here .directory) :
    ∃ n, t.Holds l n ∧ n.isLink = false := by
  induction h with
  | arrived => exact ⟨.directory, hd, rfl⟩
  | stay _ _ ih => exact ih hd
  | dotdot _ ih => exact ih hd.parent
  | directory hs hn _ ih => exact ih (hd.child hs hn)
  | @link _ here _ _ _ _ target hs hn _ ih =>
    apply ih
    split
    · exact holds_top t
    · exact hd
  | leaf hs hn _ hl => exact ⟨_, hd.child hs hn, hl⟩

/-- What is found, but for a directory, has been looked up under its own spelling. -/
theorem Leads.end_mem_seen (h : t.Leads links here steps seen l) (hd : t.Holds here .directory) :
    t.Holds l .directory ∨ l ∈ seen := by
  induction h with
  | arrived => exact Or.inl hd
  | stay _ _ ih => exact ih hd
  | dotdot _ ih => exact ih hd.parent
  | directory hs hn _ ih => exact (ih (hd.child hs hn)).imp_right (List.mem_append_right _)
  | @link _ here _ _ _ _ target hs hn _ ih =>
    refine (ih ?_).imp_right (List.mem_cons_of_mem _)
    split
    · exact holds_top t
    · exact hd
  | leaf => exact Or.inr List.mem_cons_self

/-- A place spelled without links is found under its own spelling, over its own beginnings. -/
theorem Holds.leads (h : t.Holds (here ++ names) n) (hl : n.isLink = false) :
    ∃ seen, t.Leads links here names seen (here ++ names) ∧ ∀ p ∈ seen, p <+: here ++ names := by
  induction names generalizing here with
  | nil => exact ⟨[], by simpa using Leads.arrived links here, by simp⟩
  | cons s rest ih =>
    have hs : Plain s := h.plain s (by simp)
    have hstep : here ++ s :: rest = here ++ [s] ++ rest := by simp
    have hp : here ++ [s] <+: here ++ s :: rest := ⟨rest, hstep.symm⟩
    rw [hstep] at h
    obtain ⟨seen, hrest, hseen⟩ := ih h
    rw [← hstep] at h hrest hseen
    by_cases hr : rest = []
    · subst hr
      by_cases hd : n.isDirectory = true
      · have hn : n = .directory := by cases n <;> simp_all [Node.isDirectory]
        exact ⟨_, .directory hs (hn ▸ h.node) hrest, List.forall_mem_cons.mpr ⟨hp, hseen⟩⟩
      · exact ⟨_, .leaf hs h.node (by simpa using hd) hl, by simp⟩
    · have hdir : t.at? (here ++ [s]) = some .directory := h.above _ hp (by simpa using hr)
      have hplain : ∀ x ∈ rest, Plain x := fun x hx => h.plain x (by simp [hx])
      refine ⟨_, .directory hs hdir hrest, ?_⟩
      rw [lookedUp_of_plain hplain]
      exact List.forall_mem_cons.mpr ⟨hp, hseen⟩

end Spelling

section Operations
variable {t : FileTree} {steps : List Name} {l : Location} {n : Node} {content : Bytes}

theorem textLength_mono {p q : List Name} (h : p <+: q) :
    Path.textLength p ≤ Path.textLength q := by
  obtain ⟨r, rfl⟩ := h
  simp

theorem acceptPath_eq_ok_iff :
    acceptPath steps = .ok () ↔
      (∀ s ∈ steps, 0 ∉ s) ∧ Path.textLength steps ≤ maxPathLength := by
  unfold acceptPath
  by_cases hz : steps.any (·.contains 0)
  · obtain ⟨s, hs, h0⟩ := List.any_eq_true.mp hz
    have hnot : ¬∀ s ∈ steps, 0 ∉ s := fun hall => hall s hs (List.contains_iff_mem.mp h0)
    rw [if_pos hz]
    simp [hnot]
  · have hall : ∀ s ∈ steps, 0 ∉ s := by simpa using hz
    rw [if_neg hz]
    split
    · rename_i hlong
      simp [Nat.not_le.mpr hlong]
    · rename_i hshort
      exact iff_of_true rfl ⟨hall, Nat.not_lt.mp hshort⟩

theorem resolve_eq_ok_iff :
    t.resolve steps = .ok l ↔
      acceptPath steps = .ok () ∧ ∃ seen, t.Leads maxLinks [] steps seen l := by
  have hwalk : t.walk .follow (fun _ => true) maxLinks [] steps = .ok l ↔
      ∃ seen, t.Leads maxLinks [] steps seen l := walk_eq_ok_iff.trans (by simp)
  unfold resolve locate
  cases h : acceptPath steps with
  | error e => simp [bind, Except.bind]
  | ok u => simpa [bind, Except.bind] using hwalk

/-- Of the steps it only matters that they hold no NUL: they are not looked up as a whole. -/
theorem canonicalize_eq_ok_iff :
    t.canonicalize steps = .ok l ↔
      (∀ s ∈ steps, 0 ∉ s) ∧ ∃ seen, t.Leads maxLinks [] steps seen l ∧
        ∀ p ∈ seen, Path.textLength p ≤ maxPathLength := by
  unfold canonicalize
  by_cases hz : steps.any (·.contains 0)
  · obtain ⟨s, hs, h0⟩ := List.any_eq_true.mp hz
    have hnot : ¬∀ s ∈ steps, 0 ∉ s := fun hall => hall s hs (List.contains_iff_mem.mp h0)
    rw [if_pos hz]
    simp [hnot]
  · have hall : ∀ s ∈ steps, 0 ∉ s := by simpa using hz
    rw [if_neg hz, walk_eq_ok_iff, and_iff_right hall]
    simp

/-- A place spelled without links is its own canonical path, if that fits. -/
theorem Holds.canonicalize_self (h : t.Holds l n) (hl : n.isLink = false)
    (hz : ∀ s ∈ l, 0 ∉ s) (hfits : Path.textLength l ≤ maxPathLength) :
    t.canonicalize l = .ok l := by
  have hself : t.Holds ([] ++ l) n := h
  obtain ⟨seen, hseen, hbelow⟩ := hself.leads hl
  refine canonicalize_eq_ok_iff.mpr ⟨hz, seen, hseen, ?_⟩
  exact fun p hp => Nat.le_trans (textLength_mono (hbelow p hp)) hfits

/-- The place that is checked is the place that is opened. -/
theorem resolve_of_canonicalize (ha : acceptPath steps = .ok ())
    (h : t.canonicalize steps = .ok l) : t.resolve steps = .ok l := by
  obtain ⟨_, seen, hl, _⟩ := canonicalize_eq_ok_iff.mp h
  exact resolve_eq_ok_iff.mpr ⟨ha, seen, hl⟩

/-- Steps that lead somewhere have a canonical place, unless a path that is looked up on the
way is too long. -/
theorem canonicalize_of_resolve (h : t.resolve steps = .ok l) :
    t.canonicalize steps = .ok l ∨ ∃ seen, t.Leads maxLinks [] steps seen l ∧
      ∃ p ∈ seen, maxPathLength < Path.textLength p := by
  obtain ⟨ha, seen, hl⟩ := resolve_eq_ok_iff.mp h
  by_cases hlong : ∃ p ∈ seen, maxPathLength < Path.textLength p
  · exact Or.inr ⟨seen, hl, hlong⟩
  · refine Or.inl (canonicalize_eq_ok_iff.mpr ⟨(acceptPath_eq_ok_iff.mp ha).1, seen, hl, ?_⟩)
    intro p hp
    exact Nat.not_lt.mp fun hp' => hlong ⟨p, hp, hp'⟩

/-- Steps on whose way too long a path is looked up have no canonical place. -/
theorem canonicalize_ne_ok {seen : List Location} {p place : Location}
    (h : t.Leads maxLinks [] steps seen l) (hp : p ∈ seen)
    (hlong : maxPathLength < Path.textLength p) : t.canonicalize steps ≠ .ok place := by
  intro hc
  obtain ⟨_, seen', hl, hfits⟩ := canonicalize_eq_ok_iff.mp hc
  obtain ⟨rfl, _⟩ := h.unique hl
  exact Nat.not_le.mpr hlong (hfits p hp)

theorem holds_of_resolve (h : t.resolve steps = .ok l) : ∃ n, t.Holds l n ∧ n.isLink = false := by
  obtain ⟨_, seen, hl⟩ := resolve_eq_ok_iff.mp h
  exact hl.holds (holds_top t)

theorem node_eq_ok_iff : t.node steps = .ok n ↔ ∃ l, t.resolve steps = .ok l ∧ t.Holds l n := by
  unfold node
  cases h : t.resolve steps with
  | error e => simp [bind, Except.bind]
  | ok l =>
    obtain ⟨m, hm, _⟩ := holds_of_resolve h
    simp only [bind, Except.bind, hm.node, Except.ok.injEq]
    constructor
    · rintro rfl
      exact ⟨l, rfl, hm⟩
    · rintro ⟨_, rfl, hn⟩
      exact hm.node_unique hn

theorem node_of_resolve (h : t.resolve steps = .ok l) (hn : t.Holds l n) : t.node steps = .ok n :=
  node_eq_ok_iff.mpr ⟨l, h, hn⟩

theorem read_of_resolve (h : t.resolve steps = .ok l) (hn : t.Holds l n) :
    t.read steps = n.reading.result := by
  rw [read, node_of_resolve h hn]
  rfl

theorem isFile_iff :
    t.isFile steps = true ↔ ∃ l content, t.resolve steps = .ok l ∧ t.Holds l (.file content) := by
  have h : t.isFile steps = true ↔ ∃ content, t.node steps = .ok (.file content) := by
    unfold isFile
    cases t.node steps with
    | error e => simp
    | ok n => cases n <;> simp [Node.isFile]
  rw [h]
  constructor
  · rintro ⟨content, hn⟩
    obtain ⟨l, hl, hf⟩ := node_eq_ok_iff.mp hn
    exact ⟨l, content, hl, hf⟩
  · rintro ⟨l, content, hl, hf⟩
    exact ⟨content, node_of_resolve hl hf⟩

theorem isDirectory_iff :
    t.isDirectory steps = true ↔ ∃ l, t.resolve steps = .ok l ∧ t.Holds l .directory := by
  have h : t.isDirectory steps = true ↔ t.node steps = .ok .directory := by
    unfold isDirectory
    cases t.node steps with
    | error e => simp
    | ok n => cases n <;> simp [Node.isDirectory]
  rw [h, node_eq_ok_iff]

theorem list_of_resolve (h : t.resolve steps = .ok l) (hd : t.Holds l .directory) :
    t.list steps = .ok (t.entries l) := by
  simp [list, h, hd.node, bind, Except.bind]

end Operations

section Nodes
variable {t : FileTree} {l dir : Location} {name : Name} {n : Node}

theorem mem_nodes_of_at? (hne : l ≠ []) (h : t.at? l = some n) : (l, n) ∈ t.nodes := by
  rw [at?_of_ne_nil t hne] at h
  obtain ⟨before, after, hnodes, _⟩ := List.lookup_eq_some_iff.mp h
  rw [hnodes]
  simp

theorem mem_entries (h : (dir ++ [name], n) ∈ t.nodes) : (name, n) ∈ t.entries dir := by
  refine List.mem_filterMap.mpr ⟨_, h, ?_⟩
  rw [entryName?_eq_some.mpr rfl]
  rfl

end Nodes

end DocRoot.FileTree
