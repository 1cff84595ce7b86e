import DocRoot.Proofs.FileTree.Place
import DocRoot.Proofs.Path
import Mathlib.Data.List.Induction
import Mathlib.Data.List.Infix

/-!
# Trees too deep for a path

Directories with long names stand inside one another, and beside each a link to it with a
short one. The short names lead down in few bytes, to places whose own path is too long to be
looked up.
-/

set_option autoImplicit false

namespace DocRoot

open FileTree

section Deep
variable {t : FileTree} {content : Bytes} {depth links : Nat} {here : Location}

/-- A name as long as names can be. -/
def longName : Name := List.replicate maxNameLength 0x78

theorem plain_longName : Plain longName where
  moves := by decide
  ne_dotdot := by decide
  fits := by simp [longName]

theorem slash_not_mem_longName : Path.slash ∉ longName := by
  intro h
  exact absurd (List.eq_of_mem_replicate h) (by decide)

/-- A file so many directories down, each with a long name, and beside each of them a link
to it with a short one. -/
def deepFile (content : Bytes) : Nat → Location → List (Location × Node)
  | 0, here => [(here ++ [utf8 "f"], .file content)]
  | depth + 1, here =>
    (here ++ [utf8 "a"], .link longName) :: (here ++ [longName], .directory) ::
      deepFile content depth (here ++ [longName])

theorem length_lt_of_mem_deepFile :
    ∀ e ∈ deepFile content depth here, here.length < e.1.length := by
  induction depth generalizing here with
  | zero => simp [deepFile]
  | succ depth ih =>
    intro e he
    rcases List.mem_cons.mp he with rfl | he
    · simp
    · rcases List.mem_cons.mp he with rfl | he
      · simp
      · have := ih e he
        simp only [List.length_append, List.length_singleton] at this
        omega

theorem lookup_deepFile :
    ∀ e ∈ deepFile content depth here, (deepFile content depth here).lookup e.1 = some e.2 := by
  induction depth generalizing here with
  | zero => simp [deepFile]
  | succ depth ih =>
    intro e he
    rcases List.mem_cons.mp he with rfl | he
    · simp [deepFile]
    · rcases List.mem_cons.mp he with rfl | he
      · have hne : longName ≠ utf8 "a" := by decide
        have hkey : here ++ [longName] ≠ here ++ [utf8 "a"] := by simpa using hne
        rw [deepFile, lookup_cons_of_ne hkey]
        simp
      · -- what lies deeper is longer than both keys of this level
        have hlong := length_lt_of_mem_deepFile e he
        have hlink : e.1 ≠ here ++ [utf8 "a"] := by
          intro hk
          simp [hk] at hlong
        have hdir : e.1 ≠ here ++ [longName] := by
          intro hk
          simp [hk] at hlong
        rw [deepFile, lookup_cons_of_ne hlink, lookup_cons_of_ne hdir]
        exact ih e he

/-- In a tree that begins with the file and its directories each is at its place. -/
theorem at?_deepFile (content : Bytes) (depth : Nat) (here : Location)
    (after : List (Location × Node)) :
    ∀ e ∈ deepFile content depth here,
      FileTree.at? ⟨(here, .directory) :: (deepFile content depth here ++ after)⟩ e.1 =
        some e.2 := by
  intro e he
  have hlong := length_lt_of_mem_deepFile e he
  have hne : e.1 ≠ [] := by
    intro hk
    simp [hk] at hlong
  have hkey : e.1 ≠ here := by
    intro hk
    simp [hk] at hlong
  rw [at?_of_ne_nil _ hne, lookup_cons_of_ne hkey, List.lookup_append, lookup_deepFile e he,
    Option.some_or]

theorem mem_deepFile :
    (here ++ List.replicate depth longName ++ [utf8 "f"], .file content) ∈
      deepFile content depth here := by
  induction depth generalizing here with
  | zero => simp [deepFile]
  | succ depth ih =>
    have hstep : here ++ List.replicate (depth + 1) longName =
        here ++ [longName] ++ List.replicate depth longName := by
      simp [List.replicate_succ]
    rw [hstep]
    exact List.mem_cons_of_mem _ (List.mem_cons_of_mem _ ih)

/-- The short names lead down over one link at each level, and past all long names. -/
theorem leads_shortcuts {rest : List Name} {seen : List Location} {l : Location}
    (h : ∀ e ∈ deepFile content depth here, t.at? e.1 = some e.2)
    (hl : t.Leads links (here ++ List.replicate depth longName) rest seen l) :
    ∃ before, t.Leads (links + depth) here (List.replicate depth (utf8 "a") ++ rest)
        (before ++ seen) l ∧
      (0 < depth → here ++ List.replicate depth longName ∈ before) := by
  induction depth generalizing here with
  | zero => exact ⟨[], by simpa using hl, by simp⟩
  | succ depth ih =>
    have ha : Plain (utf8 "a") := ⟨by decide, by decide, by decide⟩
    have hstep : here ++ List.replicate (depth + 1) longName =
        here ++ [longName] ++ List.replicate depth longName := by
      simp [List.replicate_succ]
    obtain ⟨hlink, hrest⟩ := List.forall_mem_cons.mp h
    obtain ⟨hdir, hbelow⟩ := List.forall_mem_cons.mp hrest
    rw [hstep] at hl ⊢
    obtain ⟨before, hway, hmem⟩ := ih hbelow hl
    have hwalk : t.Leads (links + depth)
        (if Path.isAbsolute longName then [] else here)
        (Path.steps longName ++ (List.replicate depth (utf8 "a") ++ rest))
        (lookedUp (here ++ [longName]) (List.replicate depth (utf8 "a") ++ rest) ++
          (before ++ seen)) l := by
      rw [Path.isAbsolute_of_not_mem slash_not_mem_longName,
        Path.steps_of_not_mem slash_not_mem_longName (by decide)]
      exact .directory plain_longName hdir hway
    refine ⟨(here ++ [utf8 "a"]) :: (lookedUp (here ++ [longName])
      (List.replicate depth (utf8 "a") ++ rest) ++ before), ?_, ?_⟩
    · rw [List.cons_append, List.append_assoc]
      exact .link ha hlink hwalk
    · intro _
      apply List.mem_cons_of_mem
      cases depth with
      | zero => exact List.mem_append_left _ (mem_lookedUp.mpr (.inl (by simp)))
      | succ depth => exact List.mem_append_right _ (hmem (by simp))

theorem leads_deepFile (links : Nat)
    (h : ∀ e ∈ deepFile content depth here, t.at? e.1 = some e.2) :
    ∃ seen, t.Leads (links + depth) here (List.replicate depth (utf8 "a") ++ [utf8 "f"]) seen
      (here ++ List.replicate depth longName ++ [utf8 "f"]) := by
  have hf : Plain (utf8 "f") := ⟨by decide, by decide, by decide⟩
  have hleaf : t.Leads links (here ++ List.replicate depth longName) [utf8 "f"]
      [here ++ List.replicate depth longName ++ [utf8 "f"]]
      (here ++ List.replicate depth longName ++ [utf8 "f"]) :=
    .leaf hf (h _ mem_deepFile) rfl rfl
  obtain ⟨before, hl, _⟩ := leads_shortcuts h hleaf
  exact ⟨_, hl⟩

/-- As many steps up as there are names below. -/
theorem leads_upwards (names : List Name) {rest : List Name} {seen : List Location} {l : Location}
    (hl : t.Leads links here rest seen l) :
    t.Leads links (here ++ names) (List.replicate names.length Path.dotdot ++ rest) seen l := by
  induction names using List.reverseRecOn with
  | nil => simpa using hl
  | append_singleton names n ih =>
    rw [List.length_append, List.length_singleton, List.replicate_succ, ← List.append_assoc]
    refine .dotdot ?_
    rw [List.dropLast_concat]
    exact ih

/-- Down by the short names, past all long ones, and up again. -/
theorem leads_past_longNames {rest : List Name} {seen : List Location} {l : Location}
    (h : ∀ e ∈ deepFile content depth here, t.at? e.1 = some e.2)
    (hl : t.Leads links here rest seen l) :
    ∃ before, t.Leads (links + depth) here
        (List.replicate depth (utf8 "a") ++ (List.replicate depth Path.dotdot ++ rest))
        (before ++ seen) l ∧
      (0 < depth → here ++ List.replicate depth longName ∈ before) := by
  have hup := leads_upwards (List.replicate depth longName) hl
  rw [List.length_replicate] at hup
  exact leads_shortcuts h hup

end Deep

section Shaft
variable {root p : Location} {n : Node}

/-- A place with the directories that lead to it, and nothing else. -/
def shaft (l : Location) : FileTree := ⟨l.inits.map fun p => (p, .directory)⟩

theorem at?_shaft (h : p <+: root) : (shaft root).at? p = some .directory := by
  by_cases hp : p = []
  · rw [hp]
    rfl
  · rw [at?_of_ne_nil _ hp]
    exact List.lookup_graph (fun _ => Node.directory) ((List.mem_inits p root).mpr h)

theorem eq_directory_of_at?_shaft (h : (shaft root).at? p = some n) :
    p <+: root ∧ n = .directory := by
  by_cases hp : p = []
  · subst hp
    exact ⟨List.nil_prefix, (Option.some.inj h).symm⟩
  · obtain ⟨q, hq, heq⟩ := List.mem_map.mp (mem_nodes_of_at? hp h)
    obtain ⟨rfl, rfl⟩ := Prod.mk.inj heq
    exact ⟨(List.mem_inits q root).mp hq, rfl⟩

theorem at?_shaft_below (s : Name) : (shaft root).at? (root ++ [s]) = none := by
  apply Option.eq_none_iff_forall_ne_some.mpr
  intro n hn
  have hlength := (eq_directory_of_at?_shaft hn).1.length_le
  rw [List.length_append] at hlength
  exact absurd hlength (Nat.not_succ_le_self _)

theorem holds_shaft (h : ∀ s ∈ root, Plain s) : (shaft root).Holds root .directory where
  node := at?_shaft List.prefix_rfl
  plain := h
  above := fun _ hp _ => at?_shaft hp

end Shaft

end DocRoot
