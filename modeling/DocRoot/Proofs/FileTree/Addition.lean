import DocRoot.Proofs.FileTree.Growth
import DocRoot.Proofs.Path

/-!
# Trees with one file more

A file is added at a place where there was nothing. What led somewhere still leads there, over
the same places, and what leads somewhere new leads to the file: a walk gets past a file only
by ending at it.
-/

set_option autoImplicit false

namespace DocRoot.FileTree

section Ways
variable {t : FileTree} {links : Nat} {here mid l : Location} {p q : List Name}
  {seen seen' : List Location}

theorem Leads.mono (h : t.Leads links here p seen l) {more : Nat} (hle : links ≤ more) :
    t.Leads more here p seen l := by
  induction h generalizing more with
  | arrived => exact .arrived _ _
  | stay hstays _ ih => exact .stay hstays (ih hle)
  | dotdot _ ih => exact .dotdot (ih hle)
  | directory hs hn _ ih => exact .directory hs hn (ih hle)
  | @link links _ _ _ _ _ _ hs hn _ ih =>
    obtain ⟨fewer, rfl⟩ : ∃ fewer, more = fewer + 1 := ⟨more - 1, by omega⟩
    exact .link hs hn (ih (by omega))
  | leaf hs hn hd hl => exact .leaf hs hn hd hl

/-- Steps that all stay lead nowhere else. -/
theorem Leads.eq_of_stays (h : t.Leads links here p seen l) (hp : ∀ s ∈ p, Path.stays s = true) :
    l = here := by
  induction h with
  | arrived => rfl
  | stay _ _ ih => exact ih fun s hs => hp s (List.mem_cons_of_mem _ hs)
  | dotdot _ _ => cases hp _ List.mem_cons_self
  | directory hs _ _ _ => cases hs.moves.symm.trans (hp _ List.mem_cons_self)
  | link hs _ _ _ => cases hs.moves.symm.trans (hp _ List.mem_cons_self)
  | leaf hs _ _ _ => cases hs.moves.symm.trans (hp _ List.mem_cons_self)

/-- A way through a directory goes on from there. Where the rest asks for a directory, the
one it goes on from is looked up with a slash behind it. -/
theorem Leads.append (h : t.Leads links here p seen mid) (hd : t.at? mid = some .directory)
    (hq : ∀ links, t.Leads links mid q seen' l) :
    ∃ way, t.Leads links here (p ++ q) way l ∧ (∀ x ∈ seen', x ∈ way) ∧
      ∀ x ∈ way, x ∈ seen ∨ x ∈ seen' ∨ Path.asksDirectory q = true ∧ x = mid ++ [[]] := by
  induction h with
  | arrived => exact ⟨seen', hq _, fun _ hx => hx, fun _ hx => .inr (.inl hx)⟩
  | stay hstays _ ih =>
    obtain ⟨way, hway, hon, hback⟩ := ih hd hq
    exact ⟨way, .stay hstays hway, hon, hback⟩
  | dotdot _ ih =>
    obtain ⟨way, hway, hon, hback⟩ := ih hd hq
    exact ⟨way, .dotdot hway, hon, hback⟩
  | @directory _ here _ s rest _ hs hn hrest ih =>
    obtain ⟨way, hway, hon, hback⟩ := ih hd hq
    refine ⟨_, .directory hs hn hway, fun x hx => List.mem_append_right _ (hon x hx), ?_⟩
    intro x hx
    rcases List.mem_append.mp hx with hx | hx
    · rcases mem_lookedUp.mp hx with rfl | ⟨hasks, rfl⟩
      · exact .inl (List.mem_append_left _ (mem_lookedUp.mpr (.inl rfl)))
      · rcases Path.asksDirectory_of_append hasks with hasks | ⟨rfl, hasks⟩
        · exact .inl (List.mem_append_left _ (mem_lookedUp.mpr (.inr ⟨hasks, rfl⟩)))
        · -- the directory is the one that the way goes on from
          obtain rfl := hrest.eq_of_stays (by simp)
          exact .inr (.inr ⟨hasks, rfl⟩)
    · exact (hback x hx).imp_left (List.mem_append_right _)
  | link hs hn _ ih =>
    obtain ⟨way, hway, hon, hback⟩ := ih hd hq
    rw [List.append_assoc] at hway
    refine ⟨_, .link hs hn hway, fun x hx => List.mem_cons_of_mem _ (hon x hx), ?_⟩
    intro x hx
    rcases List.mem_cons.mp hx with rfl | hx
    · exact .inl List.mem_cons_self
    · exact (hback x hx).imp_left (List.mem_cons_of_mem _)
  | leaf _ hn hnot _ =>
    cases hn.symm.trans hd
    cases hnot

/-- A way is cut where some of its steps are done, unless they are all. The first part on its
own may have to look up its end with a slash behind it. -/
theorem Leads.exists_of_append (h : t.Leads links here (p ++ q) seen l) (hq : q ≠ []) :
    ∃ left mid before after, left ≤ links ∧ t.Leads links here p before mid ∧
      t.Leads left mid q after l ∧ (∀ x ∈ after, x ∈ seen) ∧
      ∀ x ∈ before, x ∈ seen ∨ Path.asksDirectory q = false ∧ x = mid ++ [[]] := by
  have whole : ∀ {links : Nat} {here l : Location} {seen : List Location},
      t.Leads links here q seen l → ∃ left mid before after, left ≤ links ∧
        t.Leads links here [] before mid ∧ t.Leads left mid q after l ∧
        (∀ x ∈ after, x ∈ seen) ∧
        ∀ x ∈ before, x ∈ seen ∨ Path.asksDirectory q = false ∧ x = mid ++ [[]] :=
    fun h => ⟨_, _, [], _, Nat.le_refl _, .arrived _ _, h, fun _ hx => hx, by simp⟩
  generalize hsteps : p ++ q = steps at h
  induction h generalizing p with
  | arrived => exact absurd (List.append_eq_nil_iff.mp hsteps).2 hq
  | stay hstays h ih =>
    cases p with
    | nil =>
      obtain rfl : q = _ := hsteps
      exact whole (.stay hstays h)
    | cons s p =>
      obtain ⟨rfl, hrest⟩ := List.cons.inj hsteps
      obtain ⟨left, mid, before, after, hle, hp, hl, hseen⟩ := ih hrest
      exact ⟨left, mid, before, after, hle, .stay hstays hp, hl, hseen⟩
  | dotdot h ih =>
    cases p with
    | nil =>
      obtain rfl : q = _ := hsteps
      exact whole (.dotdot h)
    | cons s p =>
      obtain ⟨rfl, hrest⟩ := List.cons.inj hsteps
      obtain ⟨left, mid, before, after, hle, hp, hl, hseen⟩ := ih hrest
      exact ⟨left, mid, before, after, hle, .dotdot hp, hl, hseen⟩
  | directory hs hn h ih =>
    cases p with
    | nil =>
      obtain rfl : q = _ := hsteps
      exact whole (.directory hs hn h)
    | cons s p =>
      obtain ⟨rfl, rfl⟩ := List.cons.inj hsteps
      obtain ⟨left, mid, before, after, hle, hp, hl, hafter, hbefore⟩ := ih rfl
      refine ⟨left, mid, _, after, hle, .directory hs hn hp, hl,
        fun x hx => List.mem_append_right _ (hafter x hx), ?_⟩
      intro x hx
      rcases List.mem_append.mp hx with hx | hx
      · rcases mem_lookedUp.mp hx with rfl | ⟨hasks, rfl⟩
        · exact .inl (List.mem_append_left _ (mem_lookedUp.mpr (.inl rfl)))
        · rcases Path.asksDirectory_append hasks q with hasks | ⟨hstays, hasks⟩
          · exact .inl (List.mem_append_left _ (mem_lookedUp.mpr (.inr ⟨hasks, rfl⟩)))
          · obtain rfl := hp.eq_of_stays hstays
            exact .inr ⟨hasks, rfl⟩
      · exact (hbefore x hx).imp_left (List.mem_append_right _)
  | @link _ _ _ _ _ _ target hs hn h ih =>
    cases p with
    | nil =>
      obtain rfl : q = _ := hsteps
      exact whole (.link hs hn h)
    | cons s p =>
      obtain ⟨rfl, rfl⟩ := List.cons.inj hsteps
      -- the target of a link stands in front of what is left of the first part
      obtain ⟨left, mid, before, after, hle, hp, hl, hafter, hbefore⟩ :=
        ih (p := Path.steps target ++ p) (List.append_assoc _ _ _)
      refine ⟨left, mid, _, after, by omega, .link hs hn hp, hl,
        fun x hx => List.mem_cons_of_mem _ (hafter x hx), ?_⟩
      intro x hx
      rcases List.mem_cons.mp hx with rfl | hx
      · exact .inl List.mem_cons_self
      · exact (hbefore x hx).imp_left (List.mem_cons_of_mem _)
  | leaf hs hn hd hl =>
    cases p with
    | nil =>
      obtain rfl : q = _ := hsteps
      exact whole (.leaf hs hn hd hl)
    | cons s p =>
      obtain ⟨_, hrest⟩ := List.cons.inj hsteps
      exact absurd (List.append_eq_nil_iff.mp hrest).2 hq

/-- With a slash behind them steps lead where they led, to a directory. -/
theorem Leads.of_slash (h : t.Leads links here (p ++ [[]]) seen l) :
    ∃ before, t.Leads links here p before l ∧ ∀ x ∈ before, x ∈ seen := by
  obtain ⟨left, mid, before, after, _, hp, hslash, _, hbefore⟩ :=
    h.exists_of_append (List.cons_ne_nil [] [])
  obtain rfl : l = mid := hslash.eq_of_stays (by simp [Path.stays])
  exact ⟨before, hp, fun x hx => (hbefore x hx).resolve_right fun hasks => by cases hasks.1⟩

/-- A step that does not stay and is not two dots is a name, if it leads anywhere. -/
theorem Leads.plain {s : Name} (h : t.Leads links here (s :: p) seen l)
    (hmoves : Path.stays s = false) (hdd : s ≠ Path.dotdot) : Plain s := by
  cases h with
  | stay hstays => cases hmoves.symm.trans hstays
  | dotdot => exact absurd rfl hdd
  | directory hs => exact hs
  | link hs => exact hs
  | leaf hs => exact hs

theorem Leads.child_mem_seen {s : Name} (h : t.Leads links here [s] seen l) (hs : Plain s) :
    here ++ [s] ∈ seen := by
  cases h with
  | stay hstays => cases hs.moves.symm.trans hstays
  | dotdot => exact absurd rfl hs.ne_dotdot
  | directory => exact List.mem_append_left _ (mem_lookedUp.mpr (.inl rfl))
  | link => exact List.mem_cons_self
  | leaf => exact List.mem_cons_self

/-- A plain name leads on only if something has that name where the steps before it lead. -/
theorem Leads.exists_child {s : Name} (h : t.Leads links here (p ++ [s]) seen l)
    (hp : t.Leads links here p seen' mid) (hs : Plain s) : ∃ n, t.at? (mid ++ [s]) = some n := by
  obtain ⟨_, mid', _, _, _, hp', hrest, _⟩ := h.exists_of_append (List.cons_ne_nil s [])
  obtain ⟨_, rfl⟩ := hp.unique hp'
  cases hrest with
  | stay hstays => cases hs.moves.symm.trans hstays
  | dotdot => exact absurd rfl hs.ne_dotdot
  | directory _ hn => exact ⟨_, hn⟩
  | link _ hn => exact ⟨_, hn⟩
  | leaf _ hn => exact ⟨_, hn⟩

end Ways

/-- The second tree is the first with a file at a place where there was nothing. -/
structure Adds (t u : FileTree) (place : Location) (content : Bytes) : Prop where
  fresh : t.at? place = none
  added : u.at? place = some (.file content)
  others : ∀ l, l ≠ place → u.at? l = t.at? l
  /-- The other entries of a directory are read in the same order. -/
  entries : ∀ dir, (u.entries dir).filter (fun e => dir ++ [e.1] ≠ place) = t.entries dir

/-- No link leads to the place. -/
def NoLinkTo (t : FileTree) (place : Location) : Prop :=
  ∀ dir name target, t.at? (dir ++ [name]) = some (.link target) →
    ∀ seen, ¬t.Leads maxLinks (if Path.isAbsolute target then [] else dir) (Path.steps target)
      seen place

/-- The same place found in both trees, nothing in either, or the added file in one. -/
inductive Found (place : Location) : Except Fault Location → Except Fault Location → Prop
  | same (l : Location) : l ≠ place → Found place (.ok l) (.ok l)
  | neither (e e' : Fault) : Found place (.error e) (.error e')
  | added (e : Fault) : Found place (.error e) (.ok place)

theorem found_of_iff {place : Location} {x y : Except Fault Location}
    (h : ∀ l, x = .ok l ↔ y = .ok l ∧ l ≠ place) : Found place x y := by
  cases x with
  | ok l =>
    obtain ⟨rfl, hne⟩ := (h l).mp rfl
    exact .same l hne
  | error e =>
    cases y with
    | error e' => exact .neither e e'
    | ok l =>
      have hl : l = place := Classical.byContradiction fun hne => by cases (h l).mpr ⟨rfl, hne⟩
      subst hl
      exact .added e

namespace Adds

variable {t u : FileTree} {place here l : Location} {content : Bytes} {links : Nat}
  {steps dir : List Name} {seen : List Location} {n : Node} {e : Name}

theorem at?_eq_of_some (h : t.Adds u place content) (hn : t.at? l = some n) :
    l ≠ place ∧ u.at? l = some n := by
  have hne : l ≠ place := by
    rintro rfl
    rw [h.fresh] at hn
    cases hn
  exact ⟨hne, (h.others l hne).trans hn⟩

theorem grows (h : t.Adds u place content) : t.Grows u := by
  intro l n hn
  exact ⟨[], by rw [Node.appended_nil, (h.at?_eq_of_some hn).2]⟩

theorem leads_of_ne (h : t.Adds u place content) (hl : u.Leads links here steps seen l)
    (hne : l ≠ place) : t.Leads links here steps seen l := by
  have hat : ∀ {p : Location} {m : Node}, u.at? p = some m → m.isFile = false →
      t.at? p = some m := by
    intro p m hm hf
    by_cases hp : p = place
    · rw [hp, h.added] at hm
      cases hm
      cases hf
    · rw [← h.others p hp, hm]
  induction hl with
  | arrived => exact .arrived _ _
  | stay hstays _ ih => exact .stay hstays (ih hne)
  | dotdot _ ih => exact .dotdot (ih hne)
  | directory hs hn _ ih => exact .directory hs (hat hn rfl) (ih hne)
  | link hs hn _ ih => exact .link hs (hat hn rfl) (ih hne)
  | leaf hs hn hd hlink => exact .leaf hs ((h.others _ hne).symm.trans hn) hd hlink

theorem leads_iff (h : t.Adds u place content) :
    t.Leads links [] steps seen l ↔ u.Leads links [] steps seen l ∧ l ≠ place := by
  constructor
  · intro hl
    obtain ⟨n, hn, _⟩ := hl.holds (holds_top t)
    exact ⟨h.grows.leads hl, (h.at?_eq_of_some hn.node).1⟩
  · rintro ⟨hl, hne⟩
    exact h.leads_of_ne hl hne

theorem resolve_found (h : t.Adds u place content) (steps : List Name) :
    Found place (t.resolve steps) (u.resolve steps) := by
  apply found_of_iff
  intro l
  simp only [resolve_eq_ok_iff, h.leads_iff]
  constructor
  · rintro ⟨ha, seen, hl, hne⟩
    exact ⟨⟨ha, seen, hl⟩, hne⟩
  · rintro ⟨⟨ha, seen, hl⟩, hne⟩
    exact ⟨ha, seen, hl, hne⟩

theorem canonicalize_eq_ok_iff (h : t.Adds u place content) :
    t.canonicalize steps = .ok l ↔ u.canonicalize steps = .ok l ∧ l ≠ place := by
  simp only [FileTree.canonicalize_eq_ok_iff, h.leads_iff]
  constructor
  · rintro ⟨hz, seen, ⟨hl, hne⟩, hfits⟩
    exact ⟨⟨hz, seen, hl, hfits⟩, hne⟩
  · rintro ⟨⟨hz, seen, hl, hfits⟩, hne⟩
    exact ⟨hz, seen, ⟨hl, hne⟩, hfits⟩

theorem canonicalize_found (h : t.Adds u place content) (steps : List Name) :
    Found place (t.canonicalize steps) (u.canonicalize steps) :=
  found_of_iff fun _ => h.canonicalize_eq_ok_iff

/-- The same node in both trees, none in either, or the added file in one. -/
theorem node_cases (h : t.Adds u place content) (steps : List Name) :
    (∃ l n, l ≠ place ∧ t.resolve steps = .ok l ∧ u.resolve steps = .ok l ∧
        t.node steps = .ok n ∧ u.node steps = .ok n) ∨
      ∃ e, t.node steps = .error e ∧
        ((∃ e', u.node steps = .error e') ∨
          u.resolve steps = .ok place ∧ u.node steps = .ok (.file content)) := by
  have hfound := h.resolve_found steps
  generalize ht : t.resolve steps = x at hfound
  generalize hu : u.resolve steps = y at hfound
  cases hfound with
  | same l hne =>
    obtain ⟨n, hn, _⟩ := holds_of_resolve ht
    obtain ⟨m, hm, _⟩ := holds_of_resolve hu
    have hnm : n = m := by
      have hm' := hm.node
      rw [h.others l hne, hn.node] at hm'
      exact Option.some.inj hm'
    subst hnm
    exact .inl ⟨l, n, hne, rfl, rfl, node_of_resolve ht hn, node_of_resolve hu hm⟩
  | neither e e' =>
    refine .inr ⟨e, ?_, .inl ⟨e', ?_⟩⟩
    · simp [node, ht, bind, Except.bind]
    · simp [node, hu, bind, Except.bind]
  | added e =>
    obtain ⟨m, hm, _⟩ := holds_of_resolve hu
    obtain rfl : m = .file content := Option.some.inj (hm.node.symm.trans h.added)
    refine .inr ⟨e, ?_, .inr ⟨rfl, node_of_resolve hu hm⟩⟩
    simp [node, ht, bind, Except.bind]

theorem isDirectory_eq (h : t.Adds u place content) (steps : List Name) :
    u.isDirectory steps = t.isDirectory steps := by
  rcases h.node_cases steps with ⟨_, n, _, _, _, ht, hu⟩ | ⟨e, ht, ⟨e', hu⟩ | ⟨_, hu⟩⟩
  · simp only [isDirectory, ht, hu]
  · simp only [isDirectory, ht, hu]
  · simp only [isDirectory, ht, hu, Node.isDirectory]

theorem isFile_eq (h : t.Adds u place content) (hne : u.resolve steps ≠ .ok place) :
    u.isFile steps = t.isFile steps := by
  rcases h.node_cases steps with ⟨_, n, _, _, _, ht, hu⟩ | ⟨e, ht, ⟨e', hu⟩ | ⟨hr, _⟩⟩
  · simp only [isFile, ht, hu]
  · simp only [isFile, ht, hu]
  · exact absurd hr hne

/-- An entry leads to the added file only under the file's own name, unless it is a link. -/
theorem entry_ne (h : t.Adds u place content) (unlinked : u.NoLinkTo place)
    (hd : u.Leads maxLinks [] dir seen l) (hl : u.Holds l .directory) (he : l ++ [e] ≠ place)
    {seen' : List Location} : ¬u.Leads maxLinks [] (dir ++ [e]) seen' place := by
  intro hplace
  obtain ⟨left, mid, before, after, hle, hdir, hentry, _⟩ :=
    hplace.exists_of_append (List.cons_ne_nil e [])
  obtain ⟨_, rfl⟩ := hd.unique hdir
  have hnot : u.at? place ≠ some .directory := by
    rw [h.added]
    simp
  cases hentry with
  | stay _ hend =>
    cases hend
    exact hnot hl.node
  | dotdot hend =>
    cases hend
    exact hnot hl.parent.node
  | directory hs hn hend =>
    cases hend
    exact hnot hn
  | link hs hn hend =>
    rw [List.append_nil] at hend
    exact unlinked l e _ hn _ (hend.mono (by omega))
  | leaf => exact he rfl

/-- From a directory no plain name but the file's own leads to the file. -/
theorem join_ne {dir : Location} {file : Name} (h : t.Adds u (dir ++ [file]) content)
    (unlinked : u.NoLinkTo (dir ++ [file])) (hd : t.isDirectory steps = true)
    (hslash : Path.slash ∉ e) (hne : e ≠ file) :
    u.resolve (Path.join steps e) ≠ .ok (dir ++ [file]) := by
  intro hplace
  obtain ⟨l, hr, held⟩ := isDirectory_iff.mp hd
  obtain ⟨_, seen, hl⟩ := resolve_eq_ok_iff.mp (h.grows.resolve hr)
  have held' : u.Holds l .directory := by
    obtain ⟨n, hn, _⟩ := hl.holds (holds_top u)
    obtain rfl := Option.some.inj (hn.node.symm.trans (h.at?_eq_of_some held.node).2)
    exact hn
  have hentry : l ++ [e] ≠ dir ++ [file] := by
    intro heq
    exact hne (List.cons.inj (List.append_inj_right' heq rfl)).1
  rw [Path.join_of_not_mem hslash] at hplace
  obtain ⟨_, _, hleads⟩ := resolve_eq_ok_iff.mp hplace
  exact h.entry_ne unlinked hl held' hentry hleads

end Adds

section Put
variable {t : FileTree} {place : Location}

theorem assign_eq_append {n : Node} {nodes : List (Location × Node)}
    (h : nodes.lookup place = none) : assign place n nodes = nodes ++ [(place, n)] := by
  induction nodes with
  | nil => rfl
  | cons e rest ih =>
    obtain ⟨k, old⟩ := e
    have hne : place ≠ k := by
      rintro rfl
      simp at h
    rw [lookup_cons_of_ne hne] at h
    rw [assign, if_neg (Ne.symm hne), ih h, List.cons_append]

/-- A file put where there was nothing is added. -/
theorem adds_put (hne : place ≠ []) (h : t.at? place = none) (content : Bytes) :
    t.Adds (t.put place (.file content)) place content where
  fresh := h
  added := by rw [at?_put t hne, if_pos rfl]
  others := by
    intro l hl
    rw [at?_put t hne, if_neg hl]
  entries := by
    intro dir
    rw [at?_of_ne_nil t hne] at h
    have hold : ∀ e ∈ t.entries dir, decide (dir ++ [e.1] ≠ place) = true := by
      intro e he
      obtain ⟨⟨k, n⟩, hk, hname⟩ := List.mem_filterMap.mp he
      obtain ⟨name, hentry, rfl⟩ := Option.map_eq_some_iff.mp hname
      obtain rfl := entryName?_eq_some.mp hentry
      rw [decide_eq_true_iff]
      rintro rfl
      simpa using List.lookup_eq_none_iff.mp h _ hk
    have hnew : ∀ e ∈ (FileTree.mk [(place, .file content)]).entries dir,
        ¬decide (dir ++ [e.1] ≠ place) = true := by
      intro e he
      obtain ⟨⟨k, n⟩, hk, hname⟩ := List.mem_filterMap.mp he
      obtain ⟨name, hentry, rfl⟩ := Option.map_eq_some_iff.mp hname
      obtain ⟨rfl, rfl⟩ := Prod.mk.inj (List.mem_singleton.mp hk)
      rw [decide_eq_true_iff]
      exact fun hother => hother (entryName?_eq_some.mp hentry).symm
    have hentries : (t.put place (.file content)).entries dir =
        t.entries dir ++ (FileTree.mk [(place, .file content)]).entries dir := by
      rw [put, assign_eq_append h, entries, List.filterMap_append]
      rfl
    rw [hentries, List.filter_append, List.filter_eq_self.mpr hold, List.filter_eq_nil_iff.mpr hnew,
      List.append_nil]

end Put

end DocRoot.FileTree
