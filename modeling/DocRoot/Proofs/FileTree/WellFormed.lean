import DocRoot.Proofs.FileTree.Addition
import DocRoot.Proofs.FileTree.Depth
import Mathlib.Data.List.Nodup

/-!
# Trees as they can be

A tree has one node at each place, under names that the system takes. Then what is found at
its places does not tell in which order it was made, and an entry of a directory is what
stands at its place.
-/

set_option autoImplicit false

namespace DocRoot

namespace FileTree

instance (s : Name) : Decidable (Plain s) :=
  decidable_of_iff (Path.stays s = false ∧ s ≠ Path.dotdot ∧ s.length ≤ maxNameLength)
    ⟨fun ⟨hmoves, hdd, hfits⟩ => ⟨hmoves, hdd, hfits⟩, fun h => ⟨h.moves, h.ne_dotdot, h.fits⟩⟩

/-- One node at each place, and only names on the way that the system takes. -/
structure WellFormed (t : FileTree) : Prop where
  keys : (t.nodes.map (·.1)).Nodup
  names : ∀ e ∈ t.nodes, ∀ s ∈ e.1, Plain s ∧ 0 ∉ s

section Reading
variable {t u : FileTree} {l dir place : Location} {n : Node} {e : Name × Node} {s : Name}
  {links : Nat} {here : Location} {steps : List Name} {seen : List Location}

theorem WellFormed.at?_eq_some_iff (h : t.WellFormed) (hne : l ≠ []) :
    t.at? l = some n ↔ (l, n) ∈ t.nodes := by
  constructor
  · exact mem_nodes_of_at? hne
  · intro hmem
    obtain ⟨before, after, hnodes⟩ := List.append_of_mem hmem
    rw [at?_of_ne_nil t hne]
    refine List.lookup_eq_some_iff.mpr ⟨before, after, hnodes, ?_⟩
    intro p hp
    have hkeys := h.keys
    rw [hnodes, List.map_append, List.map_cons, List.nodup_append] at hkeys
    rw [bne_iff_ne]
    exact (hkeys.2.2 p.1 (List.mem_map_of_mem hp) l List.mem_cons_self).symm

theorem WellFormed.mem_entries_iff (h : t.WellFormed) :
    e ∈ t.entries dir ↔ t.at? (dir ++ [e.1]) = some e.2 := by
  rw [h.at?_eq_some_iff (List.append_ne_nil_of_right_ne_nil _ (List.cons_ne_nil _ _))]
  constructor
  · intro he
    obtain ⟨⟨k, n⟩, hk, hname⟩ := List.mem_filterMap.mp he
    obtain ⟨name, hentry, rfl⟩ := Option.map_eq_some_iff.mp hname
    obtain rfl := entryName?_eq_some.mp hentry
    exact hk
  · exact mem_entries

theorem WellFormed.nodup_entries (h : t.WellFormed) (dir : Location) : (t.entries dir).Nodup := by
  refine List.Nodup.filterMap ?_ (List.Nodup.of_map _ h.keys)
  rintro ⟨k, n⟩ ⟨k', n'⟩ e he he'
  obtain ⟨name, hk, rfl⟩ := Option.map_eq_some_iff.mp he
  obtain ⟨name', hk', heq⟩ := Option.map_eq_some_iff.mp he'
  obtain ⟨rfl, rfl⟩ := Prod.mk.inj heq
  exact Prod.ext ((entryName?_eq_some.mp hk).trans (entryName?_eq_some.mp hk').symm) rfl

theorem WellFormed.of_perm (h : t.WellFormed) (hp : u.nodes.Perm t.nodes) : u.WellFormed where
  keys := (hp.map _).nodup_iff.mpr h.keys
  names := fun e he => h.names e (hp.mem_iff.mp he)

theorem WellFormed.at?_of_perm (h : t.WellFormed) (hp : u.nodes.Perm t.nodes) (l : Location) :
    u.at? l = t.at? l := by
  by_cases hne : l = []
  · subst hne
    rfl
  · apply Option.ext
    intro n
    rw [(h.of_perm hp).at?_eq_some_iff hne, h.at?_eq_some_iff hne, hp.mem_iff]

theorem grows_of_at?_eq (same : ∀ l, u.at? l = t.at? l) : t.Grows u := by
  intro l n hn
  exact ⟨[], by rw [Node.appended_nil, same, hn]⟩

theorem leads_iff_of_at?_eq (same : ∀ l, u.at? l = t.at? l) :
    u.Leads links here steps seen l ↔ t.Leads links here steps seen l :=
  ⟨(grows_of_at?_eq fun l => (same l).symm).leads, (grows_of_at?_eq same).leads⟩

theorem canonicalize_iff_of_at?_eq (same : ∀ l, u.at? l = t.at? l) :
    u.canonicalize steps = .ok l ↔ t.canonicalize steps = .ok l := by
  simp only [canonicalize_eq_ok_iff, leads_iff_of_at?_eq same]

theorem resolve_iff_of_at?_eq (same : ∀ l, u.at? l = t.at? l) :
    u.resolve steps = .ok l ↔ t.resolve steps = .ok l := by
  simp only [resolve_eq_ok_iff, leads_iff_of_at?_eq same]

theorem isDirectory_iff_at? :
    t.isDirectory steps = true ↔ ∃ l, t.resolve steps = .ok l ∧ t.at? l = some .directory := by
  rw [isDirectory_iff]
  constructor
  · rintro ⟨l, hr, hd⟩
    exact ⟨l, hr, hd.node⟩
  · rintro ⟨l, hr, hd⟩
    obtain ⟨n, hn, _⟩ := holds_of_resolve hr
    obtain rfl := Option.some.inj (hn.node.symm.trans hd)
    exact ⟨l, hr, hn⟩

theorem isDirectory_of_at?_eq (same : ∀ l, u.at? l = t.at? l) (steps : List Name) :
    u.isDirectory steps = t.isDirectory steps := by
  rw [Bool.eq_iff_iff, isDirectory_iff_at?, isDirectory_iff_at?]
  simp only [resolve_iff_of_at?_eq same, same]

/-- An entry that is no link is where its directory is. -/
theorem resolve_entry (hr : t.resolve dir = .ok place) (hd : t.at? place = some .directory)
    (hs : Plain s) (hz : 0 ∉ s) (hn : t.at? (place ++ [s]) = some n) (hl : n.isLink = false) :
    t.resolve (dir ++ [s]) = .ok l ↔
      Path.textLength (dir ++ [s]) ≤ maxPathLength ∧ l = place ++ [s] := by
  obtain ⟨ha, seen, hway⟩ := resolve_eq_ok_iff.mp hr
  have hentry : ∀ links, t.Leads links place [s] [place ++ [s]] (place ++ [s]) := by
    intro links
    by_cases hnode : n.isDirectory = true
    · have hn' : n = .directory := by cases n <;> simp_all [Node.isDirectory]
      exact .directory hs (hn' ▸ hn) (.arrived _ _)
    · exact .leaf hs hn (by simpa using hnode) hl
  obtain ⟨_, hleads, _⟩ := hway.append hd hentry
  have hnames : ∀ x ∈ dir ++ [s], 0 ∉ x := by
    intro x hx
    rcases List.mem_append.mp hx with hx | hx
    · exact (acceptPath_eq_ok_iff.mp ha).1 x hx
    · obtain rfl := List.mem_singleton.mp hx
      exact hz
  rw [resolve_eq_ok_iff, acceptPath_eq_ok_iff]
  constructor
  · rintro ⟨⟨_, hfits⟩, _, hl⟩
    exact ⟨hfits, (hl.unique hleads).2⟩
  · rintro ⟨hfits, rfl⟩
    exact ⟨⟨hnames, hfits⟩, _, hleads⟩

end Reading

end FileTree

section Shaft
variable {l p : Location} {s : Name}

open FileTree

theorem nodup_inits (l : Location) : l.inits.Nodup := by
  induction l with
  | nil => simp
  | cons a l ih =>
    rw [List.inits_cons, List.nodup_cons]
    exact ⟨by simp, ih.map List.cons_injective⟩

theorem wellFormed_shaft (names : ∀ s ∈ l, Plain s ∧ 0 ∉ s) : (shaft l).WellFormed where
  keys := by
    have hkeys : (shaft l).nodes.map (·.1) = l.inits := by
      rw [shaft, List.map_map]
      exact List.map_id _
    rw [hkeys]
    exact nodup_inits l
  names := by
    intro e he s hs
    obtain ⟨p, hp, rfl⟩ := List.mem_map.mp he
    exact names s (((List.mem_inits p l).mp hp).subset hs)

theorem resolve_shaft (names : ∀ s ∈ l, Plain s ∧ 0 ∉ s) (hp : p <+: l)
    (fits : Path.textLength p ≤ maxPathLength) : (shaft l).resolve p = .ok p := by
  have hnames : ∀ s ∈ p, Plain s ∧ 0 ∉ s := fun s hs => names s (hp.subset hs)
  have held : (shaft l).Holds p .directory :=
    ⟨at?_shaft hp, fun s hs => (hnames s hs).1, fun _ hd _ => at?_shaft (hd.trans hp)⟩
  have hzero : ∀ s ∈ p, 0 ∉ s := fun s hs => (hnames s hs).2
  exact resolve_of_canonicalize (acceptPath_eq_ok_iff.mpr ⟨hzero, fits⟩)
    (held.canonicalize_self rfl hzero fits)

theorem entries_shaft (names : ∀ x ∈ l ++ [s], Plain x ∧ 0 ∉ x) :
    (shaft (l ++ [s])).entries l = [(s, .directory)] := by
  have wf := wellFormed_shaft names
  apply List.perm_singleton.mp
  apply (List.perm_ext_iff_of_nodup (wf.nodup_entries l) (List.nodup_singleton _)).mpr
  rintro ⟨name, n⟩
  rw [wf.mem_entries_iff, List.mem_singleton]
  constructor
  · intro hn
    obtain ⟨hbelow, rfl⟩ := eq_directory_of_at?_shaft hn
    have heq := hbelow.eq_of_length (by simp)
    simpa using heq
  · rintro ⟨rfl, rfl⟩
    exact at?_shaft List.prefix_rfl

end Shaft

end DocRoot
