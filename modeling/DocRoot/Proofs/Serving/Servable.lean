import DocRoot.Proofs.FileTree.Addition
import DocRoot.Serving

/-!
# What may be served

Steps are admitted if they lead to a place under the root that is not hidden. The check
passes exactly these, and the place it has checked is the one that is read.
-/

set_option autoImplicit false

namespace DocRoot

open FileTree

namespace Site

/-- The steps lead to a place under the root that is not hidden, and each path looked up on
the way fits. -/
structure Admits (site : Site) (t : FileTree) (steps : List Name) (place : Location) : Prop where
  found : t.resolve steps = .ok place
  spelled : ∃ seen, t.Leads maxLinks [] steps seen place ∧
    ∀ p ∈ seen, Path.textLength p ≤ maxPathLength
  within : site.root <+: place
  shown : place ∉ site.hidden

variable {site : Site} {t : FileTree} {steps : List Name} {place : Location}

theorem admits_iff :
    site.Admits t steps place ↔
      t.resolve steps = .ok place ∧ t.canonicalize steps = .ok place ∧ site.root <+: place ∧
        place ∉ site.hidden := by
  constructor
  · intro h
    obtain ⟨ha, _⟩ := resolve_eq_ok_iff.mp h.found
    have hz := (acceptPath_eq_ok_iff.mp ha).1
    exact ⟨h.found, canonicalize_eq_ok_iff.mpr ⟨hz, h.spelled⟩, h.within, h.shown⟩
  · rintro ⟨hr, hc, hw, hs⟩
    exact ⟨hr, (canonicalize_eq_ok_iff.mp hc).2, hw, hs⟩

theorem Admits.canonical (h : site.Admits t steps place) : t.canonicalize steps = .ok place :=
  (admits_iff.mp h).2.1

theorem Admits.holds (h : site.Admits t steps place) : ∃ n, t.Holds place n ∧ n.isLink = false :=
  holds_of_resolve h.found

theorem Admits.holds_node {n : Node} (h : site.Admits t steps place) (hn : t.at? place = some n) :
    t.Holds place n := by
  obtain ⟨m, hm, _⟩ := h.holds
  obtain rfl := Option.some.inj (hm.node.symm.trans hn)
  exact hm

/-- The canonical path of what is admitted fits a path, unless it is a directory. -/
theorem Admits.fits {n : Node} (h : site.Admits t steps place) (hn : t.at? place = some n)
    (hd : n.isDirectory = false) : Path.textLength place ≤ maxPathLength := by
  obtain ⟨seen, hl, hseen⟩ := h.spelled
  rcases hl.end_mem_seen (holds_top t) with hdir | hm
  · obtain rfl := Option.some.inj (hn.symm.trans hdir.node)
    cases hd
  · exact hseen place hm

/-- What is admitted with a slash behind it is admitted. -/
theorem Admits.of_slash (h : site.Admits t (steps ++ [[]]) place) : site.Admits t steps place where
  found := by
    obtain ⟨ha, seen, hl⟩ := resolve_eq_ok_iff.mp h.found
    obtain ⟨before, hway, _⟩ := hl.of_slash
    obtain ⟨hzero, hfits⟩ := acceptPath_eq_ok_iff.mp ha
    have hshorter := textLength_mono (List.prefix_append steps [[]])
    have ha' : acceptPath steps = .ok () :=
      acceptPath_eq_ok_iff.mpr
        ⟨fun s hs => hzero s (List.mem_append_left _ hs), hshorter.trans hfits⟩
    exact resolve_eq_ok_iff.mpr ⟨ha', before, hway⟩
  spelled := by
    obtain ⟨seen, hl, hseen⟩ := h.spelled
    obtain ⟨before, hway, hbefore⟩ := hl.of_slash
    exact ⟨before, hway, fun p hp => hseen p (hbefore p hp)⟩
  within := h.within
  shown := h.shown

theorem Admits.of_asked {names : List String}
    (h : site.Admits t (site.root ++ RequestPath.steps names) place) :
    site.Admits t (site.root ++ RequestPath.location names) place := by
  by_cases hnames : names = []
  · subst hnames
    have hroot : site.root ++ RequestPath.location [] = site.root := List.append_nil _
    rw [hroot]
    exact h.of_slash
  · rwa [RequestPath.steps_of_ne_nil hnames] at h

/-- A directory that is spelled without links is admitted with a slash behind it. -/
theorem admits_slash (held : t.Holds place .directory) (hz : ∀ s ∈ place, 0 ∉ s)
    (hfits : Path.textLength (place ++ [[]]) ≤ maxPathLength) (hw : site.root <+: place)
    (hs : place ∉ site.hidden) : site.Admits t (place ++ [[]]) place := by
  have hself : t.Holds ([] ++ place) .directory := held
  obtain ⟨seen, hl, hbelow⟩ := hself.leads rfl
  obtain ⟨way, hway, _, hback⟩ :=
    hl.append held.node fun links => .stay (s := []) rfl (.arrived links place)
  have hzero : ∀ s ∈ place ++ [[]], 0 ∉ s := by
    simp only [List.forall_mem_append, List.forall_mem_singleton]
    exact ⟨hz, List.not_mem_nil⟩
  have hshort : ∀ p ∈ way, Path.textLength p ≤ maxPathLength := by
    intro p hp
    rcases hback p hp with hp | hp | ⟨_, rfl⟩
    · have hprefix : p <+: place ++ [[]] := (hbelow p hp).trans (List.prefix_append _ _)
      exact (textLength_mono hprefix).trans hfits
    · cases hp
    · exact hfits
  exact ⟨resolve_eq_ok_iff.mpr ⟨acceptPath_eq_ok_iff.mpr ⟨hzero, hfits⟩, way, hway⟩,
    ⟨way, hway, hshort⟩, hw, hs⟩

/-- What a site is made of. -/
theorem make_eq_ok_iff {settings : Settings} :
    make t settings steps = .ok site ↔
      ∃ root, t.canonicalize steps = .ok root ∧
        site = ⟨settings, root, .standard, settingsPlaces t root⟩ := by
  unfold make
  cases t.canonicalize steps with
  | error e => simp [bind, Except.bind]
  | ok root => simp [bind, Except.bind, pure, Except.pure, eq_comm]

/-- The site of a directory that holds no settings. -/
def www : Site := ⟨.defaults, [utf8 "www"], .standard, []⟩

theorem types_of_make {settings : Settings} (h : make t settings steps = .ok site) :
    site.types = .standard := by
  obtain ⟨root, _, rfl⟩ := make_eq_ok_iff.mp h
  rfl

end Site

namespace Serving

variable {site : Site} {t : FileTree} {steps : List Name} {place : Location}

theorem ensureServable_of_admits (path : String) (h : site.Admits t steps place) :
    ensureServable t site steps path = .ok () := by
  obtain ⟨_, hc, hw, hs⟩ := Site.admits_iff.mp h
  simp [ensureServable, hc, (Location.isWithin_iff _ _).mpr hw, hs]

/-- Of steps that lead somewhere the check lets pass only what is admitted. -/
theorem ensureServable_of_not_admits (path : String) (hr : t.resolve steps = .ok place)
    (h : ∀ place, ¬site.Admits t steps place) :
    ∃ notices, ensureServable t site steps path = ⟨.error (.notFound path), notices⟩ := by
  unfold ensureServable
  cases hc : t.canonicalize steps with
  | error e => exact ⟨[], rfl⟩
  | ok l =>
    have hl := resolve_of_canonicalize (resolve_eq_ok_iff.mp hr).1 hc
    by_cases hw : site.root <+: l
    · have hs : l ∈ site.hidden := by
        apply Classical.byContradiction
        intro hs
        exact h l (Site.admits_iff.mpr ⟨hl, hc, hw, hs⟩)
      refine ⟨[], ?_⟩
      simp [(Location.isWithin_iff _ _).mpr hw, hs, Outcome.refuse]
    · have hw' : Location.isWithin site.root l = false := by
        rw [Bool.eq_false_iff]
        exact fun hb => hw ((Location.isWithin_iff _ _).mp hb)
      exact ⟨[.outside path l], by simp [hw']⟩

end Serving

end DocRoot
