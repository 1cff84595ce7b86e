import DocRoot.Exchange
import DocRoot.Proofs.FileTree.Agreement
import DocRoot.Proofs.Serving.Denotes

/-!
# Contents that nobody may see

A place is protected if it is outside the root or hidden. Trees that differ only in the
contents of protected files are answered alike: whatever is read has passed the check,
and the check goes by places alone.
-/

set_option autoImplicit false

namespace DocRoot

open Http FileTree

/-- No client may see what the place holds. -/
def Site.Protects (site : Site) (place : Location) : Prop :=
  ¬site.root <+: place ∨ place ∈ site.hidden

theorem Site.Admits.not_protects {site : Site} {t : FileTree} {steps : List Name}
    {place : Location} (h : site.Admits t steps place) : ¬site.Protects place := by
  rintro (hw | hs)
  · exact hw h.within
  · exact h.shown hs

section Alike
variable {secret : Location → Prop} {t u : FileTree} {steps dir : List Name}

theorem Site.make_eq (h : t.AlikeBut secret u) (settings : Settings) (steps : List Name) :
    Site.make t settings steps = Site.make u settings steps := by
  simp only [make, settingsPlaces, h.canonicalize_eq]

namespace Listing

theorem isHidden_eq (h : t.AlikeBut secret u) (hidden : List Location) (steps : List Name) :
    isHidden t hidden steps = isHidden u hidden steps := by
  simp only [isHidden, h.canonicalize_eq]

/-- Of an entry only its name counts, and whether it is a link. -/
theorem items_eq_of_shown (hidden : List Location) (entries : List (Name × Node)) :
    items t dir hidden entries =
      ((entries.map fun e => (e.1, e.2.isLink)).filter fun e =>
        !isHidden t hidden (dir ++ [e.1])).map fun e =>
          Item.ofEntry (Utf8.lossy e.1) e.2 (t.isDirectory (dir ++ [e.1])) := by
  rw [List.filter_map, List.map_map]
  rfl

theorem items_eq (h : t.AlikeBut secret u) (hidden : List Location) (l : Location) :
    items t dir hidden (t.entries l) = items u dir hidden (u.entries l) := by
  simp only [items_eq_of_shown, h.entries_eq, isHidden_eq h, h.isDirectory_eq]

theorem render_eq (h : t.AlikeBut secret u) (hidden : List Location) (display : String) :
    render t dir display hidden = render u dir display hidden := by
  unfold render
  rcases h.list_cases dir with ⟨e, ht, hu⟩ | ⟨l, ht, hu⟩
  · rw [ht, hu]
  · rw [ht, hu]
    simp only [items_eq h]

end Listing

namespace Serving

variable {site : Site} {place : Location} {path : String} {isHead : Bool}

theorem ensureServable_eq (h : t.AlikeBut secret u) (steps : List Name) (path : String) :
    ensureServable t site steps path = ensureServable u site steps path := by
  simp only [ensureServable, h.canonicalize_eq]

theorem findIndex_eq (h : t.AlikeBut secret u) (dir : List Name) (names : List String) :
    findIndex t dir names = findIndex u dir names := by
  have hfile : (t.isFile ·) = (u.isFile ·) := funext h.isFile_eq
  simp only [findIndex, hfile]

/-- What follows the check counts only where it is passed. -/
theorem ensureServable_bind_eq {α : Type} {f g : Unit → Outcome α} {l : Location}
    (hr : t.resolve steps = .ok l) (hfg : ∀ place, site.Admits t steps place → f () = g ()) :
    (ensureServable t site steps path).bind f = (ensureServable t site steps path).bind g := by
  by_cases hadm : ∃ place, site.Admits t steps place
  · obtain ⟨place, hadm⟩ := hadm
    rw [ensureServable_of_admits path hadm, Outcome.ok_bind, Outcome.ok_bind, hfg place hadm]
  · obtain ⟨notices, hens⟩ := ensureServable_of_not_admits path hr (not_exists.mp hadm)
    rw [hens]
    rfl

section Protected
variable (alike : t.AlikeBut site.Protects u)
include alike

theorem sendFile_eq (h : site.Admits t steps place) :
    sendFile t site steps path isHead = sendFile u site steps path isHead := by
  simp only [sendFile, alike.read_eq h.found h.not_protects]

theorem sendDirectory_eq (steps : List Name) :
    sendDirectory t site steps path isHead = sendDirectory u site steps path isHead := by
  simp only [sendDirectory, ← findIndex_eq alike, ← Listing.render_eq alike,
    ← ensureServable_eq alike, Outcome.bind_eq]
  split
  · rename_i index hi
    obtain ⟨_, _, hr, _⟩ := (findIndex_eq_some_iff.mp hi).leadsToFile
    exact ensureServable_bind_eq hr fun place hadm => sendFile_eq alike hadm
  · rfl

theorem load_eq (target : Target) (isHead : Bool) :
    load t site target isHead = load u site target isHead := by
  simp only [load, ← ensureServable_eq alike, ← sendDirectory_eq alike, Outcome.bind_eq]
  split
  · rfl
  · rename_i names _
    rcases alike.node_cases (site.root ++ RequestPath.steps names) with
      ⟨e, ht, hu⟩ | ⟨_, n, m, hr, ht, hu, hn⟩
    · rw [ht, hu]
    · rw [ht, hu]
      simp only [← hn.isDirectory_eq]
      apply ensureServable_bind_eq hr
      intro place hadm
      rw [sendFile_eq alike hadm.of_asked]

theorem answer_eq (method : Method) (target : Target) :
    answer t site method target = answer u site method target := by
  cases method <;> simp only [answer, serve, load_eq alike]

end Protected

end Serving

end Alike

end DocRoot
