import DocRoot.Proofs.FileTree.Addition
import DocRoot.Proofs.Serving.Links
import DocRoot.Proofs.Settings.Lookup

/-!
# What the names of settings files hide

A site hides whatever the name of a settings file leads to when it is made, and does not ask
what it is. A file that settings could be read from is what is meant. A directory that such a
name leads to is withheld in the same way, be it the root.
-/

set_option autoImplicit false

namespace DocRoot

open Http FileTree Serving

namespace FileTree

variable {t : FileTree} {links : Nat} {here root place l : Location} {steps : List Name}
  {seen : List Location} {s : Name}

/-- The steps lead to the place, and no path looked up on the way is too long. -/
structure LeadsSpelled (t : FileTree) (steps : List Name) (place : Location) : Prop where
  found : t.resolve steps = .ok place
  spelled : ¬t.LeadsUnspelled steps place

theorem leadsSpelled_iff :
    t.LeadsSpelled steps place ↔
      acceptPath steps = .ok () ∧ t.canonicalize steps = .ok place := by
  constructor
  · intro h
    exact ⟨(resolve_eq_ok_iff.mp h.found).1,
      (canonicalize_of_resolve h.found).resolve_right h.spelled⟩
  · rintro ⟨ha, hc⟩
    exact ⟨resolve_of_canonicalize ha hc, fun hlong => hlong.canonicalize_ne hc⟩

/-- What is found under a name in a place that is spelled without links is found by a path
that fits: the path itself is looked up on the way. -/
theorem acceptPath_child (hroot : t.canonicalize steps = .ok root) (hs : Plain s)
    (hc : t.canonicalize (root ++ [s]) = .ok place) : acceptPath (root ++ [s]) = .ok () := by
  obtain ⟨_, _, hway, _⟩ := canonicalize_eq_ok_iff.mp hroot
  obtain ⟨n, held, hlink⟩ := hway.holds (holds_top t)
  have held' : t.Holds ([] ++ root) n := held
  obtain ⟨_, hself, _⟩ := held'.leads hlink
  obtain ⟨hzero, seen, hleads, hfits⟩ := canonicalize_eq_ok_iff.mp hc
  obtain ⟨_, mid, _, after, _, hbefore, hafter, hseen, _⟩ :=
    hleads.exists_of_append (List.cons_ne_nil s [])
  obtain ⟨_, rfl⟩ := hself.unique hbefore
  exact acceptPath_eq_ok_iff.mpr ⟨hzero, hfits _ (hseen _ (hafter.child_mem_seen hs))⟩

end FileTree

/-- A file that settings could be read from is at this place. -/
def Settings.CanBeAt (t : FileTree) (root place : Location) : Prop :=
  ∃ name ∈ fileNames, t.resolve (root ++ [utf8 name]) = .ok place ∧
    ∃ content, t.at? place = some (.file content)

section Hidden
variable {t : FileTree} {site : Site} {place : Location} {path : String} {names : List String}
  {settings : Settings} {steps : List Name}

theorem Site.mem_hidden_iff_of_make (made : Site.make t settings steps = .ok site) :
    place ∈ site.hidden ↔
      ∃ name ∈ Settings.fileNames, t.LeadsSpelled (site.root ++ [utf8 name]) place := by
  obtain ⟨root, hroot, rfl⟩ := Site.make_eq_ok_iff.mp made
  rw [Site.mem_settingsPlaces_iff]
  constructor
  · rintro ⟨name, named, hc⟩
    exact ⟨name, named,
      leadsSpelled_iff.mpr ⟨acceptPath_child hroot (plain_of_fileName named) hc, hc⟩⟩
  · rintro ⟨name, named, h⟩
    exact ⟨name, named, (leadsSpelled_iff.mp h).2⟩

/-- Where settings names lead to files only, and no path looked up on the way is too long, the
files are what is hidden. -/
theorem Site.mem_hidden_iff_canBeAt (made : Site.make t settings steps = .ok site)
    (proper : ∀ name ∈ Settings.fileNames, ∀ c, t.resolve (site.root ++ [utf8 name]) = .ok c →
      (∃ content, t.at? c = some (.file content)) ∧
        ¬t.LeadsUnspelled (site.root ++ [utf8 name]) c) :
    place ∈ site.hidden ↔ Settings.CanBeAt t site.root place := by
  rw [Site.mem_hidden_iff_of_make made]
  constructor
  · rintro ⟨name, named, h⟩
    exact ⟨name, named, h.found, (proper name named place h.found).1⟩
  · rintro ⟨name, named, hfound, _⟩
    exact ⟨name, named, hfound, (proper name named place hfound).2⟩

/-- Whoever asks for the place is told that nothing is there, and no listing shows it. -/
structure Site.Buries (site : Site) (t : FileTree) (place : Location) : Prop where
  missing : ∀ (r : Request) (peer : SocketAddr) (timing : Timing) (names : List String),
    r.method = .get → RequestPath.translate? r.target.path = some names →
    t.resolve (site.root ++ RequestPath.location names) = .ok place →
    (Exchange.handle t site r peer timing).response.status = 404
  unlisted : ∀ (dir : List Name) (entries : List (Name × Node)),
    ∀ e ∈ Listing.shown t dir site.hidden entries, ¬t.LeadsSpelled (dir ++ [e.1]) place

/-- The directory is sent to whoever asks for it over paths that can be looked up, and shown
in every listing of what leads to it. -/
structure Site.Exposes (site : Site) (t : FileTree) (place : Location) : Prop where
  moved : ∀ (r : Request) (peer : SocketAddr) (timing : Timing) (names : List String),
    r.method = .get → RequestPath.translate? r.target.path = some names →
    t.LeadsSpelled (site.root ++ RequestPath.steps names) place →
    RequestPath.endsInSlash r.target.path = false →
    (Exchange.handle t site r peer timing).response =
      (Response.redirect (RequestPath.directoryForm r.target.path r.target.query)).1
  listing : ∀ (r : Request) (peer : SocketAddr) (timing : Timing) (names : List String),
    r.method = .get → RequestPath.translate? r.target.path = some names →
    t.LeadsSpelled (site.root ++ RequestPath.steps names) place →
    RequestPath.endsInSlash r.target.path = true →
    site.settings.serve.directoryListing = true →
    NoIndex t (site.root ++ RequestPath.location names) site.settings.serve.indexFiles →
    (Exchange.handle t site r peer timing).response =
      .carrying Response.htmlType (utf8 (Verdict.page t site r.target.path
        (site.root ++ RequestPath.location names) place)) false
  listed : ∀ (dir : List Name) (entries : List (Name × Node)), ∀ e ∈ entries,
    t.LeadsSpelled (dir ++ [e.1]) place → e ∈ Listing.shown t dir site.hidden entries

theorem Site.buries_of_hidden (h : place ∈ site.hidden) : site.Buries t place where
  missing := by
    intro r peer timing names get translated found
    have missing : Denotes t site r.target.path .missing := by
      refine .missing translated ?_
      intro l hl
      obtain rfl : l = place := Except.ok.inj (hl.of_asked.found.symm.trans found)
      exact hl.shown h
    rw [handle_response get missing]
    exact status_of_missing
  unlisted := by
    intro dir entries e he hleads
    exact Listing.canonicalize_ne_of_mem_shown he h (leadsSpelled_iff.mp hleads).2

theorem Site.asks_of_not_hidden (translated : RequestPath.translate? path = some names)
    (leads : t.LeadsSpelled (site.root ++ RequestPath.steps names) place)
    (directory : t.at? place = some .directory) (within : site.root <+: place)
    (h : place ∉ site.hidden) :
    Asks t site path (site.root ++ RequestPath.location names) place .directory := by
  have admitted : site.Admits t (site.root ++ RequestPath.steps names) place :=
    Site.admits_iff.mpr ⟨leads.found, (leadsSpelled_iff.mp leads).2, within, h⟩
  exact .of_names translated admitted directory

theorem Site.exposes_of_not_hidden (directory : t.at? place = some .directory)
    (within : site.root <+: place) (h : place ∉ site.hidden) : site.Exposes t place where
  moved := by
    intro r peer timing names get translated leads ends
    have asks := Site.asks_of_not_hidden translated leads directory within h
    exact handle_response get (.moved asks ends)
  listing := by
    intro r peer timing names get translated leads ends listings noIndex
    have asks := Site.asks_of_not_hidden translated leads directory within h
    rw [handle_response get (.listing asks ends noIndex listings), response_listing]
  listed := by
    intro dir entries e he leads
    apply Classical.byContradiction
    intro hnot
    obtain ⟨l, hl, hc⟩ := Listing.exists_hidden he hnot
    obtain rfl : l = place := Except.ok.inj (hc.symm.trans (leadsSpelled_iff.mp leads).2)
    exact h hl

end Hidden

/-- What a site hides are the places that the names of settings files lead to. They are the
files that settings could be read from, if no such name leads to anything else or over a path
too long to look up. A directory under the root, or the root, can be asked for and is listed
if no such name leads to it, and otherwise it is missing everywhere. -/
theorem settings_names_hide_what_they_lead_to {t : FileTree} {settings : Settings}
    {steps : List Name} {site : Site} (made : Site.make t settings steps = .ok site) :
    (∀ c, c ∈ site.hidden ↔
      ∃ name ∈ Settings.fileNames, t.LeadsSpelled (site.root ++ [utf8 name]) c) ∧
    ((∀ name ∈ Settings.fileNames, ∀ c, t.resolve (site.root ++ [utf8 name]) = .ok c →
        (∃ content, t.at? c = some (.file content)) ∧
          ¬t.LeadsUnspelled (site.root ++ [utf8 name]) c) →
      ∀ c, c ∈ site.hidden ↔ Settings.CanBeAt t site.root c) ∧
    ∀ dir, t.at? dir = some .directory → site.root <+: dir →
      ((∃ name ∈ Settings.fileNames, t.LeadsSpelled (site.root ++ [utf8 name]) dir) →
        site.Buries t dir) ∧
      ((∀ name ∈ Settings.fileNames, ¬t.LeadsSpelled (site.root ++ [utf8 name]) dir) →
        site.Exposes t dir) := by
  refine ⟨?_, ?_, ?_⟩
  · intro c
    exact Site.mem_hidden_iff_of_make made
  · intro proper c
    exact Site.mem_hidden_iff_canBeAt made proper
  · intro dir directory within
    constructor
    · intro led
      exact Site.buries_of_hidden ((Site.mem_hidden_iff_of_make made).mpr led)
    · intro unled
      refine Site.exposes_of_not_hidden directory within ?_
      intro hidden
      obtain ⟨name, named, h⟩ := (Site.mem_hidden_iff_of_make made).mp hidden
      exact unled name named h

section Names

/-- Of the names of settings files only one leads anywhere. -/
theorem leads_linkedSettings :
    ∀ name ∈ Settings.fileNames, ∀ c,
      linkedSettings.resolve (linkedSite.root ++ [utf8 name]) = .ok c →
      c = livePlace ∧ ¬linkedSettings.LeadsUnspelled (linkedSite.root ++ [utf8 name]) c := by
  have hcases : ∀ name ∈ Settings.fileNames, name = "fileserver.toml" ∨
      linkedSettings.resolve (linkedSite.root ++ [utf8 name]) = .error .noEntry := by
    simp only [Settings.fileNames, Settings.fileExtensions, List.map_cons, List.map_nil,
      List.forall_mem_cons]
    exact ⟨Or.inl rfl, Or.inr rfl, Or.inr rfl, Or.inr rfl, Or.inr rfl, Or.inr rfl, Or.inr rfl,
      by simp⟩
  intro name named c hc
  rcases hcases name named with rfl | hnone
  · have found : linkedSettings.canonicalize (linkedSite.root ++ [utf8 "fileserver.toml"]) =
        .ok livePlace := rfl
    have hplace : linkedSettings.resolve (linkedSite.root ++ [utf8 "fileserver.toml"]) =
        .ok livePlace := rfl
    exact ⟨Except.ok.inj (hc.symm.trans hplace), fun hlong => hlong.canonicalize_ne found⟩
  · cases hc.symm.trans hnone

theorem settings_names_hide_what_they_lead_to_linked :
    Site.make linkedSettings quiet [utf8 "www"] = .ok linkedSite ∧
      (∀ c, c ∈ linkedSite.hidden ↔ Settings.CanBeAt linkedSettings linkedSite.root c) ∧
      linkedSite.Exposes linkedSettings linkedSite.root ∧
      linkedSite.Exposes linkedSettings [utf8 "www", utf8 "conf"] := by
  have made : Site.make linkedSettings quiet [utf8 "www"] = .ok linkedSite := rfl
  obtain ⟨_, proper, directories⟩ := settings_names_hide_what_they_lead_to made
  have unled : ∀ dir, dir ≠ livePlace → ∀ name ∈ Settings.fileNames,
      ¬linkedSettings.LeadsSpelled (linkedSite.root ++ [utf8 name]) dir := by
    intro dir hne name named h
    exact hne (leads_linkedSettings name named dir h.found).1
  refine ⟨made, proper ?_, ?_, ?_⟩
  · intro name named c hc
    obtain ⟨rfl, hspelled⟩ := leads_linkedSettings name named c hc
    exact ⟨⟨_, rfl⟩, hspelled⟩
  · exact (directories _ rfl List.prefix_rfl).2 (unled _ (by decide))
  · exact (directories _ rfl (List.prefix_append _ _)).2 (unled _ (by decide))

/-- A root with a way back to it and a directory in it, both under names of settings files. -/
def ownSettings : FileTree :=
  ⟨[([utf8 "www"], .directory), ([utf8 "www", utf8 "fileserver.toml"], .link (utf8 ".")),
    ([utf8 "www", utf8 "fileserver.json"], .directory)]⟩

def ownSite : Site :=
  ⟨.defaults, [utf8 "www"], .standard,
    [[utf8 "www"], [utf8 "www", utf8 "fileserver.json"]]⟩

/-- There is no file that settings could be read from, and yet two directories are hidden. One
is the root, so it is missing. -/
theorem directories_named_like_settings_are_hidden :
    Site.make ownSettings .defaults [utf8 "www"] = .ok ownSite ∧
      Settings.Source.find? ownSettings ownSite.root (utf8 Settings.fileStem) = none ∧
      (∀ c, ¬Settings.CanBeAt ownSettings ownSite.root c) ∧
      ownSite.root ∈ ownSite.hidden ∧ ownSettings.at? ownSite.root = some .directory ∧
      (Exchange.handle ownSettings ownSite (Request.get "/") .neighbour
        ⟨⟨0, 0, 0⟩, 0⟩).response.status = 404 := by
  have hidden : ownSite.root ∈ ownSite.hidden := List.mem_cons_self
  refine ⟨rfl, rfl, ?_, hidden, rfl, ?_⟩
  · rintro c ⟨_, _, _, content, hc⟩
    have hne : c ≠ [] := by
      rintro rfl
      cases hc
    have hmem := mem_nodes_of_at? hne hc
    simp [ownSettings] at hmem
  · have found : ownSettings.resolve (ownSite.root ++ RequestPath.location []) =
        .ok ownSite.root := rfl
    exact (Site.buries_of_hidden hidden).missing (Request.get "/") _ _ [] rfl rfl found

end Names

end DocRoot
