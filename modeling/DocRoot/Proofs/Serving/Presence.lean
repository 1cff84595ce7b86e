import DocRoot.Proofs.FileTree.Addition
import DocRoot.Proofs.Listing
import DocRoot.Proofs.Serving.Concealment
import DocRoot.Proofs.Settings.Lookup

/-!
# Settings that nobody can tell are there

Two sites are made of the same settings, one on a tree with a settings file in its root and
one on the tree without it. A path that leads to the file is missing in both, in the one
because nothing is there and in the other because the file is hidden. All else is found alike,
so the answers are the same, unless the root is so deep that the file cannot be hidden: then
it is listed.
-/

set_option autoImplicit false

namespace DocRoot

open Http FileTree Serving

/-- The site made anew on other files, under the same settings and at the same root. -/
def Site.remade (site : Site) (u : FileTree) : Site :=
  { site with hidden := Site.settingsPlaces u site.root }

section Added
variable {t u : FileTree} {site : Site} {name : String} {content : Bytes} {steps : List Name}
  {l : Location} {path : String} {target : Target} {isHead : Bool}

/-- A settings file is put into the root of a site: what is found on the way is as before, and
what the site hides is what it hid before and the file. -/
structure Site.Gains (site : Site) (t u : FileTree) (name : String) (content : Bytes) : Prop where
  adds : t.Adds u (site.root ++ [utf8 name]) content
  named : name ∈ Settings.fileNames
  hides : site.hidden = Site.settingsPlaces t site.root
  unlinked : u.NoLinkTo (site.root ++ [utf8 name])
  /-- No name of an index leads from a directory to the file. -/
  unindexed : ∀ dir, t.isDirectory dir = true → ∀ index ∈ site.settings.serve.indexFiles,
    u.resolve (Path.join dir (utf8 index)) ≠ .ok (site.root ++ [utf8 name])

namespace Site.Gains

variable (h : site.Gains t u name content)
include h

theorem mem_hidden_iff :
    l ∈ site.hidden ↔ l ∈ (site.remade u).hidden ∧ l ≠ site.root ++ [utf8 name] := by
  rw [h.hides]
  simp only [remade, mem_settingsPlaces_iff, h.adds.canonicalize_eq_ok_iff]
  constructor
  · rintro ⟨n, hn, hc, hne⟩
    exact ⟨⟨n, hn, hc⟩, hne⟩
  · rintro ⟨⟨n, hn, hc⟩, hne⟩
    exact ⟨n, hn, hc, hne⟩

theorem contains_eq (hl : l ≠ site.root ++ [utf8 name]) :
    (site.remade u).hidden.contains l = site.hidden.contains l := by
  rw [Bool.eq_iff_iff, List.contains_iff_mem, List.contains_iff_mem, h.mem_hidden_iff]
  exact (and_iff_left hl).symm

/-- The file is hidden if its path fits and something leads to it. -/
theorem mem_hidden (hz : ∀ s ∈ site.root, 0 ∉ s)
    (held : u.Holds (site.root ++ [utf8 name]) (.file content))
    (hfits : Path.textLength (site.root ++ [utf8 name]) ≤ maxPathLength) :
    site.root ++ [utf8 name] ∈ (site.remade u).hidden := by
  have hzero : ∀ s ∈ site.root ++ [utf8 name], 0 ∉ s := by
    simp only [List.forall_mem_append, List.forall_mem_singleton]
    exact ⟨hz, zero_not_mem_fileName h.named⟩
  exact mem_settingsPlaces_iff.mpr ⟨name, h.named, held.canonicalize_self rfl hzero hfits⟩

theorem ensureServable_eq (hne : u.resolve steps ≠ .ok (site.root ++ [utf8 name]))
    (hr : t.resolve steps = .ok l) :
    ensureServable u (site.remade u) steps path = ensureServable t site steps path := by
  have ha : acceptPath steps = .ok () := (resolve_eq_ok_iff.mp hr).1
  have hfound := h.adds.canonicalize_found steps
  generalize ht : t.canonicalize steps = x at hfound
  generalize hu : u.canonicalize steps = y at hfound
  cases hfound with
  | same l hl =>
    have hroot : (site.remade u).root = site.root := rfl
    simp only [ensureServable, ht, hu, h.contains_eq hl, hroot]
  | neither e e' => simp only [ensureServable, ht, hu]
  | added e => exact absurd (resolve_of_canonicalize ha hu) hne

/-- A path that leads to the file gets past the check in no case. -/
theorem ensureServable_added (hz : ∀ s ∈ site.root, 0 ∉ s)
    (hr : u.resolve steps = .ok (site.root ++ [utf8 name])) :
    ensureServable u (site.remade u) steps path = .refuse (.notFound path) := by
  obtain ⟨n, held, _⟩ := holds_of_resolve hr
  obtain rfl : n = .file content := Option.some.inj (held.node.symm.trans h.adds.added)
  unfold ensureServable
  cases hc : u.canonicalize steps with
  | error e => rfl
  | ok l =>
    obtain rfl : l = site.root ++ [utf8 name] :=
      Except.ok.inj ((resolve_of_canonicalize (resolve_eq_ok_iff.mp hr).1 hc).symm.trans hr)
    obtain ⟨_, seen, hleads, hseen⟩ := canonicalize_eq_ok_iff.mp hc
    have hfits : Path.textLength (site.root ++ [utf8 name]) ≤ maxPathLength := by
      rcases hleads.end_mem_seen (holds_top u) with hd | hm
      · cases hd.node_unique held
      · exact hseen _ hm
    have hwithin : Location.isWithin (site.remade u).root (site.root ++ [utf8 name]) = true :=
      (Location.isWithin_iff _ _).mpr (List.prefix_append _ _)
    simp [hwithin, h.mem_hidden hz held hfits]

section Directory
variable (adm : site.Admits t steps l) (held : t.Holds l .directory)
include adm held

omit held in
theorem leads_directory : ∃ seen, u.Leads maxLinks [] steps seen l ∧
    ∀ p ∈ seen, Path.textLength p ≤ maxPathLength := by
  obtain ⟨seen, hl, hseen⟩ := adm.spelled
  exact ⟨seen, h.adds.grows.leads hl, hseen⟩

theorem holds_directory : u.Holds l .directory := by
  obtain ⟨seen, hl, _⟩ := h.leads_directory adm
  obtain ⟨n, hn, _⟩ := hl.holds (holds_top u)
  obtain rfl : n = .directory :=
    Option.some.inj (hn.node.symm.trans (h.adds.at?_eq_of_some held.node).2)
  exact hn

theorem isHidden_eq {e : Name} (he : l ++ [e] ≠ site.root ++ [utf8 name]) :
    Listing.isHidden u (site.remade u).hidden (steps ++ [e]) =
      Listing.isHidden t site.hidden (steps ++ [e]) := by
  obtain ⟨seen, hl, _⟩ := h.leads_directory adm
  have hfound := h.adds.canonicalize_found (steps ++ [e])
  generalize ht : t.canonicalize (steps ++ [e]) = x at hfound
  generalize hu : u.canonicalize (steps ++ [e]) = y at hfound
  cases hfound with
  | same l hne => simp only [Listing.isHidden, ht, hu, h.contains_eq hne]
  | neither e e' => simp only [Listing.isHidden, ht, hu]
  | added e =>
    obtain ⟨_, seen', hplace, _⟩ := canonicalize_eq_ok_iff.mp hu
    exact absurd hplace (h.adds.entry_ne h.unlinked hl (h.holds_directory adm held) he)

end Directory

/-- The way to the file through the root that it is in. -/
theorem leads_added {seen : List Location} (hl : u.Leads maxLinks [] steps seen site.root)
    (hd : u.at? site.root = some .directory) :
    ∃ way, u.Leads maxLinks [] (steps ++ [utf8 name]) way (site.root ++ [utf8 name]) ∧
      site.root ++ [utf8 name] ∈ way ∧ ∀ x ∈ way, x ∈ seen ∨ x = site.root ++ [utf8 name] := by
  have hplain := plain_of_fileName h.named
  obtain ⟨way, hway, hon, hback⟩ := hl.append hd fun _ => .leaf hplain h.adds.added rfl rfl
  refine ⟨way, hway, hon _ (List.mem_singleton_self _), ?_⟩
  intro x hx
  rcases hback x hx with hx | hx | ⟨hasks, _⟩
  · exact .inl hx
  · exact .inr (List.mem_singleton.mp hx)
  · cases (hplain.asksDirectory []).symm.trans hasks

theorem isHidden_added_iff (adm : site.Admits t steps site.root)
    (held : t.Holds site.root .directory) (hz : ∀ s ∈ site.root, 0 ∉ s) :
    Listing.isHidden u (site.remade u).hidden (steps ++ [utf8 name]) = true ↔
      Path.textLength (site.root ++ [utf8 name]) ≤ maxPathLength := by
  obtain ⟨seen, hl, hseen⟩ := h.leads_directory adm
  have hd := h.holds_directory adm held
  obtain ⟨way, hway, hadded, hback⟩ := h.leads_added hl hd.node
  constructor
  · intro hidden
    apply Nat.not_lt.mp
    intro hlong
    have hnone : ∀ place, u.canonicalize (steps ++ [utf8 name]) ≠ .ok place :=
      fun place => canonicalize_ne_ok hway hadded hlong
    cases hc : u.canonicalize (steps ++ [utf8 name]) with
    | ok place => exact hnone place hc
    | error e => simp [Listing.isHidden, hc] at hidden
  · intro hfits
    have hzero : ∀ s ∈ steps ++ [utf8 name], 0 ∉ s := by
      simp only [List.forall_mem_append, List.forall_mem_singleton]
      exact ⟨(canonicalize_eq_ok_iff.mp adm.canonical).1, zero_not_mem_fileName h.named⟩
    have hc : u.canonicalize (steps ++ [utf8 name]) = .ok (site.root ++ [utf8 name]) := by
      refine canonicalize_eq_ok_iff.mpr ⟨hzero, way, hway, ?_⟩
      intro x hx
      rcases hback x hx with hx | rfl
      · exact hseen x hx
      · exact hfits
    have hmem := h.mem_hidden hz (hd.child (plain_of_fileName h.named) h.adds.added) hfits
    simp [Listing.isHidden, hc, hmem]

/-- Of the entries that are shown, all but the file are those that were shown before. -/
theorem filter_shown (adm : site.Admits t steps l) (held : t.Holds l .directory) :
    (((u.entries l).filter fun e =>
          !Listing.isHidden u (site.remade u).hidden (steps ++ [e.1])).filter
        fun e => l ++ [e.1] ≠ site.root ++ [utf8 name]) =
      (t.entries l).filter fun e => !Listing.isHidden t site.hidden (steps ++ [e.1]) := by
  rw [← h.adds.entries l, List.filter_filter, List.filter_filter]
  apply List.filter_congr
  intro e _
  by_cases he : l ++ [e.1] = site.root ++ [utf8 name]
  · simp [he]
  · simp [he, h.isHidden_eq adm held he]

theorem items_eq (adm : site.Admits t steps l) (held : t.Holds l .directory)
    (hz : ∀ s ∈ site.root, 0 ∉ s)
    (hfits : l = site.root → Path.textLength (site.root ++ [utf8 name]) ≤ maxPathLength) :
    Listing.items u steps (site.remade u).hidden (u.entries l) =
      Listing.items t steps site.hidden (t.entries l) := by
  have hall : ∀ e ∈ (u.entries l).filter fun e =>
      !Listing.isHidden u (site.remade u).hidden (steps ++ [e.1]),
      decide (l ++ [e.1] ≠ site.root ++ [utf8 name]) = true := by
    intro e he
    rw [decide_eq_true_iff]
    intro hplace
    obtain ⟨rfl, he'⟩ := List.append_inj' hplace rfl
    have hhidden := (h.isHidden_added_iff adm held hz).mpr (hfits rfl)
    have hshown := (List.mem_filter.mp he).2
    rw [(List.cons.inj he').1, hhidden] at hshown
    cases hshown
  unfold Listing.items
  rw [← h.filter_shown adm held, List.filter_eq_self.mpr hall]
  simp only [h.adds.isDirectory_eq]

/-- A file that cannot be hidden is listed along with the rest. -/
theorem items_longer (adm : site.Admits t steps site.root) (held : t.Holds site.root .directory)
    (hz : ∀ s ∈ site.root, 0 ∉ s)
    (hlong : maxPathLength < Path.textLength (site.root ++ [utf8 name])) :
    ∃ extra, extra ≠ [] ∧
      (Listing.items u steps (site.remade u).hidden (u.entries site.root)).Perm
        (extra ++ Listing.items t steps site.hidden (t.entries site.root)) := by
  have hn : (utf8 name, Node.file content) ∈ u.entries site.root :=
    mem_entries (mem_nodes_of_at? (by simp) h.adds.added)
  have hshown : Listing.isHidden u (site.remade u).hidden (steps ++ [utf8 name]) = false := by
    rw [Bool.eq_false_iff]
    intro hhidden
    exact Nat.not_le.mpr hlong ((h.isHidden_added_iff adm held hz).mp hhidden)
  have hparts := List.filter_append_perm
    (fun e => decide (site.root ++ [e.1] = site.root ++ [utf8 name]))
    ((u.entries site.root).filter fun e =>
      !Listing.isHidden u (site.remade u).hidden (steps ++ [e.1]))
  have hrest := h.filter_shown adm held
  simp only [ne_eq, decide_not] at hrest
  rw [hrest] at hparts
  unfold Listing.items
  simp only [h.adds.isDirectory_eq]
  refine ⟨_, ?_, (hparts.symm.map _).trans (.of_eq List.map_append)⟩
  rw [ne_eq, List.map_eq_nil_iff]
  apply List.ne_nil_of_mem (a := (utf8 name, Node.file content))
  simp [hn, hshown]

theorem findIndex_eq {names : List String} (hd : t.isDirectory steps = true)
    (hnames : ∀ index ∈ names, index ∈ site.settings.serve.indexFiles) :
    findIndex u steps names = findIndex t steps names := by
  induction names with
  | nil => rfl
  | cons index names ih =>
    have hrest := ih fun i hi => hnames i (List.mem_cons_of_mem _ hi)
    have hfile := h.adds.isFile_eq (h.unindexed steps hd index (hnames index List.mem_cons_self))
    unfold findIndex at hrest ⊢
    simp only [List.map_cons, List.find?_cons, hfile, hrest]

theorem sendFile_eq (hr : t.resolve steps = .ok l) :
    sendFile u (site.remade u) steps path isHead = sendFile t site steps path isHead := by
  have htypes : (site.remade u).types = site.types := rfl
  rcases h.adds.node_cases steps with ⟨_, n, _, _, _, ht, hu⟩ | ⟨e, ht, _⟩
  · simp only [sendFile, FileTree.read, ht, hu, htypes]
  · obtain ⟨n, hn, _⟩ := holds_of_resolve hr
    rw [node_of_resolve hr hn] at ht
    cases ht

/-- An index that is found is sent, or refused, on both trees. -/
theorem sendIndex_eq {index : List Name}
    (hi : findIndex t steps site.settings.serve.indexFiles = some index)
    (hd : t.isDirectory steps = true) :
    ((ensureServable u (site.remade u) index path).bind fun _ =>
        sendFile u (site.remade u) index path isHead) =
      (ensureServable t site index path).bind fun _ => sendFile t site index path isHead := by
  obtain ⟨before, n, after, hnames, rfl, ⟨place, content, hr, _⟩, _⟩ := findIndex_eq_some_iff.mp hi
  have hindex : n ∈ site.settings.serve.indexFiles := by
    rw [hnames]
    simp
  rw [h.ensureServable_eq (h.unindexed steps hd n hindex) hr, h.sendFile_eq hr]

/-- A directory is sent alike, unless it is the root and its listing shows the file. -/
theorem sendDirectory_eq (adm : site.Admits t steps l) (held : t.Holds l .directory)
    (hz : ∀ s ∈ site.root, 0 ∉ s)
    (hfits : findIndex t steps site.settings.serve.indexFiles = none →
      site.settings.serve.directoryListing = true → l = site.root →
        Path.textLength (site.root ++ [utf8 name]) ≤ maxPathLength) :
    sendDirectory u (site.remade u) steps path isHead = sendDirectory t site steps path isHead := by
  have hd := isDirectory_iff.mpr ⟨l, adm.found, held⟩
  have hsettings : (site.remade u).settings = site.settings := rfl
  simp only [sendDirectory, hsettings, h.findIndex_eq hd fun _ hi => hi, Outcome.bind_eq]
  split
  · rename_i index hi
    exact h.sendIndex_eq hi hd
  · rename_i hi
    by_cases hlisting : site.settings.serve.directoryListing = true
    · have hu := list_of_resolve (h.adds.grows.resolve adm.found) (h.holds_directory adm held)
      have hitems := h.items_eq adm held hz (hfits hi hlisting)
      simp only [Listing.render, list_of_resolve adm.found held, hu, hitems]
    · simp only [hlisting, Bool.false_eq_true, if_false]

/-- Only a listing of the root can show that the file is there, and only if the file's own
path is too long to be hidden. -/
theorem load_eq (hfits : ∀ dir, Denotes t site target.path (.listing dir site.root) →
    Path.textLength (site.root ++ [utf8 name]) ≤ maxPathLength) :
    load u (site.remade u) target isHead = load t site target isHead := by
  have hroot : (site.remade u).root = site.root := rfl
  cases hn : RequestPath.translate? target.path with
  | none => simp only [load, hn]
  | some names =>
    rcases h.adds.node_cases (site.root ++ RequestPath.steps names) with
      ⟨l, n, hne, hr, hru, ht, hu⟩ | ⟨e, ht, ⟨e', hu⟩ | ⟨hru, hu⟩⟩
    · have hl : u.resolve (site.root ++ RequestPath.steps names) ≠
          .ok (site.root ++ [utf8 name]) := by
        rw [hru]
        exact fun heq => hne (Except.ok.inj heq)
      have hz : ∀ s ∈ site.root, 0 ∉ s := fun s hs =>
        (acceptPath_eq_ok_iff.mp (resolve_eq_ok_iff.mp hr).1).1 s (List.mem_append_left _ hs)
      simp only [load, hn, hroot, ht, hu, h.ensureServable_eq hl hr, Outcome.bind_eq]
      apply ensureServable_bind_eq hr
      intro place adm
      simp only [h.sendFile_eq adm.of_asked.found]
      obtain ⟨m, held, _⟩ := adm.holds
      obtain rfl : n = m := Except.ok.inj (ht.symm.trans (node_of_resolve adm.found held))
      by_cases hd : n.isDirectory = true
      · obtain rfl : n = .directory := by cases n <;> simp_all [Node.isDirectory]
        have ha : Asks t site target.path (site.root ++ RequestPath.location names) place
            .directory := .of_names hn adm held.node
        by_cases hs : RequestPath.endsInSlash target.path = true
        · simp only [hd, hs, if_true]
          apply h.sendDirectory_eq adm.of_asked held hz
          rintro hi hlisting rfl
          exact hfits _ (.listing ha hs (findIndex_eq_none_iff.mp hi) hlisting)
        · simp only [hs, Bool.false_eq_true, if_false]
      · simp only [hd, Bool.false_eq_true, if_false]
    · simp only [load, hn, hroot, ht, hu]
    · have hz : ∀ s ∈ site.root, 0 ∉ s := fun s hs =>
        (acceptPath_eq_ok_iff.mp (resolve_eq_ok_iff.mp hru).1).1 s (List.mem_append_left _ hs)
      simp only [load, hn, hroot, ht, hu, h.ensureServable_added hz hru, Outcome.bind_eq,
        Outcome.refuse_bind]

theorem denotes_listing {dir : List Name} (hden : Denotes t site path (.listing dir l)) :
    Denotes u (site.remade u) path (.listing dir l) := by
  cases hden with
  | listing ha hs hno hl =>
    have hd := isDirectory_iff.mpr ⟨l, ha.admitted.found, ha.held⟩
    obtain ⟨names, hn, rfl, hasked⟩ := ha.translated
    obtain ⟨hr, hc, hw, hshown⟩ := Site.admits_iff.mp hasked
    obtain ⟨hcu, hne⟩ := h.adds.canonicalize_eq_ok_iff.mp hc
    have hshown' : l ∉ (site.remade u).hidden := fun hm => hshown (h.mem_hidden_iff.mpr ⟨hm, hne⟩)
    have adm : (site.remade u).Admits u (site.root ++ RequestPath.steps names) l :=
      Site.admits_iff.mpr ⟨h.adds.grows.resolve hr, hcu, hw, hshown'⟩
    have directory := h.holds_directory hasked ha.held
    have hno' : NoIndex u (site.root ++ RequestPath.location names)
        (site.remade u).settings.serve.indexFiles := by
      rw [← findIndex_eq_none_iff]
      exact (h.findIndex_eq hd fun _ hi => hi).trans (findIndex_eq_none_iff.mpr hno)
    exact .listing (.of_names hn adm directory.node) hs hno' hl

/-- A file that cannot be hidden makes the page for the root longer. -/
theorem listing_ne (hlong : maxPathLength < Path.textLength (site.root ++ [utf8 name]))
    {dir : List Name} (hden : Denotes t site target.path (.listing dir site.root)) :
    (serve u (site.remade u) target isHead).1 ≠ (serve t site target isHead).1 := by
  intro heq
  rw [serve_response (h.denotes_listing hden), serve_response hden, response_listing,
    response_listing] at heq
  have hlength := Response.length_eq_of_carrying_eq heq
  cases hden with
  | listing ha hs hno hl =>
    have hz : ∀ s ∈ site.root, 0 ∉ s := by
      obtain ⟨names, _, rfl, _⟩ := ha.translated
      exact fun s hs => (acceptPath_eq_ok_iff.mp (resolve_eq_ok_iff.mp ha.admitted.found).1).1 s
        (List.mem_append_left _ hs)
    obtain ⟨extra, hextra, hperm⟩ := h.items_longer ha.admitted ha.held hz hlong
    exact absurd hlength
      (Nat.ne_of_gt (Listing.length_page_lt (RequestPath.display target.path) hperm hextra))

end Site.Gains

/-- The request is answered with the listing of the root. -/
def Site.ListsRoot (site : Site) (t : FileTree) (r : Request) : Prop :=
  (r.method = .get ∨ r.method = .head) ∧
    ∃ dir, Denotes t site r.target.path (.listing dir site.root)

theorem serve_listing_tells_nothing {dir : List Name}
    (h : Denotes t site target.path (.listing dir l)) : (serve t site target isHead).2 = [] := by
  cases h with
  | listing ha hs hno hl =>
    have hlist := list_of_resolve ha.admitted.found ha.held
    simp [serve, load_of_asks ha, hs, Node.isDirectory, sendDirectory,
      findIndex_eq_none_iff.mpr hno, hl, Listing.render, hlist, Outcome.told, Response.ofListing,
      Response.ofFile_eq Response.noControl_htmlType]

namespace Site.Gains
variable (h : site.Gains t u name content)
include h

theorem serve_tells_eq :
    (serve u (site.remade u) target isHead).2 = (serve t site target isHead).2 := by
  by_cases hlists : ∃ dir, Denotes t site target.path (.listing dir site.root)
  · obtain ⟨dir, hden⟩ := hlists
    rw [serve_listing_tells_nothing hden, serve_listing_tells_nothing (h.denotes_listing hden)]
  · have hload : load u (site.remade u) target isHead = load t site target isHead :=
      h.load_eq fun dir hden => absurd ⟨dir, hden⟩ hlists
    simp only [serve, hload]

theorem serve_eq_iff :
    (serve u (site.remade u) target isHead).1 = (serve t site target isHead).1 ↔
      ¬(maxPathLength < Path.textLength (site.root ++ [utf8 name]) ∧
        ∃ dir, Denotes t site target.path (.listing dir site.root)) := by
  constructor
  · rintro heq ⟨hlong, dir, hden⟩
    exact h.listing_ne hlong hden heq
  · intro hnot
    have hload : load u (site.remade u) target isHead = load t site target isHead :=
      h.load_eq fun dir hden => Nat.not_lt.mp fun hlong => hnot ⟨hlong, dir, hden⟩
    simp only [serve, hload]

theorem handle_eq_iff (r : Request) (peer : SocketAddr) (timing : Timing) :
    (Exchange.handle u (site.remade u) r peer timing).notices =
        (Exchange.handle t site r peer timing).notices ∧
      ((Exchange.handle u (site.remade u) r peer timing).response =
          (Exchange.handle t site r peer timing).response ↔
        ¬(maxPathLength < Path.textLength (site.root ++ [utf8 name]) ∧ site.ListsRoot t r)) := by
  unfold Exchange.handle ListsRoot
  cases r.method with
  | get => exact ⟨h.serve_tells_eq, h.serve_eq_iff.trans (by simp)⟩
  | head => exact ⟨h.serve_tells_eq, h.serve_eq_iff.trans (by simp)⟩
  | other token => exact ⟨rfl, by simp [answer]⟩

end Site.Gains

end Added

/-- Whether a settings file is in the root, no request can tell, and neither can the operator,
unless the file's own path is too long to be hidden: then, and only then, the listing of the root
shows it. -/
theorem settings_file_is_unobservable {t u : FileTree} {settings : Settings} {steps : List Name}
    {site : Site} {name : String} {content : Bytes}
    (made : Site.make t settings steps = .ok site) (named : name ∈ Settings.fileNames)
    (adds : t.Adds u (site.root ++ [utf8 name]) content)
    (unlinked : u.NoLinkTo (site.root ++ [utf8 name]))
    (unindexed : ∀ dir, t.isDirectory dir = true → ∀ index ∈ settings.serve.indexFiles,
      u.resolve (Path.join dir (utf8 index)) ≠ .ok (site.root ++ [utf8 name])) :
    ∃ after, Site.make u settings steps = .ok after ∧ ∀ r peer timing,
      (Exchange.handle u after r peer timing).notices =
          (Exchange.handle t site r peer timing).notices ∧
        ((Exchange.handle u after r peer timing).response =
            (Exchange.handle t site r peer timing).response ↔
          ¬(maxPathLength < Path.textLength (site.root ++ [utf8 name]) ∧ site.ListsRoot t r)) := by
  obtain ⟨root, hroot, rfl⟩ := Site.make_eq_ok_iff.mp made
  have gains :
      Site.Gains ⟨settings, root, .standard, Site.settingsPlaces t root⟩ t u name content :=
    ⟨adds, named, rfl, unlinked, unindexed⟩
  have hroot' : u.canonicalize steps = .ok root := (adds.canonicalize_eq_ok_iff.mp hroot).1
  exact ⟨_, Site.make_eq_ok_iff.mpr ⟨root, hroot', rfl⟩, gains.handle_eq_iff⟩

section Instances
variable {t u : FileTree} {root : Location} {content : Bytes}

theorem unindexed_of_defaults (adds : t.Adds u (root ++ [utf8 "fileserver.toml"]) content)
    (unlinked : u.NoLinkTo (root ++ [utf8 "fileserver.toml"])) (dir : List Name)
    (hd : t.isDirectory dir = true) (index : String)
    (hindex : index ∈ Settings.defaults.serve.indexFiles) :
    u.resolve (Path.join dir (utf8 index)) ≠ .ok (root ++ [utf8 "fileserver.toml"]) := by
  have plain : ∀ index ∈ Settings.defaults.serve.indexFiles, Path.slash ∉ utf8 index ∧
      utf8 index ≠ utf8 "fileserver.toml" := by decide
  obtain ⟨hslash, hne⟩ := plain index hindex
  exact adds.join_ne unlinked hd hslash hne

/-- The tree of `besideKey` with a settings file put into the root. -/
def besideKeySet : FileTree :=
  (besideKey (.file (utf8 "shown"))).put ([utf8 "www"] ++ [utf8 "fileserver.toml"])
    (.file (utf8 quietText))

/-- The only link leads to the key beside the root. -/
theorem noLinkTo_besideKeySet :
    besideKeySet.NoLinkTo ([utf8 "www"] ++ [utf8 "fileserver.toml"]) := by
  intro dir name target hat seen hl
  have hmem := mem_nodes_of_at? (by simp) hat
  have hlink : dir ++ [name] = [utf8 "www"] ++ [utf8 "out"] ∧ target = utf8 "../key" := by
    rw [besideKeySet, FileTree.put, assign_eq_append rfl] at hmem
    simpa [besideKey] using hmem
  obtain ⟨hplace, rfl⟩ := hlink
  obtain ⟨rfl, _⟩ := List.append_inj' hplace rfl
  have hkey : Plain (utf8 "key") := ⟨by decide, by decide, by decide⟩
  have hway : besideKeySet.Leads maxLinks [utf8 "www"] (Path.steps (utf8 "../key")) [[utf8 "key"]]
      [utf8 "key"] := .dotdot (.leaf hkey rfl rfl rfl)
  cases (hl.unique hway).2

theorem settings_file_is_unobservable_besideKey :
    Site.make (besideKey (.file (utf8 "shown"))) .defaults [utf8 "www"] = .ok .www ∧
      (besideKey (.file (utf8 "shown"))).Adds besideKeySet
        (Site.www.root ++ [utf8 "fileserver.toml"]) (utf8 quietText) ∧
      besideKeySet.NoLinkTo (Site.www.root ++ [utf8 "fileserver.toml"]) ∧
      ∃ after, Site.make besideKeySet .defaults [utf8 "www"] = .ok after ∧ ∀ r peer timing,
        (Exchange.handle besideKeySet after r peer timing).response =
            (Exchange.handle (besideKey (.file (utf8 "shown"))) .www r peer timing).response ∧
          (Exchange.handle besideKeySet after r peer timing).notices =
            (Exchange.handle (besideKey (.file (utf8 "shown"))) .www r peer timing).notices := by
  have made : Site.make (besideKey (.file (utf8 "shown"))) .defaults [utf8 "www"] = .ok .www := rfl
  have adds : (besideKey (.file (utf8 "shown"))).Adds besideKeySet
      (Site.www.root ++ [utf8 "fileserver.toml"]) (utf8 quietText) := adds_put (by simp) rfl _
  have short : ¬maxPathLength < Path.textLength (Site.www.root ++ [utf8 "fileserver.toml"]) := by
    decide
  obtain ⟨after, made', same⟩ := settings_file_is_unobservable made (by decide) adds
    noLinkTo_besideKeySet (unindexed_of_defaults adds noLinkTo_besideKeySet)
  refine ⟨made, adds, noLinkTo_besideKeySet, after, made', ?_⟩
  intro r peer timing
  obtain ⟨hnotices, hresponse⟩ := same r peer timing
  exact ⟨hresponse.mpr fun hlong => short hlong.1, hnotices⟩

/-- A root whose own path just fits, but not with the name of a settings file below it. -/
def deepRoot : Location := List.replicate 15 longName ++ [List.replicate 240 0x78]

def deepSite : Site := ⟨.defaults, deepRoot, .standard, []⟩

def deepSettings : FileTree :=
  (shaft deepRoot).put (deepRoot ++ [utf8 "fileserver.toml"]) (.file (utf8 quietText))

theorem textLength_deepRoot : Path.textLength deepRoot = 4081 := by
  have hlast : Path.textLength [List.replicate 240 0x78] = 241 := by
    rw [Path.textLength, Path.textLength, List.length_replicate]
  rw [deepRoot, Path.textLength_append, Path.textLength_replicate, longName, List.length_replicate,
    hlast]
  rfl

theorem plain_deepRoot : ∀ s ∈ deepRoot, Plain s ∧ 0 ∉ s := by
  have hlast : Plain (List.replicate 240 0x78) :=
    ⟨by decide, by decide, by rw [List.length_replicate]; decide⟩
  intro s hs
  rcases List.mem_append.mp hs with hs | hs
  · obtain rfl := List.eq_of_mem_replicate hs
    exact ⟨plain_longName, fun h => absurd (List.eq_of_mem_replicate h) (by decide)⟩
  · obtain rfl := List.mem_singleton.mp hs
    exact ⟨hlast, fun h => absurd (List.eq_of_mem_replicate h) (by decide)⟩

theorem canonicalize_deepRoot : (shaft deepRoot).canonicalize deepRoot = .ok deepRoot := by
  have hfits : Path.textLength deepRoot ≤ maxPathLength := by
    rw [textLength_deepRoot]
    decide
  exact (holds_shaft fun s hs => (plain_deepRoot s hs).1).canonicalize_self rfl
    (fun s hs => (plain_deepRoot s hs).2) hfits

theorem settingsPlaces_deepRoot : Site.settingsPlaces (shaft deepRoot) deepRoot = [] := by
  apply List.eq_nil_iff_forall_not_mem.mpr
  intro place hplace
  obtain ⟨name, named, hc⟩ := Site.mem_settingsPlaces_iff.mp hplace
  obtain ⟨_, _, hway, _⟩ := FileTree.canonicalize_eq_ok_iff.mp hc
  obtain ⟨_, _, hroot, _⟩ := FileTree.canonicalize_eq_ok_iff.mp canonicalize_deepRoot
  obtain ⟨n, hn⟩ := hway.exists_child hroot (plain_of_fileName named)
  rw [at?_shaft_below] at hn
  cases hn

theorem make_deepSite : Site.make (shaft deepRoot) .defaults deepRoot = .ok deepSite := by
  refine Site.make_eq_ok_iff.mpr ⟨deepRoot, canonicalize_deepRoot, ?_⟩
  rw [settingsPlaces_deepRoot]
  rfl

theorem denotes_deepSite : Denotes (shaft deepRoot) deepSite "/" (.listing deepRoot deepRoot) := by
  have hfits : Path.textLength (deepRoot ++ [[]]) ≤ maxPathLength := by
    rw [Path.textLength_append, textLength_deepRoot]
    decide
  have held : (shaft deepRoot).Holds deepRoot .directory :=
    holds_shaft fun s hs => (plain_deepRoot s hs).1
  have top : deepSite.Admits (shaft deepRoot) (deepSite.root ++ RequestPath.steps []) deepRoot :=
    Site.admits_slash held (fun s hs => (plain_deepRoot s hs).2) hfits List.prefix_rfl
      List.not_mem_nil
  have noIndex : NoIndex (shaft deepRoot) deepRoot deepSite.settings.serve.indexFiles := by
    rintro index _ ⟨place, content, _, held⟩
    cases (eq_directory_of_at?_shaft held.node).2
  have names : RequestPath.translate? "/" = some [] := rfl
  have asks := Asks.of_names names top held.node
  rw [RequestPath.location, List.map_nil, List.append_nil] at asks
  exact .listing asks rfl noIndex rfl

/-- Where the root is deep enough, the listing shows the settings that are in it. -/
theorem settings_in_a_deep_root_are_listed :
    Site.make (shaft deepRoot) .defaults deepRoot = .ok deepSite ∧
      (shaft deepRoot).Adds deepSettings (deepSite.root ++ [utf8 "fileserver.toml"])
        (utf8 quietText) ∧
      deepSettings.NoLinkTo (deepSite.root ++ [utf8 "fileserver.toml"]) ∧
      (∀ dir, (shaft deepRoot).isDirectory dir = true →
        ∀ index ∈ Settings.defaults.serve.indexFiles,
          deepSettings.resolve (Path.join dir (utf8 index)) ≠
            .ok (deepSite.root ++ [utf8 "fileserver.toml"])) ∧
      ∃ after, Site.make deepSettings .defaults deepRoot = .ok after ∧
        (Exchange.handle deepSettings after (Request.get "/") .neighbour ⟨⟨0, 0, 0⟩, 0⟩).response ≠
          (Exchange.handle (shaft deepRoot) deepSite (Request.get "/") .neighbour
            ⟨⟨0, 0, 0⟩, 0⟩).response := by
  have adds : (shaft deepRoot).Adds deepSettings (deepSite.root ++ [utf8 "fileserver.toml"])
      (utf8 quietText) := adds_put (by simp) (at?_shaft_below _) _
  have unlinked : deepSettings.NoLinkTo (deepSite.root ++ [utf8 "fileserver.toml"]) := by
    intro dir name target hlink
    have hne : dir ++ [name] ≠ deepSite.root ++ [utf8 "fileserver.toml"] := by
      intro heq
      rw [heq, adds.added] at hlink
      cases hlink
    rw [adds.others _ hne] at hlink
    cases (eq_directory_of_at?_shaft hlink).2
  have unindexed := unindexed_of_defaults adds unlinked
  have gains :
      Site.Gains deepSite (shaft deepRoot) deepSettings "fileserver.toml" (utf8 quietText) :=
    ⟨adds, by decide, settingsPlaces_deepRoot.symm, unlinked, unindexed⟩
  have made : Site.make deepSettings .defaults deepRoot = .ok (deepSite.remade deepSettings) :=
    Site.make_eq_ok_iff.mpr
      ⟨deepRoot, (adds.canonicalize_eq_ok_iff.mp canonicalize_deepRoot).1, rfl⟩
  have hlong : maxPathLength < Path.textLength (deepSite.root ++ [utf8 "fileserver.toml"]) := by
    rw [Path.textLength_append, deepSite, textLength_deepRoot]
    decide
  refine ⟨make_deepSite, adds, unlinked, unindexed, _, made, ?_⟩
  intro heq
  exact (gains.handle_eq_iff _ _ _).2.mp heq ⟨hlong, Or.inl rfl, _, denotes_deepSite⟩

end Instances

end DocRoot
