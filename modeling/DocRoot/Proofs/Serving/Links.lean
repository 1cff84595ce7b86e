import DocRoot.Proofs.Http.Target
import DocRoot.Proofs.RequestPath
import DocRoot.Proofs.Serving.Concealment
import DocRoot.Proofs.Serving.Convergence

/-!
# Where the links of a listing lead

A listing is sent for a path that ends in a slash, so a client puts a link right behind the
path. What it gets is a target whose names are those of the path and the name of the entry.
It leads to the entry, unless a path looked up on the way to the entry is too long, and it is
never redirected: a link has a slash at its end if its entry leads to a directory.
-/

set_option autoImplicit false

namespace DocRoot

open Http FileTree Serving

namespace Listing

variable {items : List Item} {i : Item}

theorem mem_sort : i ∈ sort items ↔ i ∈ items := by simp [sort]

theorem page_eq_append (display : String) (h : i ∈ items) :
    ∃ before after, page display items = before ++ i.html ++ after := by
  have frame : ∃ top bottom, ∀ items,
      page display items = top ++ String.join (items.map Item.html) ++ bottom :=
    ⟨_, _, fun _ => rfl⟩
  obtain ⟨top, bottom, hpage⟩ := frame
  obtain ⟨l, r, rfl⟩ := List.append_of_mem h
  refine ⟨top ++ String.join (l.map Item.html), String.join (r.map Item.html) ++ bottom, ?_⟩
  rw [hpage, List.map_append, List.map_cons, String.join_append, String.join_cons]
  simp only [String.append_assoc]

end Listing

namespace Http.Target

theorem isPathByte_of_isLinkSafe {b : UInt8} (h : Percent.isLinkSafe b = true) :
    isPathByte b = true := by
  simp only [Percent.isLinkSafe, isPathByte, Bool.or_eq_true, Bool.and_eq_true,
    decide_eq_true_eq, beq_iff_eq, UInt8.le_iff_toNat_le, ← UInt8.toNat_inj] at *
  simp at *
  omega

theorem all_isPathByte_text (s : String) : (utf8 (Percent.text s)).all isPathByte = true := by
  rw [Percent.utf8_text]
  apply List.all_eq_true.mpr
  intro b hb
  rcases Percent.mem_encode hb with hsafe | rfl
  · exact isPathByte_of_isLinkSafe hsafe
  · decide

theorem parse_append_text {path : String} (legal : (utf8 path).all isPathByte = true)
    (slash : path.toList.head? = some '/') (link : String)
    (fits : (utf8 (path ++ Percent.text link)).length ≤ maxLength) :
    parse (utf8 (path ++ Percent.text link)) = .ok ⟨path ++ Percent.text link, none⟩ := by
  have hpath : (utf8 (path ++ Percent.text link)).all isPathByte = true := by
    rw [utf8_append, List.all_append, legal, all_isPathByte_text]
    rfl
  have hslash : (path ++ Percent.text link).toList.head? = some '/' := by
    rw [String.toList_append, List.head?_append, slash]
    rfl
  have hlegal : Legal ⟨path ++ Percent.text link, none⟩ := ⟨hpath, by simp⟩
  have hparse := parse_text hlegal hslash fits
  exact hparse

end Http.Target

/-- Every `GET` for the path is answered so. -/
def Site.Answers (site : Site) (t : FileTree) (path : String) (P : Response → Prop) : Prop :=
  ∀ (r : Request) (peer : SocketAddr) (timing : Timing), r.method = .get →
    r.target = ⟨path, none⟩ → P (Exchange.handle t site r peer timing).response

/-- What the link to an entry of a directory leads to, seen from the path of the directory. -/
structure Site.LinksTo (site : Site) (t : FileTree) (path : String) (dir : List Name)
    (name href : String) : Prop where
  /-- If the path has been read off a target, it is read with the link behind it, too. -/
  parsed : ∀ raw query, Target.parse raw = .ok ⟨path, query⟩ →
    (utf8 (path ++ href)).length ≤ Target.maxLength →
    Target.parse (utf8 (path ++ href)) = .ok ⟨path ++ href, none⟩
  names : RequestPath.translate? (path ++ href) =
    (RequestPath.translate? path).map (· ++ [name])
  answered : site.Answers t (path ++ href) fun r => r.status ≠ 400 ∧ r.status ≠ 301
  /-- A file is sent, unless a path looked up on the way to it is too long. -/
  file : ∀ place content, t.resolve (dir ++ [utf8 name]) = .ok place → site.root <+: place →
    t.at? place = some (.file content) →
    site.Answers t (path ++ href)
        (· = .carrying (ContentType.Table.standard.ofSteps (dir ++ [utf8 name])) content false) ∨
      t.LeadsUnspelled (dir ++ [utf8 name]) place ∧
        site.Answers t (path ++ href) (·.status = 404)
  /-- A directory is sent as its first index, or as a listing if it has none. -/
  directory : ∀ place, t.resolve (dir ++ [utf8 name]) = .ok place → site.root <+: place →
    t.at? place = some .directory →
    (∃ index indexPlace content,
      FirstIndex t (dir ++ [utf8 name]) site.settings.serve.indexFiles index ∧
      t.resolve index = .ok indexPlace ∧ t.at? indexPlace = some (.file content) ∧
      site.Answers t (path ++ href)
        (· = .carrying (ContentType.Table.standard.ofSteps index) content false)) ∨
    (NoIndex t (dir ++ [utf8 name]) site.settings.serve.indexFiles ∧
      site.Answers t (path ++ href) (· = .carrying Response.htmlType
        (utf8 (Verdict.page t site (path ++ href) (dir ++ [utf8 name]) place)) false)) ∨
    (∃ index indexPlace,
      FirstIndex t (dir ++ [utf8 name]) site.settings.serve.indexFiles index ∧
      t.resolve index = .ok indexPlace ∧
      (¬site.root <+: indexPlace ∨ indexPlace ∈ site.hidden ∨
        t.LeadsUnspelled index indexPlace) ∧
      site.Answers t (path ++ href) (·.status = 404)) ∨
    t.LeadsUnspelled (dir ++ [utf8 name]) place ∧ site.Answers t (path ++ href) (·.status = 404)

section Verdicts
variable {t : FileTree} {site : Site} {path href name : String} {target : Target}
  {steps dir : List Name} {place : Location} {v : Verdict} {P : Response → Prop} {n : Node}

theorem Site.answers_of_denotes (h : Denotes t site path v)
    (hP : P (v.response t site ⟨path, none⟩ false)) : site.Answers t path P := by
  intro r peer timing hm ht
  have hr : Denotes t site r.target.path v := by
    rw [ht]
    exact h
  rw [handle_response hm hr, ht]
  exact hP

theorem Site.answers_missing (h : Denotes t site path .missing) :
    site.Answers t path (·.status = 404) :=
  Site.answers_of_denotes h status_of_missing

namespace Serving

theorem exists_eq_listing (types : site.types = .standard)
    (h : (v.response t site target false).IsListing) : ∃ steps place, v = .listing steps place := by
  have refused : ∀ {refusal : Refusal}, v.result t site target false = .error refusal →
      ∃ steps place, v = .listing steps place := by
    intro refusal hr
    have hs := h.1
    rw [response_status hr] at hs
    cases refusal <;> cases hs
  cases v with
  | malformed => exact refused rfl
  | missing => exact refused rfl
  | unreadable => exact refused rfl
  | moved =>
    -- a location that no header takes is answered with 200, but without a type
    obtain ⟨hs, htype⟩ := h
    rcases redirect_cases (RequestPath.directoryForm target.path target.query) with hm | hb
    · simp [Verdict.response, Verdict.result, hm] at hs
    · simp [Verdict.response, Verdict.result, hb, Response.header?] at htype
  | file steps place content =>
    obtain ⟨_, htype⟩ := h
    rw [response_file types, Response.carrying_type] at htype
    exact absurd (Option.some.inj htype) (standard_ofSteps_ne steps)
  | listing steps place => exact ⟨steps, place, rfl⟩

theorem status_ne (hmalformed : v ≠ .malformed) (hmoved : v ≠ .moved) :
    (v.response t site target false).status ≠ 400 ∧
      (v.response t site target false).status ≠ 301 := by
  cases v with
  | malformed => exact absurd rfl hmalformed
  | moved => exact absurd rfl hmoved
  | missing => simp [status_of_missing]
  | unreadable cause =>
    have hr : (Verdict.unreadable cause).result t site target false =
        .error (.ofFault target.path cause) := rfl
    rw [response_status hr]
    rcases Refusal.ofFault_cases target.path cause with h | h
    · simp [h, Refusal.status]
    · simp [h, Refusal.status]
  | file steps place content => simp [status_file]
  | listing steps place => simp [status_listing]

/-- Of an index that is there and not sent one of three things is the case. -/
theorem exists_reason (h : LeadsToFile t steps) (hnot : ∀ place, ¬site.Admits t steps place) :
    ∃ place, t.resolve steps = .ok place ∧
      (¬site.root <+: place ∨ place ∈ site.hidden ∨ t.LeadsUnspelled steps place) := by
  obtain ⟨place, _, hfound, _⟩ := h
  refine ⟨place, hfound, ?_⟩
  rcases canonicalize_of_resolve hfound with hc | hlong
  · by_cases hw : site.root <+: place
    · refine Or.inr (Or.inl (Classical.byContradiction fun hs => ?_))
      exact hnot place (Site.admits_iff.mpr ⟨hfound, hc, hw, hs⟩)
    · exact Or.inl hw
  · exact Or.inr (Or.inr hlong)

end Serving

end Verdicts

def Listing.linkOf (t : FileTree) (dir : List Name) (name : String) : String :=
  if t.isDirectory (dir ++ [utf8 name]) then name ++ "/" else name

section Entry
variable {t : FileTree} {site : Site} {path next name : String} {dir : List Name}
  {place l : Location} {n : Node} {target : Target}

open RequestPath

theorem translate?_link (ha : Asks t site path dir place .directory)
    (hs : endsInSlash path = true) (hn : IsName name) :
    translate? (path ++ Percent.text (Listing.linkOf t dir name)) =
      (translate? path).map (· ++ [name]) := by
  obtain ⟨names, hnames, _⟩ := ha.translated
  have hchild := translate?_append_text hs hnames hn
  rw [hnames, Option.map_some, Listing.linkOf]
  split
  · rw [Percent.text_append_slash, ← String.append_assoc, translate?_append_slash_end, hchild]
  · exact hchild

theorem endsInSlash_link (hn : IsName name) :
    endsInSlash (path ++ Percent.text (Listing.linkOf t dir name)) =
      t.isDirectory (dir ++ [utf8 name]) := by
  unfold Listing.linkOf
  split
  · rename_i hd
    rw [Percent.text_append_slash, ← String.append_assoc, endsInSlash_append_slash, hd]
  · rename_i hd
    rw [endsInSlash_append_text hn, Bool.eq_false_iff.mpr hd]

theorem Serving.Asks.child (ha : Asks t site path dir place .directory)
    (hnext : translate? next = (translate? path).map (· ++ [name]))
    (hadm : site.Admits t (dir ++ [utf8 name]) l) (hl : t.at? l = some n) :
    Asks t site next (dir ++ [utf8 name]) l n := by
  obtain ⟨names, hnames, rfl, _⟩ := ha.translated
  rw [hnames] at hnext
  have hchild := Asks.of_names hnext (by simpa using hadm) hl
  simpa [location] using hchild

theorem Serving.Asks.child_missing (ha : Asks t site path dir place .directory)
    (hnext : translate? next = (translate? path).map (· ++ [name]))
    (hnot : ∀ l, ¬site.Admits t (dir ++ [utf8 name]) l) : Denotes t site next .missing := by
  obtain ⟨names, hnames, rfl, _⟩ := ha.translated
  rw [hnames] at hnext
  exact .missing hnext (by simpa using hnot)

theorem Serving.Asks.steps_child {steps : List Name} (ha : Asks t site path dir place .directory)
    (hnext : translate? next = (translate? path).map (· ++ [name]))
    (h : Asks t site next steps l n) : steps = dir ++ [utf8 name] := by
  obtain ⟨names, hnames, rfl, _⟩ := ha.translated
  obtain ⟨names', hnames', rfl, _⟩ := h.translated
  rw [hnames, hnames'] at hnext
  obtain rfl := Option.some.inj hnext
  simp [location]

theorem isDirectory_of_asks {steps : List Name} (h : Asks t site next steps l .directory) :
    t.isDirectory steps = true := by
  simp only [FileTree.isDirectory, node_of_resolve h.admitted.found h.held]
  rfl

theorem isDirectory_of_resolve {steps : List Name} (hr : t.resolve steps = .ok l)
    (hl : t.at? l = some n) : t.isDirectory steps = n.isDirectory := by
  obtain ⟨m, hm, _⟩ := holds_of_resolve hr
  obtain rfl := Option.some.inj (hm.node.symm.trans hl)
  simp only [FileTree.isDirectory, node_of_resolve hr hm]

section Link
variable (ha : Asks t site path dir place .directory)
  (hnext : translate? next = (translate? path).map (· ++ [name]))
include ha hnext

/-- A path that has a slash at its end just where its entry leads to a directory is not
redirected. -/
theorem answers_link (hends : endsInSlash next = t.isDirectory (dir ++ [utf8 name])) :
    site.Answers t next fun r => r.status ≠ 400 ∧ r.status ≠ 301 := by
  obtain ⟨v, hv⟩ := exists_denotes t site next
  refine Site.answers_of_denotes hv (status_ne ?_ ?_)
  · rintro rfl
    obtain ⟨names, hnames, _⟩ := ha.translated
    cases hv with
    | malformed hnone =>
      rw [hnone, hnames] at hnext
      cases hnext
  · rintro rfl
    cases hv with
    | moved hasks hslash =>
      obtain rfl := ha.steps_child hnext hasks
      rw [hends, isDirectory_of_asks hasks] at hslash
      cases hslash

/-- What an entry that is not hidden leads to under the root is let through, or a path looked
up on the way to it is too long. -/
theorem admits_link
    (shown : ∀ l ∈ site.hidden, t.canonicalize (dir ++ [utf8 name]) ≠ .ok l)
    (hr : t.resolve (dir ++ [utf8 name]) = .ok l) (hw : site.root <+: l) :
    site.Admits t (dir ++ [utf8 name]) l ∨
      t.LeadsUnspelled (dir ++ [utf8 name]) l ∧ site.Answers t next (·.status = 404) := by
  rcases canonicalize_of_resolve hr with hc | hlong
  · exact Or.inl (Site.admits_iff.mpr ⟨hr, hc, hw, fun hm => shown l hm hc⟩)
  · refine Or.inr ⟨hlong, Site.answers_missing (ha.child_missing hnext ?_)⟩
    intro l' hadm
    exact LeadsUnspelled.canonicalize_ne hlong hadm.canonical

theorem answers_file (types : site.types = .standard) {content : Bytes}
    (hends : endsInSlash next = false) (hadm : site.Admits t (dir ++ [utf8 name]) l)
    (hl : t.at? l = some (.file content)) :
    site.Answers t next
      (· = .carrying (ContentType.Table.standard.ofSteps (dir ++ [utf8 name])) content false) :=
  Site.answers_of_denotes (.file (ha.child hnext hadm hl) hends)
    (response_file types (dir ++ [utf8 name]) l content)

theorem answers_directory (types : site.types = .standard)
    (listed : site.settings.serve.directoryListing = true)
    (hends : endsInSlash next = true) (hadm : site.Admits t (dir ++ [utf8 name]) l)
    (hl : t.at? l = some .directory) :
    (∃ index indexPlace content,
      FirstIndex t (dir ++ [utf8 name]) site.settings.serve.indexFiles index ∧
      t.resolve index = .ok indexPlace ∧ t.at? indexPlace = some (.file content) ∧
      site.Answers t next
        (· = .carrying (ContentType.Table.standard.ofSteps index) content false)) ∨
    (NoIndex t (dir ++ [utf8 name]) site.settings.serve.indexFiles ∧
      site.Answers t next (· = .carrying Response.htmlType
        (utf8 (Verdict.page t site next (dir ++ [utf8 name]) l)) false)) ∨
    ∃ index indexPlace,
      FirstIndex t (dir ++ [utf8 name]) site.settings.serve.indexFiles index ∧
      t.resolve index = .ok indexPlace ∧
      (¬site.root <+: indexPlace ∨ indexPlace ∈ site.hidden ∨
        t.LeadsUnspelled index indexPlace) ∧
      site.Answers t next (·.status = 404) := by
  obtain ⟨v, hv⟩ := exists_denotes t site next
  rcases hv.of_slashed_directory (ha.child hnext hadm hl) hends with
    ⟨index, hfirst, hindex⟩ | ⟨hno, rfl⟩
  · rcases hindex with ⟨indexPlace, content, hindexed, hfile, rfl⟩ | ⟨hnot, rfl⟩
    · refine Or.inl ⟨index, indexPlace, content, hfirst, hindexed.found, hfile.node, ?_⟩
      exact Site.answers_of_denotes hv (response_file types index indexPlace content)
    · have hleads : LeadsToFile t index := by
        obtain ⟨_, _, _, _, _, hleads, _⟩ := hfirst
        exact hleads
      obtain ⟨indexPlace, hfound, hreason⟩ := exists_reason hleads hnot
      exact Or.inr (Or.inr
        ⟨index, indexPlace, hfirst, hfound, hreason, Site.answers_missing hv⟩)
  · rw [if_pos listed] at hv
    exact Or.inr (Or.inl ⟨hno, Site.answers_of_denotes hv (response_listing _ l)⟩)

end Link

theorem linksTo_of_shown (types : site.types = .standard)
    (slash : path.toList.head? = some '/') (ha : Asks t site path dir place .directory)
    (hs : endsInSlash path = true)
    (listed : site.settings.serve.directoryListing = true) (hn : IsName name)
    (shown : ∀ l ∈ site.hidden, t.canonicalize (dir ++ [utf8 name]) ≠ .ok l) :
    site.LinksTo t path dir name (Percent.text (Listing.linkOf t dir name)) := by
  have hnext := translate?_link ha hs hn
  have hends : endsInSlash (path ++ Percent.text (Listing.linkOf t dir name)) =
      t.isDirectory (dir ++ [utf8 name]) := endsInSlash_link hn
  refine ⟨?_, hnext, answers_link ha hnext hends, ?_, ?_⟩
  · intro raw query parsed
    exact Target.parse_append_text (Target.legal_of_parse parsed).path slash _
  · -- what the entry leads to decides on the slash at the end of its link
    intro l content hr hw hl
    refine (admits_link ha hnext shown hr hw).imp_left fun hadm => ?_
    rw [isDirectory_of_resolve hr hl] at hends
    exact answers_file ha hnext types hends hadm hl
  · intro l hr hw hl
    rw [isDirectory_of_resolve hr hl] at hends
    rcases admits_link ha hnext shown hr hw with hadm | hlong
    · rcases answers_directory ha hnext types listed hends hadm hl with hi | hno | hrefused
      · exact Or.inl hi
      · exact Or.inr (Or.inl hno)
      · exact Or.inr (Or.inr (Or.inl hrefused))
    · exact Or.inr (Or.inr (Or.inr hlong))

theorem Listing.href_itemOf (e : Name × Node) (hname : e.1 = utf8 name) :
    (Listing.itemOf t dir e).href = Percent.text (Listing.linkOf t dir name) := by
  obtain ⟨_, node⟩ := e
  subst hname
  simp only [Listing.itemOf, Listing.Item.ofEntry, lossy_utf8]
  rfl

theorem Listing.exists_hidden {hidden : List Location} {entries : List (Name × Node)}
    {e : Name × Node} (he : e ∈ entries) (hnot : e ∉ Listing.shown t dir hidden entries) :
    ∃ l ∈ hidden, t.canonicalize (dir ++ [e.1]) = .ok l := by
  have hidden : Listing.isHidden t hidden (dir ++ [e.1]) = true := by
    simpa [Listing.shown, he] using hnot
  unfold Listing.isHidden at hidden
  split at hidden
  · rename_i l hl
    exact ⟨l, List.contains_iff_mem.mp hidden, hl⟩
  · cases hidden

theorem missing_of_hidden (ha : Asks t site path dir place .directory)
    (hs : endsInSlash path = true) (hn : IsName name) {hidden : Location}
    (hm : hidden ∈ site.hidden) (hc : t.canonicalize (dir ++ [utf8 name]) = .ok hidden) :
    site.Answers t (path ++ Percent.text name) (·.status = 404) := by
  obtain ⟨names, hnames, _⟩ := ha.translated
  have hnext : translate? (path ++ Percent.text name) =
      (translate? path).map (· ++ [name]) := by
    rw [hnames, translate?_append_text hs hnames hn]
    rfl
  refine Site.answers_missing (ha.child_missing hnext ?_)
  intro l hadm
  obtain ⟨_, hl, _, hshown⟩ := Site.admits_iff.mp hadm
  obtain rfl : hidden = l := Except.ok.inj (hc.symm.trans hl)
  exact hshown hm

theorem isListing_of_denotes {r : Request} {peer : SocketAddr} {timing : Timing}
    (hm : r.method = .get) (h : Denotes t site r.target.path (.listing dir place)) :
    (Exchange.handle t site r peer timing).response.IsListing := by
  rw [handle_response hm h, response_listing]
  exact ⟨rfl, Response.carrying_type _ _ _⟩

end Entry

/-- A listing links to each of its entries, and an entry that it leaves out is missing. What
the link of a file or a directory under the root leads to is sent, unless a path looked up on
the way to it, or to the index of the directory, is too long. -/
theorem listing_links_lead_to_entries {t₀ t : FileTree} {settings : Settings}
    {steps : List Name} {site : Site} (made : Site.make t₀ settings steps = .ok site)
    (r : Request) (peer : SocketAddr) (timing : Timing) (get : r.method = .get)
    (slash : r.target.path.toList.head? = some '/')
    (listed : (Exchange.handle t site r peer timing).response.IsListing) :
    ∃ names dir place,
      RequestPath.translate? r.target.path = some names ∧
      dir = site.root ++ RequestPath.location names ∧ t.canonicalize dir = .ok place ∧
      (Exchange.handle t site r peer timing).response = .carrying Response.htmlType
        (utf8 (Verdict.page t site r.target.path dir place)) false ∧
      ∀ e ∈ t.entries place, ∀ name, e.1 = utf8 name → RequestPath.IsName name →
        (e ∈ Listing.shown t dir site.hidden (t.entries place) →
          (∃ before after, Verdict.page t site r.target.path dir place =
            before ++ (Listing.itemOf t dir e).html ++ after) ∧
          site.LinksTo t r.target.path dir name (Listing.itemOf t dir e).href) ∧
        (e ∉ Listing.shown t dir site.hidden (t.entries place) →
          site.Answers t (r.target.path ++ Percent.text name) (·.status = 404)) := by
  have types := Site.types_of_make made
  obtain ⟨v, hv⟩ := exists_denotes t site r.target.path
  rw [handle_response get hv] at listed ⊢
  obtain ⟨dir, place, rfl⟩ := exists_eq_listing types listed
  cases hv with
  | listing ha hs _ hlisting =>
    obtain ⟨names, hnames, hdir, _⟩ := ha.translated
    have hcanonical := ha.admitted.canonical
    refine ⟨names, dir, place, hnames, hdir, hcanonical, response_listing dir place, ?_⟩
    intro e he name hname hn
    constructor
    · intro hshown
      constructor
      · refine Listing.page_eq_append _ (Listing.mem_sort.mpr ?_)
        rw [Listing.items_eq_map_shown]
        exact List.mem_map_of_mem hshown
      · rw [Listing.href_itemOf e hname]
        refine linksTo_of_shown types slash ha hs hlisting hn ?_
        intro l hl
        rw [← hname]
        exact Listing.canonicalize_ne_of_mem_shown hshown hl
    · intro hnot
      obtain ⟨l, hl, hc⟩ := Listing.exists_hidden he hnot
      rw [hname] at hc
      exact missing_of_hidden ha hs hn hl hc

section Root

/-- A root with a file, a directory and a link to it, beside a file that is hidden. -/
def linkedRoot : FileTree :=
  ⟨[([utf8 "www"], .directory), ([utf8 "www", utf8 "50% #?.css"], .file (utf8 "kept")),
    ([utf8 "www", utf8 "docs"], .directory), ([utf8 "www", utf8 "way"], .link (utf8 "docs")),
    ([utf8 "www", utf8 "fileserver.ini"], .file [])]⟩

def linkedRootSite : Site :=
  ⟨.defaults, [utf8 "www"], .standard, [[utf8 "www", utf8 "fileserver.ini"]]⟩

theorem denotes_root {t : FileTree} {site : Site} {path : String} (hroot : site.root = [utf8 "www"])
    (names : RequestPath.translate? path = some []) (slashed : RequestPath.endsInSlash path = true)
    (top : site.Admits t (site.root ++ RequestPath.steps []) site.root)
    (dir : t.at? [utf8 "www"] = some .directory)
    (noIndex : findIndex t site.root site.settings.serve.indexFiles = none)
    (listed : site.settings.serve.directoryListing = true) :
    Denotes t site path (.listing site.root site.root) := by
  have asks := Asks.of_names names top (hroot ▸ dir)
  rw [RequestPath.location, List.map_nil, List.append_nil] at asks
  exact .listing asks slashed (findIndex_eq_none_iff.mp noIndex) listed

theorem denotes_linkedRoot :
    Denotes linkedRoot linkedRootSite "//way/%2e%2E/"
      (.listing linkedRootSite.root linkedRootSite.root) := by
  have top : linkedRootSite.Admits linkedRoot (linkedRootSite.root ++ RequestPath.steps [])
      linkedRootSite.root :=
    Site.admits_iff.mpr ⟨rfl, rfl, List.prefix_rfl, by decide⟩
  exact denotes_root rfl rfl rfl top rfl rfl rfl

theorem listing_links_lead_to_entries_linkedRoot :
    Site.make linkedRoot .defaults [utf8 "www"] = .ok linkedRootSite ∧
      Target.parse (utf8 "//way/%2e%2E/") = .ok (Request.get "//way/%2e%2E/").target ∧
      (Exchange.handle linkedRoot linkedRootSite (Request.get "//way/%2e%2E/") .neighbour
        ⟨⟨0, 0, 0⟩, 0⟩).response.IsListing ∧
      linkedRootSite.Answers linkedRoot ("//way/%2e%2E/" ++ "50%25%20%23%3F.css")
        (· = .carrying "text/css" (utf8 "kept") false) ∧
      linkedRootSite.Answers linkedRoot ("//way/%2e%2E/" ++ "way/")
        (fun r => r.status ≠ 400 ∧ r.status ≠ 301) ∧
      linkedRootSite.Answers linkedRoot ("//way/%2e%2E/" ++ "fileserver.ini")
        (·.status = 404) := by
  have made : Site.make linkedRoot .defaults [utf8 "www"] = .ok linkedRootSite := rfl
  have parsed : Target.parse (utf8 "//way/%2e%2E/") =
      .ok (Request.get "//way/%2e%2E/").target := rfl
  have listed : (Exchange.handle linkedRoot linkedRootSite (Request.get "//way/%2e%2E/") .neighbour
      ⟨⟨0, 0, 0⟩, 0⟩).response.IsListing := isListing_of_denotes rfl denotes_linkedRoot
  refine ⟨made, parsed, listed, ?_⟩
  obtain ⟨names, dir, place, hnames, rfl, hplace, _, entries⟩ :=
    listing_links_lead_to_entries made (Request.get "//way/%2e%2E/") .neighbour
      ⟨⟨0, 0, 0⟩, 0⟩ rfl rfl listed
  obtain rfl : [] = names := Option.some.inj hnames
  obtain rfl : [utf8 "www"] = place := Except.ok.inj hplace
  obtain ⟨hfile, _⟩ := entries (utf8 "50% #?.css", .file (utf8 "kept")) (by decide)
    "50% #?.css" rfl (by decide)
  obtain ⟨hway, _⟩ := entries (utf8 "way", .link (utf8 "docs")) (by decide) "way" rfl (by decide)
  obtain ⟨_, hhidden⟩ := entries (utf8 "fileserver.ini", .file []) (by decide)
    "fileserver.ini" rfl (by decide)
  refine ⟨?_, ?_, hhidden (by decide)⟩
  · have links := (hfile (by decide)).2.file [utf8 "www", utf8 "50% #?.css"] _ rfl
      (List.prefix_append _ _) rfl
    have found : linkedRoot.canonicalize [utf8 "www", utf8 "50% #?.css"] =
        .ok [utf8 "www", utf8 "50% #?.css"] := rfl
    exact links.resolve_right fun h => h.1.canonicalize_ne found
  · exact (hway (by decide)).2.answered

/-- A link that takes the detour to a page beside it. -/
def detourPage : FileTree :=
  ⟨([utf8 "www"], .directory) :: (deepFile [] 16 [utf8 "www"] ++
    [([utf8 "www", utf8 "show"], .link detour),
      ([utf8 "www", utf8 "page"], .file (utf8 "shown"))])⟩

theorem leads_detourPage :
    ∃ seen, detourPage.Leads maxLinks [] [utf8 "www", utf8 "show"] seen
        [utf8 "www", utf8 "page"] ∧
      [utf8 "www"] ++ List.replicate 16 longName ∈ seen := by
  have hname : Plain (utf8 "show") := ⟨by decide, by decide, by decide⟩
  have hbelow : ∀ e ∈ deepFile [] 16 [utf8 "www"], detourPage.at? e.1 = some e.2 :=
    at?_deepFile [] 16 [utf8 "www"] _
  exact leads_over_detour rfl hbelow hname rfl rfl rfl rfl

theorem resolve_detourPage :
    detourPage.resolve (Site.www.root ++ [utf8 "show"]) = .ok [utf8 "www", utf8 "page"] := by
  obtain ⟨seen, hl, _⟩ := leads_detourPage
  exact resolve_eq_ok_iff.mpr ⟨rfl, seen, hl⟩

theorem canonicalize_detourPage (place : Location) :
    detourPage.canonicalize (Site.www.root ++ [utf8 "show"]) ≠ .ok place := by
  obtain ⟨seen, hl, hmem⟩ := leads_detourPage
  exact canonicalize_ne_ok hl hmem textLength_longNames

theorem denotes_detourPage :
    Denotes detourPage Site.www "/" (.listing Site.www.root Site.www.root) ∧
      Denotes detourPage Site.www "/show" .missing := by
  have top : Site.www.Admits detourPage (Site.www.root ++ RequestPath.steps []) Site.www.root :=
    Site.admits_iff.mpr ⟨rfl, rfl, List.prefix_rfl, List.not_mem_nil⟩
  have names : RequestPath.translate? "/show" = some ["show"] := rfl
  refine ⟨denotes_root rfl rfl rfl top rfl rfl rfl, .missing names ?_⟩
  intro place hadm
  exact canonicalize_detourPage place hadm.canonical

/-- A link to a page under the root is listed, and its own link in the listing leads to
nothing, because the page is found past a place whose path is too long. -/
theorem listed_link_past_a_detour_is_missing :
    Site.make detourPage .defaults [utf8 "www"] = .ok .www ∧
      Target.parse (utf8 "/") = .ok (Request.get "/").target ∧
      (Exchange.handle detourPage Site.www (Request.get "/") .neighbour
        ⟨⟨0, 0, 0⟩, 0⟩).response.IsListing ∧
      (utf8 "show", .link detour) ∈ Listing.shown detourPage Site.www.root Site.www.hidden
        (detourPage.entries Site.www.root) ∧
      (Listing.itemOf detourPage Site.www.root (utf8 "show", .link detour)).href = "show" ∧
      detourPage.resolve (Site.www.root ++ [utf8 "show"]) = .ok [utf8 "www", utf8 "page"] ∧
      detourPage.at? [utf8 "www", utf8 "page"] = some (.file (utf8 "shown")) ∧
      Site.www.root <+: [utf8 "www", utf8 "page"] ∧
      (Exchange.handle detourPage Site.www (Request.get ("/" ++ "show")) .neighbour
        ⟨⟨0, 0, 0⟩, 0⟩).response.status = 404 := by
  obtain ⟨hlisting, hmissing⟩ := denotes_detourPage
  have hentry : (utf8 "show", .link detour) ∈ detourPage.entries Site.www.root :=
    mem_entries (List.mem_cons_of_mem _ (List.mem_append_right _ List.mem_cons_self))
  have hshown : (utf8 "show", .link detour) ∈ Listing.shown detourPage Site.www.root
      Site.www.hidden (detourPage.entries Site.www.root) := by
    apply Classical.byContradiction
    intro hnot
    obtain ⟨place, hm, _⟩ := Listing.exists_hidden hentry hnot
    exact absurd hm List.not_mem_nil
  have hlink : detourPage.isDirectory (Site.www.root ++ [utf8 "show"]) = false :=
    isDirectory_of_resolve resolve_detourPage rfl
  have href : (Listing.itemOf detourPage Site.www.root (utf8 "show", .link detour)).href =
      "show" := by
    rw [Listing.href_itemOf _ rfl, Listing.linkOf, if_neg (by simp [hlink])]
    decide
  exact ⟨rfl, rfl, isListing_of_denotes rfl hlisting, hshown, href, resolve_detourPage, rfl,
    List.prefix_append _ _, Site.answers_missing hmissing _ _ _ rfl rfl⟩

end Root

end DocRoot
