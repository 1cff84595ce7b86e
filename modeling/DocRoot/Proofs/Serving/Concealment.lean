import DocRoot.Proofs.FileTree.Depth
import DocRoot.Proofs.Serving.Containment
import DocRoot.Proofs.Serving.Secrecy
import DocRoot.Proofs.Settings.Lookup

/-!
# Settings that nobody may see

What is hidden is withheld from every client, whatever it is asked for by. A site hides
the places that its settings files lead to when it is made, and these only: not what a
settings file leads to later, and not what it leads to over a path too long to look up.
-/

set_option autoImplicit false

namespace DocRoot

open Http FileTree

namespace Listing

variable {t : FileTree} {dir : List Name} {hidden : List Location}
  {entries : List (Name × Node)} {e : Name × Node} {place : Location}

/-- The item of an entry. -/
def itemOf (t : FileTree) (dir : List Name) (e : Name × Node) : Item :=
  Item.ofEntry (Utf8.lossy e.1) e.2.isLink (t.isDirectory (dir ++ [e.1]))

/-- The entries that have an item. -/
def shown (t : FileTree) (dir : List Name) (hidden : List Location)
    (entries : List (Name × Node)) : List (Name × Node) :=
  entries.filter fun e => !isHidden t hidden (dir ++ [e.1])

theorem items_eq_map_shown :
    items t dir hidden entries = (shown t dir hidden entries).map (itemOf t dir) := rfl

theorem canonicalize_ne_of_mem_shown (he : e ∈ shown t dir hidden entries)
    (hp : place ∈ hidden) : t.canonicalize (dir ++ [e.1]) ≠ .ok place := by
  intro hc
  have hshown := (List.mem_filter.mp he).2
  simp [isHidden, hc, hp] at hshown

end Listing

/-- The steps lead to the place, but one of the paths looked up on the way is too long. -/
def FileTree.LeadsUnspelled (t : FileTree) (steps : List Name) (place : Location) : Prop :=
  ∃ seen, t.Leads maxLinks [] steps seen place ∧ ∃ p ∈ seen, maxPathLength < Path.textLength p

theorem FileTree.LeadsUnspelled.canonicalize_ne {t : FileTree} {steps : List Name}
    {l place : Location} (h : t.LeadsUnspelled steps l) : t.canonicalize steps ≠ .ok place := by
  obtain ⟨seen, hl, p, hp, hlong⟩ := h
  exact canonicalize_ne_ok hl hp hlong

/-- The response is another file or none, and it is the same whatever the place holds. -/
structure Site.Conceals (site : Site) (t : FileTree) (place : Location) (method : Method)
    (target : Target) (r : Response) : Prop where
  file : r.CarriesFile → ∃ other content, other ≠ place ∧
    site.Shares t other content ∧ r.Carries method content
  independent : ∀ u, t.AlikeBut (· = place) u → (Serving.answer u site method target).1 = r

/-- The response neither shows what the place holds nor lists an entry whose canonical path it
is. -/
structure Site.Withholds (site : Site) (t : FileTree) (place : Location) (method : Method)
    (target : Target) (r : Response) : Prop extends site.Conceals t place method target r where
  listing : r.IsListing → ∃ (dir : List Name) (listed : Location) (entries : List (Name × Node)),
    t.canonicalize dir = .ok listed ∧ entries.Sublist (t.entries listed) ∧
    r.Carries method (utf8 (Listing.page (RequestPath.display target.path)
      (Listing.sort (entries.map (Listing.itemOf t dir))))) ∧
    ∀ e ∈ entries, t.canonicalize (dir ++ [e.1]) ≠ .ok place

section Answers
variable {t : FileTree} {site : Site} {place : Location}

theorem Site.Offers.not_protects {n : Node} (h : site.Offers t place n) :
    ¬site.Protects place := by
  rintro (hw | hs)
  · exact hw h.within
  · exact h.shown hs

theorem Site.Shares.not_protects {content : Bytes} (h : site.Shares t place content) :
    ¬site.Protects place := by
  cases h with
  | file h => exact h.not_protects
  | special h _ => exact h.not_protects

namespace Serving

theorem conceals_answer (types : site.types = .standard) (h : site.Protects place)
    (method : Method) (target : Target) :
    site.Conceals t place method target (answer t site method target).1 where
  file := by
    intro hr
    obtain ⟨other, content, hshared, hcarries⟩ := (contains_answer types method target).file hr
    refine ⟨other, content, ?_, hshared, hcarries⟩
    rintro rfl
    exact hshared.not_protects h
  independent := by
    intro u alike
    have hprotected : t.AlikeBut site.Protects u := alike.mono fun l hl => hl ▸ h
    rw [answer_eq hprotected method target]

theorem withholds_answer (types : site.types = .standard) (h : place ∈ site.hidden)
    (method : Method) (target : Target) :
    site.Withholds t place method target (answer t site method target).1 where
  toConceals := conceals_answer types (Or.inr h) method target
  listing := by
    intro hr
    obtain ⟨dir, listed, hfound, _, hcarries⟩ := (contains_answer types method target).listing hr
    rw [Verdict.page, Listing.items_eq_map_shown] at hcarries
    exact ⟨dir, listed, Listing.shown t dir site.hidden (t.entries listed), hfound,
      List.filter_sublist, hcarries, fun e he => Listing.canonicalize_ne_of_mem_shown he h⟩

theorem handle_of_file {path : String} {steps : List Name} {content : Bytes}
    (types : site.types = .standard) (h : Denotes t site path (.file steps place content))
    (peer : SocketAddr) (timing : Timing) :
    (Exchange.handle t site (Request.get path) peer timing).response =
      Response.carrying (ContentType.Table.standard.ofSteps steps) content false := by
  have hget : (Exchange.handle t site (Request.get path) peer timing).response = _ :=
    handle_response rfl h
  rw [hget, response_file types]

end Serving

/-- The file that settings are found in is there, and it is hidden unless a path looked up on
the way to it is too long. -/
theorem Settings.Source.mem_hidden_of_find? {settings : Settings} {steps : List Name}
    {source : Settings.Source} (made : Site.make t settings steps = .ok site)
    (used : find? t site.root (utf8 fileStem) = some source) :
    ∃ place content, t.resolve (site.root ++ source.steps) = .ok place ∧
      t.Holds place (.file content) ∧
      (place ∈ site.hidden ∨ t.LeadsUnspelled (site.root ++ source.steps) place) := by
  obtain ⟨root, _, rfl⟩ := Site.make_eq_ok_iff.mp made
  obtain ⟨name, named, hsteps, hfile⟩ := exists_name_of_find? used
  obtain ⟨place, content, hplace, hheld⟩ := isFile_iff.mp hfile
  rw [hsteps]
  refine ⟨place, content, hplace, hheld, ?_⟩
  exact (canonicalize_of_resolve hplace).imp_left
    fun hc => Site.mem_settingsPlaces_iff.mpr ⟨name, named, hc⟩

end Answers

/-- Settings loaded from the root of a site come from a file that no request gets to see,
unless a path looked up on the way to the file is too long. -/
theorem loaded_settings_are_withheld {t : FileTree} {settings : Settings} {steps : List Name}
    {site : Site} {source : Settings.Source} (made : Site.make t settings steps = .ok site)
    (used : Settings.Source.find? t site.root (utf8 Settings.fileStem) = some source) :
    ∃ place content, t.resolve (site.root ++ source.steps) = .ok place ∧
      t.Holds place (.file content) ∧
      (place ∈ site.hidden ∧ (∀ (r : Request) (peer : SocketAddr) (timing : Timing),
          site.Withholds t place r.method r.target
            (Exchange.handle t site r peer timing).response) ∨
        t.LeadsUnspelled (site.root ++ source.steps) place) := by
  obtain ⟨place, content, hplace, hheld, hhidden⟩ := Settings.Source.mem_hidden_of_find? made used
  refine ⟨place, content, hplace, hheld, hhidden.imp_left fun hp => ⟨hp, ?_⟩⟩
  intro r peer timing
  exact Serving.withholds_answer (Site.types_of_make made) hp r.method r.target

section Loaded

/-- Settings that turn the access log off. -/
def quietText : String := "[logging]\naccess_log = false\n"

def quiet : Settings :=
  { Settings.defaults with logging := { Settings.defaults.logging with accessLog := false } }

theorem ofText_quietText : Settings.ofText .toml "fileserver.toml" quietText = .ok quiet :=
  Settings.ofText_eq_ok (by decide +kernel)

theorem load_quietText {t : FileTree} {dir : List Name}
    (used : Settings.Source.find? t dir (utf8 Settings.fileStem) =
      some ⟨.toml, [utf8 "fileserver.toml"]⟩)
    (text : t.read (dir ++ [utf8 "fileserver.toml"]) = .ok (utf8 quietText)) :
    Settings.load t dir (utf8 Settings.fileStem) = .ok quiet :=
  Settings.load_toml used text ofText_quietText

/-- The settings file is a link to a file in another directory. -/
def linkedSettings : FileTree :=
  ⟨[([utf8 "www"], .directory), ([utf8 "www", utf8 "conf"], .directory),
    ([utf8 "www", utf8 "conf", utf8 "live"], .file (utf8 quietText)),
    ([utf8 "www", utf8 "fileserver.toml"], .link (utf8 "conf/live"))]⟩

/-- Where the settings are, and what the site of that root hides. -/
def livePlace : Location := [utf8 "www", utf8 "conf", utf8 "live"]

def linkedSite : Site := ⟨quiet, [utf8 "www"], .standard, [livePlace]⟩

theorem loaded_settings_are_withheld_linked :
    Site.make linkedSettings quiet [utf8 "www"] = .ok linkedSite ∧
      Settings.load linkedSettings linkedSite.root (utf8 Settings.fileStem) = .ok quiet ∧
      ∀ (r : Request) (peer : SocketAddr) (timing : Timing),
        linkedSite.Withholds linkedSettings livePlace r.method r.target
          (Exchange.handle linkedSettings linkedSite r peer timing).response := by
  have made : Site.make linkedSettings quiet [utf8 "www"] = .ok linkedSite := rfl
  have used : Settings.Source.find? linkedSettings linkedSite.root (utf8 Settings.fileStem) =
      some ⟨.toml, [utf8 "fileserver.toml"]⟩ := rfl
  have found : linkedSettings.canonicalize (linkedSite.root ++ [utf8 "fileserver.toml"]) =
      .ok livePlace := rfl
  refine ⟨made, load_quietText used rfl, ?_⟩
  obtain ⟨place, content, hplace, _, hcase⟩ := loaded_settings_are_withheld made used
  obtain rfl : place = livePlace :=
    Except.ok.inj (hplace.symm.trans (resolve_of_canonicalize rfl found))
  rcases hcase with ⟨_, hwithheld⟩ | hlong
  · exact hwithheld
  · exact absurd found hlong.canonicalize_ne

/-- Down by the short names past all long ones, up again, and to a page. -/
def detour : Bytes :=
  (List.replicate 16 (utf8 "a/")).flatten ++ (List.replicate 16 (utf8 "../")).flatten ++
    utf8 "page"

/-- The settings file is a link that takes the detour. -/
def detourSettings : FileTree :=
  ⟨([utf8 "www"], .directory) :: (deepFile [] 16 [utf8 "www"] ++
    [([utf8 "www", utf8 "fileserver.toml"], .link detour),
      ([utf8 "www", utf8 "page"], .file (utf8 quietText))])⟩

def detourSite : Site := ⟨quiet, [utf8 "www"], .standard, []⟩

theorem steps_detour :
    Path.steps detour = List.replicate 16 (utf8 "a") ++
      (List.replicate 16 Path.dotdot ++ [utf8 "page"]) := by
  decide +kernel

/-- A link that takes the detour leads to the page, past all long names. -/
theorem leads_over_detour {t : FileTree} {name : Name} {content : Bytes} {page : Node}
    (hwww : t.at? [utf8 "www"] = some .directory)
    (hbelow : ∀ e ∈ deepFile content 16 [utf8 "www"], t.at? e.1 = some e.2) (hname : Plain name)
    (hlink : t.at? [utf8 "www", name] = some (.link detour))
    (hpage : t.at? [utf8 "www", utf8 "page"] = some page) (hd : page.isDirectory = false)
    (hl : page.isLink = false) :
    ∃ seen, t.Leads maxLinks [] [utf8 "www", name] seen [utf8 "www", utf8 "page"] ∧
      [utf8 "www"] ++ List.replicate 16 longName ∈ seen := by
  have hplain : Plain (utf8 "www") := ⟨by decide, by decide, by decide⟩
  have hpagePlain : Plain (utf8 "page") := ⟨by decide, by decide, by decide⟩
  -- of the forty links one is the entry and sixteen lead down
  have hleaf : t.Leads 23 [utf8 "www"] [utf8 "page"] [[utf8 "www", utf8 "page"]]
      [utf8 "www", utf8 "page"] := .leaf hpagePlain hpage hd hl
  obtain ⟨before, hdown, hmem⟩ := leads_past_longNames hbelow hleaf
  have hwalk : t.Leads 39
      (if Path.isAbsolute detour then [] else [utf8 "www"]) (Path.steps detour ++ [])
      (before ++ [[utf8 "www", utf8 "page"]]) [utf8 "www", utf8 "page"] := by
    have hrelative : Path.isAbsolute detour = false := by decide
    rw [hrelative, List.append_nil, steps_detour]
    exact hdown
  refine ⟨_, .directory hplain hwww (.link hname hlink hwalk), ?_⟩
  exact List.mem_append_right _ (List.mem_cons_of_mem _ (List.mem_append_left _
    (hmem (by decide))))

theorem leads_detour :
    ∃ seen, detourSettings.Leads maxLinks [] [utf8 "www", utf8 "fileserver.toml"] seen
        [utf8 "www", utf8 "page"] ∧
      [utf8 "www"] ++ List.replicate 16 longName ∈ seen := by
  have hname : Plain (utf8 "fileserver.toml") := ⟨by decide, by decide, by decide⟩
  have hbelow : ∀ e ∈ deepFile [] 16 [utf8 "www"], detourSettings.at? e.1 = some e.2 :=
    at?_deepFile [] 16 [utf8 "www"] _
  exact leads_over_detour rfl hbelow hname rfl rfl rfl rfl

/-- The place past all the long names is looked up by a path that is too long. -/
theorem textLength_longNames :
    maxPathLength < Path.textLength ([utf8 "www"] ++ List.replicate 16 longName) := by
  rw [Path.textLength_append, Path.textLength_replicate, longName, List.length_replicate]
  decide

theorem canonicalize_detour (place : Location) :
    detourSettings.canonicalize (detourSite.root ++ [utf8 "fileserver.toml"]) ≠ .ok place := by
  obtain ⟨seen, hl, hmem⟩ := leads_detour
  exact canonicalize_ne_ok hl hmem textLength_longNames

theorem resolve_detour :
    detourSettings.resolve (detourSite.root ++ [utf8 "fileserver.toml"]) =
      .ok [utf8 "www", utf8 "page"] := by
  obtain ⟨seen, hl, _⟩ := leads_detour
  exact resolve_eq_ok_iff.mpr ⟨rfl, seen, hl⟩

theorem settingsPlaces_detour : Site.settingsPlaces detourSettings detourSite.root = [] := by
  apply List.eq_nil_iff_forall_not_mem.mpr
  intro place hplace
  obtain ⟨name, named, hname⟩ := Site.mem_settingsPlaces_iff.mp hplace
  have habsent : ∀ name ∈ Settings.fileNames, name = "fileserver.toml" ∨
      detourSettings.canonicalize (detourSite.root ++ [utf8 name]) = .error .noEntry := by
    simp only [Settings.fileNames, Settings.fileExtensions, List.map_cons, List.map_nil,
      List.forall_mem_cons]
    exact ⟨Or.inl rfl, Or.inr rfl, Or.inr rfl, Or.inr rfl, Or.inr rfl, Or.inr rfl, Or.inr rfl,
      by simp⟩
  rcases habsent name named with rfl | hnone
  · exact canonicalize_detour place hname
  · rw [hnone] at hname
    cases hname

theorem make_detour : Site.make detourSettings quiet detourSite.root = .ok detourSite := by
  have hroot : detourSettings.canonicalize detourSite.root = .ok detourSite.root := rfl
  refine Site.make_eq_ok_iff.mpr ⟨_, hroot, ?_⟩
  rw [settingsPlaces_detour]
  rfl

theorem holds_detour :
    detourSettings.Holds [utf8 "www", utf8 "page"] (.file (utf8 quietText)) := by
  obtain ⟨n, hn, _⟩ := holds_of_resolve resolve_detour
  have hpage : detourSettings.at? [utf8 "www", utf8 "page"] = some (.file (utf8 quietText)) := rfl
  obtain rfl := Option.some.inj (hn.node.symm.trans hpage)
  exact hn

theorem load_detour :
    Settings.load detourSettings detourSite.root (utf8 Settings.fileStem) = .ok quiet := by
  have hfile : detourSettings.isFile (detourSite.root ++ [utf8 "fileserver.toml"]) = true :=
    isFile_iff.mpr ⟨_, _, resolve_detour, holds_detour⟩
  have hbare : detourSettings.isFile (detourSite.root ++ [utf8 Settings.fileStem]) = false := rfl
  refine load_quietText ?_ (read_of_resolve resolve_detour holds_detour)
  exact Settings.Source.find?_eq_toml hbare hfile

theorem denotes_detour :
    Serving.Denotes detourSettings detourSite "/page"
      (.file [utf8 "www", utf8 "page"] [utf8 "www", utf8 "page"] (utf8 quietText)) := by
  have hpage : detourSite.Admits detourSettings [utf8 "www", utf8 "page"]
      [utf8 "www", utf8 "page"] :=
    Site.admits_iff.mpr ⟨rfl, rfl, List.prefix_append _ _, List.not_mem_nil⟩
  have names : RequestPath.translate? "/page" = some ["page"] := rfl
  exact .file (.of_names names hpage rfl) rfl

/-- Settings found past a place whose path is too long are loaded and not hidden, and the page
that they are found in is sent to whoever asks for it. -/
theorem settings_past_a_detour_are_served :
    Settings.load detourSettings detourSite.root (utf8 Settings.fileStem) = .ok quiet ∧
      quiet ≠ .defaults ∧
      detourSettings.resolve (detourSite.root ++ [utf8 "fileserver.toml"]) =
        .ok [utf8 "www", utf8 "page"] ∧
      Site.make detourSettings quiet detourSite.root = .ok detourSite ∧
      [utf8 "www", utf8 "page"] ∉ detourSite.hidden ∧
      (Exchange.handle detourSettings detourSite (Request.get "/page") .neighbour
        ⟨⟨0, 0, 0⟩, 0⟩).response =
          Response.carrying "application/octet-stream" (utf8 quietText) false := by
  refine ⟨load_detour, by decide, resolve_detour, make_detour, List.not_mem_nil, ?_⟩
  exact Serving.handle_of_file rfl denotes_detour _ _

end Loaded

/-- Whatever becomes of the files, no answer carries what is outside the root or was found
under the name of a settings file when the site was made, and no listing leads to the
latter. -/
theorem settings_stay_withheld {t : FileTree} {settings : Settings} {steps : List Name}
    {site : Site} (made : Site.make t settings steps = .ok site) (events : List Event) :
    (∀ place, ¬site.root <+: place → ∀ x ∈ site.run t events,
      site.Conceals x.files place x.request.method x.request.target x.response) ∧
    ∀ name ∈ Settings.fileNames, ∀ place,
      t.canonicalize (site.root ++ [utf8 name]) = .ok place → ∀ x ∈ site.run t events,
        site.Withholds x.files place x.request.method x.request.target x.response := by
  have types := Site.types_of_make made
  constructor
  · intro place outside
    refine Site.forall_run ?_ t events
    intro t r peer timing
    exact Serving.conceals_answer types (Or.inl outside) r.method r.target
  · intro name named place found
    have hidden : place ∈ site.hidden := by
      obtain ⟨root, _, rfl⟩ := Site.make_eq_ok_iff.mp made
      exact Site.mem_settingsPlaces_iff.mpr ⟨name, named, found⟩
    refine Site.forall_run ?_ t events
    intro t r peer timing
    exact Serving.withholds_answer types hidden r.method r.target

section Changing

/-- A root in which the name of settings is a link, beside a page and a key outside. -/
def liveSettings (live : Node) (page : Node) : FileTree :=
  ⟨[([utf8 "www"], .directory), ([utf8 "www", utf8 "live"], live),
    ([utf8 "www", utf8 "fileserver.yml"], .link (utf8 "live")),
    ([utf8 "www", utf8 "page"], page), ([utf8 "key"], .file (utf8 "kept"))]⟩

/-- The site of such a root, made while the link leads to a file. -/
def liveSite : Site := ⟨.defaults, [utf8 "www"], .standard, [[utf8 "www", utf8 "live"]]⟩

/-- The settings are replaced, and a page becomes a link to them. -/
def liveReplaced : List Event :=
  [.request (Request.get "/live") .neighbour ⟨⟨0, 0, 0⟩, 0⟩,
    .files (liveSettings (.file (utf8 "server:\n  port: 2\n")) (.link (utf8 "live"))),
    .request (Request.get "/page") .neighbour ⟨⟨1, 0, 0⟩, 0⟩,
    .request (Request.get "/") .neighbour ⟨⟨2, 0, 0⟩, 0⟩]

theorem settings_stay_withheld_liveReplaced :
    let before := liveSettings (.file (utf8 "server:\n  port: 1\n")) (.file (utf8 "shown"))
    Site.make before .defaults [utf8 "www"] = .ok liveSite ∧
      before.canonicalize (liveSite.root ++ [utf8 "fileserver.yml"]) =
        .ok [utf8 "www", utf8 "live"] ∧
      ∀ x ∈ liveSite.run before liveReplaced,
        liveSite.Conceals x.files [utf8 "key"] x.request.method x.request.target x.response ∧
          liveSite.Withholds x.files [utf8 "www", utf8 "live"] x.request.method x.request.target
            x.response := by
  intro before
  have made : Site.make before .defaults [utf8 "www"] = .ok liveSite := rfl
  have found : before.canonicalize (liveSite.root ++ [utf8 "fileserver.yml"]) =
      .ok [utf8 "www", utf8 "live"] := rfl
  obtain ⟨houtside, hnamed⟩ := settings_stay_withheld made liveReplaced
  refine ⟨made, found, ?_⟩
  intro x hx
  exact ⟨houtside _ (by decide) x hx, hnamed "fileserver.yml" (by decide) _ found x hx⟩

theorem denotes_laterSettings (content : Bytes) :
    Serving.Denotes (laterSettings content) .www "/fileserver.toml"
      (.file [utf8 "www", utf8 "fileserver.toml"] [utf8 "www", utf8 "fileserver.toml"]
        content) := by
  have hfile : Site.www.Admits (laterSettings content) [utf8 "www", utf8 "fileserver.toml"]
      [utf8 "www", utf8 "fileserver.toml"] :=
    Site.admits_iff.mpr ⟨rfl, rfl, List.prefix_append _ _, List.not_mem_nil⟩
  have names : RequestPath.translate? "/fileserver.toml" = some ["fileserver.toml"] := rfl
  exact .file (.of_names names hfile rfl) rfl

/-- Settings that are put into the root after the site was made are sent to whoever asks for
them. -/
theorem later_settings_are_served :
    Site.make bareRoot .defaults [utf8 "www"] = .ok .www ∧
      (laterSettings (utf8 "[server]\nport = 1\n")).read
          (Site.www.root ++ [utf8 "fileserver.toml"]) = .ok (utf8 "[server]\nport = 1\n") ∧
      (Site.www.run bareRoot
          [.files (laterSettings (utf8 "[server]\nport = 1\n")),
            .request (Request.get "/fileserver.toml") .neighbour ⟨⟨0, 0, 0⟩, 0⟩]).map
        Answered.response =
          [Response.carrying "application/octet-stream" (utf8 "[server]\nport = 1\n") false] := by
  refine ⟨rfl, rfl, ?_⟩
  have hanswer := Serving.handle_of_file rfl
    (denotes_laterSettings (utf8 "[server]\nport = 1\n")) .neighbour ⟨⟨0, 0, 0⟩, 0⟩
  exact congrArg (fun r => [r]) hanswer

end Changing

end DocRoot
