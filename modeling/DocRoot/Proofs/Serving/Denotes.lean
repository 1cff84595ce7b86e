import DocRoot.Proofs.Http.Response
import DocRoot.Proofs.Serving.Servable

/-!
# What a path denotes

`Denotes` reads a path against the files once: it asks where the path leads and looks at
the node there. Every path denotes something, and `load_result` says what is answered to
each verdict, whatever the order in which the files are consulted.
-/

set_option autoImplicit false

namespace DocRoot.Serving

open Http

inductive Verdict
  /-- The path is no text without NUL. -/
  | malformed
  | missing
  /-- A directory is asked for without a slash at the end. -/
  | moved
  /-- A file, or what can be read like one. -/
  | file (steps : List Name) (place : Location) (content : Bytes)
  | listing (steps : List Name) (place : Location)
  /-- Neither a file nor a directory, and not read to its end. -/
  | unreadable (cause : Fault)

/-- The path asks for the node at a place that may be served. It is checked under the steps
that are looked up, which for the root itself end in a slash. -/
structure Asks (t : FileTree) (site : Site) (path : String) (steps : List Name)
    (place : Location) (n : Node) : Prop where
  translated : ∃ names, RequestPath.translate? path = some names ∧
    steps = site.root ++ RequestPath.location names ∧
    site.Admits t (site.root ++ RequestPath.steps names) place
  held : t.Holds place n

theorem Asks.admitted {t : FileTree} {site : Site} {path : String} {steps : List Name}
    {place : Location} {n : Node} (h : Asks t site path steps place n) :
    site.Admits t steps place := by
  obtain ⟨names, _, rfl, hasked⟩ := h.translated
  exact hasked.of_asked

theorem Asks.of_names {t : FileTree} {site : Site} {path : String} {names : List String}
    {place : Location} {n : Node} (hn : RequestPath.translate? path = some names)
    (h : site.Admits t (site.root ++ RequestPath.steps names) place)
    (hnode : t.at? place = some n) :
    Asks t site path (site.root ++ RequestPath.location names) place n :=
  ⟨⟨names, hn, rfl, h⟩, h.holds_node hnode⟩

def LeadsToFile (t : FileTree) (steps : List Name) : Prop :=
  ∃ place content, t.resolve steps = .ok place ∧ t.Holds place (.file content)

/-- The steps of the first name that leads from a directory to a file. -/
def FirstIndex (t : FileTree) (dir : List Name) (names : List String) (index : List Name) : Prop :=
  ∃ before name after, names = before ++ name :: after ∧ index = Path.join dir (utf8 name) ∧
    LeadsToFile t index ∧ ∀ earlier ∈ before, ¬LeadsToFile t (Path.join dir (utf8 earlier))

theorem FirstIndex.leadsToFile {t : FileTree} {dir index : List Name} {names : List String}
    (h : FirstIndex t dir names index) : LeadsToFile t index := by
  obtain ⟨_, _, _, _, _, hfile, _⟩ := h
  exact hfile

def NoIndex (t : FileTree) (dir : List Name) (names : List String) : Prop :=
  ∀ name ∈ names, ¬LeadsToFile t (Path.join dir (utf8 name))

inductive Denotes (t : FileTree) (site : Site) (path : String) : Verdict → Prop
  | malformed : RequestPath.translate? path = none → Denotes t site path .malformed
  | missing {names : List String} :
      RequestPath.translate? path = some names →
      (∀ place, ¬site.Admits t (site.root ++ RequestPath.steps names) place) →
      Denotes t site path .missing
  | moved {steps : List Name} {place : Location} :
      Asks t site path steps place .directory → RequestPath.endsInSlash path = false →
      Denotes t site path .moved
  | index {steps index : List Name} {place indexPlace : Location} {content : Bytes} :
      Asks t site path steps place .directory → RequestPath.endsInSlash path = true →
      FirstIndex t steps site.settings.serve.indexFiles index →
      site.Admits t index indexPlace → t.Holds indexPlace (.file content) →
      Denotes t site path (.file index indexPlace content)
  | indexRefused {steps index : List Name} {place : Location} :
      Asks t site path steps place .directory → RequestPath.endsInSlash path = true →
      FirstIndex t steps site.settings.serve.indexFiles index →
      (∀ indexPlace, ¬site.Admits t index indexPlace) →
      Denotes t site path .missing
  | listing {steps : List Name} {place : Location} :
      Asks t site path steps place .directory → RequestPath.endsInSlash path = true →
      NoIndex t steps site.settings.serve.indexFiles →
      site.settings.serve.directoryListing = true →
      Denotes t site path (.listing steps place)
  | unlisted {steps : List Name} {place : Location} :
      Asks t site path steps place .directory → RequestPath.endsInSlash path = true →
      NoIndex t steps site.settings.serve.indexFiles →
      site.settings.serve.directoryListing = false →
      Denotes t site path .missing
  | slashed {steps : List Name} {place : Location} {n : Node} :
      Asks t site path steps place n → n.isDirectory = false →
      RequestPath.endsInSlash path = true →
      Denotes t site path .missing
  | file {steps : List Name} {place : Location} {content : Bytes} :
      Asks t site path steps place (.file content) → RequestPath.endsInSlash path = false →
      Denotes t site path (.file steps place content)
  | special {steps : List Name} {place : Location} {s : Special} {content : Bytes} :
      Asks t site path steps place (.special s) → RequestPath.endsInSlash path = false →
      s.reading = .content content →
      Denotes t site path (.file steps place content)
  | unreadable {steps : List Name} {place : Location} {s : Special} {cause : Fault} :
      Asks t site path steps place (.special s) → RequestPath.endsInSlash path = false →
      s.reading = .fault cause →
      Denotes t site path (.unreadable cause)

namespace Verdict

/-- The page that lists the directory at a place. -/
def page (t : FileTree) (site : Site) (path : String) (steps : List Name) (place : Location) :
    String :=
  Listing.page (RequestPath.display path)
    (Listing.sort (Listing.items t steps site.hidden (t.entries place)))

/-- What a path with this verdict is answered. -/
def result (t : FileTree) (site : Site) (target : Target) (isHead : Bool) :
    Verdict → Except Refusal Response
  | malformed => .error (.badPath target.path)
  | missing => .error (.notFound target.path)
  | moved => .ok (Response.redirect (RequestPath.directoryForm target.path target.query)).1
  | file steps _ content => .ok (Response.ofFile content (site.types.ofSteps steps) isHead).1
  | listing steps place =>
    .ok (Response.ofListing (page t site target.path steps place) isHead).1
  | unreadable cause => .error (.ofFault target.path cause)

/-- What a path with this verdict is sent, the refusals included. -/
def response (t : FileTree) (site : Site) (target : Target) (isHead : Bool)
    (v : Verdict) : Response :=
  match v.result t site target isHead with
  | .ok r => r
  | .error r => (Response.error r.status r.message isHead).1

theorem response_of_refusal {t : FileTree} {site : Site} {target : Target} {isHead : Bool}
    {v : Verdict} {refusal : Refusal} (h : v.result t site target isHead = .error refusal) :
    v.response t site target isHead =
      (Response.error refusal.status refusal.message isHead).1 := by
  simp only [response, h]

end Verdict

section Refused
variable {t : FileTree} {site : Site} {target : Target} {isHead : Bool} {v : Verdict}

theorem response_status {refusal : Refusal}
    (h : v.result t site target isHead = .error refusal) :
    (v.response t site target isHead).status = refusal.status := by
  rw [Verdict.response_of_refusal h, Response.error_status]

theorem status_of_missing :
    (Verdict.missing.response t site target isHead).status = 404 := by
  have hr : Verdict.missing.result t site target isHead = .error (.notFound target.path) := rfl
  exact response_status hr

end Refused

section Index
variable {t : FileTree} {dir index : List Name} {names : List String}

theorem isFile_iff_leadsToFile {steps : List Name} :
    t.isFile steps = true ↔ LeadsToFile t steps := FileTree.isFile_iff

theorem isFile_eq_false_iff {steps : List Name} :
    t.isFile steps = false ↔ ¬LeadsToFile t steps := by
  rw [← isFile_iff_leadsToFile, Bool.not_eq_true]

theorem findIndex_eq_some_iff :
    findIndex t dir names = some index ↔ FirstIndex t dir names index := by
  unfold findIndex FirstIndex
  rw [List.find?_map]
  constructor
  · intro h
    obtain ⟨name, hfind, rfl⟩ := Option.map_eq_some_iff.mp h
    obtain ⟨hname, before, after, rfl, hbefore⟩ := List.find?_eq_some_iff_append.mp hfind
    refine ⟨before, name, after, rfl, rfl, isFile_iff_leadsToFile.mp hname, ?_⟩
    intro earlier he
    exact isFile_eq_false_iff.mp (by simpa using hbefore earlier he)
  · rintro ⟨before, name, after, rfl, rfl, hname, hbefore⟩
    refine Option.map_eq_some_iff.mpr ⟨name, List.find?_eq_some_iff_append.mpr ?_, rfl⟩
    refine ⟨isFile_iff_leadsToFile.mpr hname, before, after, rfl, ?_⟩
    intro earlier he
    simpa using isFile_eq_false_iff.mpr (hbefore earlier he)

theorem findIndex_eq_none_iff : findIndex t dir names = none ↔ NoIndex t dir names := by
  unfold findIndex NoIndex
  simp only [List.find?_eq_none, List.mem_map, forall_exists_index, and_imp,
    forall_apply_eq_imp_iff₂, isFile_iff_leadsToFile]

end Index

section Loading
variable {t : FileTree} {site : Site} {target : Target} {isHead : Bool} {steps index : List Name}
  {place indexPlace : Location} {n : Node} {content : Bytes} {v : Verdict}

theorem sendFile_of_content {path : String} (hr : t.resolve steps = .ok place)
    (hn : t.Holds place n) (hc : n.reading = .content content) :
    sendFile t site steps path isHead =
      .told (Response.ofFile content (site.types.ofSteps steps) isHead) := by
  simp [sendFile, FileTree.read_of_resolve hr hn, hc, Reading.result]

theorem sendFile_of_fault {path : String} {cause : Fault} (hr : t.resolve steps = .ok place)
    (hn : t.Holds place n) (hc : n.reading = .fault cause) :
    sendFile t site steps path isHead = .refuse (.ofFault path cause) := by
  simp [sendFile, FileTree.read_of_resolve hr hn, hc, Reading.result]

/-- Once a path asks for a node, the node alone decides. -/
theorem load_of_asks (h : Asks t site target.path steps place n) :
    load t site target isHead =
      if n.isDirectory then
        if RequestPath.endsInSlash target.path then sendDirectory t site steps target.path isHead
        else .told (Response.redirect (RequestPath.directoryForm target.path target.query))
      else if RequestPath.endsInSlash target.path then .refuse (.notFound target.path)
      else sendFile t site steps target.path isHead := by
  obtain ⟨names, hnames, rfl, hasked⟩ := h.translated
  have hnode := FileTree.node_of_resolve hasked.found h.held
  have hok := ensureServable_of_admits target.path hasked
  simp only [load, hnames, hnode, hok, Outcome.bind_eq, Outcome.ok_bind]

theorem load_missing {names : List String} (hn : RequestPath.translate? target.path = some names)
    (h : ∀ place, ¬site.Admits t (site.root ++ RequestPath.steps names) place) :
    (load t site target isHead).result = .error (.notFound target.path) := by
  simp only [load, hn]
  cases hnode : t.node (site.root ++ RequestPath.steps names) with
  | error e => rfl
  | ok n =>
    obtain ⟨_, hr, _⟩ := FileTree.node_eq_ok_iff.mp hnode
    obtain ⟨notices, hens⟩ := ensureServable_of_not_admits target.path hr h
    simp [hens, Outcome.bind]

theorem sendDirectory_refused {path : String}
    (hi : FirstIndex t steps site.settings.serve.indexFiles index)
    (h : ∀ indexPlace, ¬site.Admits t index indexPlace) :
    (sendDirectory t site steps path isHead).result = .error (.notFound path) := by
  obtain ⟨_, _, hr, _⟩ := hi.leadsToFile
  obtain ⟨notices, hens⟩ := ensureServable_of_not_admits path hr h
  simp [sendDirectory, findIndex_eq_some_iff.mpr hi, hens, Outcome.bind]

theorem load_result (isHead : Bool) (h : Denotes t site target.path v) :
    (load t site target isHead).result = v.result t site target isHead := by
  cases h with
  | malformed hn => simp [load, hn, Outcome.refuse, Verdict.result]
  | missing hn hnot => exact load_missing hn hnot
  | moved ha hs => simp [load_of_asks ha, hs, Node.isDirectory, Outcome.told, Verdict.result]
  | index ha hs hi hadm hf =>
    have hok := ensureServable_of_admits target.path hadm
    simp [load_of_asks ha, hs, Node.isDirectory, sendDirectory, findIndex_eq_some_iff.mpr hi, hok,
      sendFile_of_content hadm.found hf rfl, Outcome.told, Verdict.result]
  | indexRefused ha hs hi hnot =>
    simp [load_of_asks ha, hs, Node.isDirectory, sendDirectory_refused hi hnot, Verdict.result]
  | listing ha hs hno hl =>
    have hlist := FileTree.list_of_resolve ha.admitted.found ha.held
    simp [load_of_asks ha, hs, Node.isDirectory, sendDirectory, findIndex_eq_none_iff.mpr hno, hl,
      Listing.render, hlist, Outcome.told, Verdict.result, Verdict.page]
  | unlisted ha hs hno hl =>
    simp [load_of_asks ha, hs, Node.isDirectory, sendDirectory, findIndex_eq_none_iff.mpr hno, hl,
      Outcome.refuse, Verdict.result]
  | slashed ha hd hs => simp [load_of_asks ha, hd, hs, Outcome.refuse, Verdict.result]
  | file ha hs =>
    simp [load_of_asks ha, hs, Node.isDirectory,
      sendFile_of_content ha.admitted.found ha.held rfl, Outcome.told, Verdict.result]
  | special ha hs hc =>
    simp [load_of_asks ha, hs, Node.isDirectory,
      sendFile_of_content ha.admitted.found ha.held hc, Outcome.told, Verdict.result]
  | unreadable ha hs hc =>
    simp [load_of_asks ha, hs, Node.isDirectory, sendFile_of_fault ha.admitted.found ha.held hc,
      Outcome.refuse, Verdict.result]

theorem serve_response (h : Denotes t site target.path v) :
    (serve t site target isHead).1 = v.response t site target isHead := by
  simp only [serve, Verdict.response, ← load_result isHead h]
  cases (load t site target isHead).result <;> rfl

theorem exists_denotes_of_directory {path : String}
    (ha : Asks t site path steps place .directory) : ∃ v, Denotes t site path v := by
  cases hs : RequestPath.endsInSlash path with
  | false => exact ⟨_, .moved ha hs⟩
  | true =>
    cases hi : findIndex t steps site.settings.serve.indexFiles with
    | none =>
      have hno := findIndex_eq_none_iff.mp hi
      cases hl : site.settings.serve.directoryListing with
      | true => exact ⟨_, .listing ha hs hno hl⟩
      | false => exact ⟨_, .unlisted ha hs hno hl⟩
    | some index =>
      have hfirst := findIndex_eq_some_iff.mp hi
      by_cases hadm : ∃ indexPlace, site.Admits t index indexPlace
      · obtain ⟨indexPlace, hadm⟩ := hadm
        obtain ⟨l, content, hl, hf⟩ := hfirst.leadsToFile
        obtain rfl : indexPlace = l := Except.ok.inj (hadm.found.symm.trans hl)
        exact ⟨_, .index ha hs (findIndex_eq_some_iff.mp hi) hadm hf⟩
      · exact ⟨_, .indexRefused ha hs hfirst (not_exists.mp hadm)⟩

theorem exists_denotes (t : FileTree) (site : Site) (path : String) :
    ∃ v, Denotes t site path v := by
  cases hn : RequestPath.translate? path with
  | none => exact ⟨_, .malformed hn⟩
  | some names =>
    by_cases hadm : ∃ place, site.Admits t (site.root ++ RequestPath.steps names) place
    · obtain ⟨place, hadm⟩ := hadm
      obtain ⟨n, hheld, hlink⟩ := hadm.holds
      have ha : Asks t site path (site.root ++ RequestPath.location names) place n :=
        ⟨⟨names, hn, rfl, hadm⟩, hheld⟩
      cases hd : n.isDirectory with
      | true =>
        obtain rfl : n = .directory := by cases n <;> simp_all [Node.isDirectory]
        exact exists_denotes_of_directory ha
      | false =>
        cases hs : RequestPath.endsInSlash path with
        | true => exact ⟨_, .slashed ha hd hs⟩
        | false =>
          cases n with
          | file content => exact ⟨_, .file ha hs⟩
          | special s =>
            cases hc : s.reading with
            | content content => exact ⟨_, .special ha hs hc⟩
            | fault cause => exact ⟨_, .unreadable ha hs hc⟩
          | directory => cases hd
          | link target => cases hlink
    · exact ⟨_, .missing hn (not_exists.mp hadm)⟩

end Loading

section Directory
variable {t : FileTree} {site : Site} {path next : String} {steps steps' : List Name}
  {place place' : Location} {n n' : Node} {v : Verdict}

/-- Paths that spell the same names ask for the same node. -/
theorem Asks.of_translate (h : Asks t site path steps place n)
    (hn : RequestPath.translate? next = RequestPath.translate? path) :
    Asks t site next steps place n :=
  ⟨hn ▸ h.translated, h.held⟩

theorem Asks.unique (h : Asks t site path steps place n)
    (h' : Asks t site path steps' place' n') : steps = steps' ∧ place = place' ∧ n = n' := by
  obtain ⟨names, hn, rfl, hasked⟩ := h.translated
  obtain ⟨names', hn', rfl, hasked'⟩ := h'.translated
  obtain rfl : names = names' := Option.some.inj (hn.symm.trans hn')
  obtain rfl : place = place' := Except.ok.inj (hasked.found.symm.trans hasked'.found)
  exact ⟨rfl, rfl, Option.some.inj (h.held.node.symm.trans h'.held.node)⟩

theorem Asks.not_missing {names : List String} (h : Asks t site path steps place n)
    (hn : RequestPath.translate? path = some names) :
    ¬∀ p, ¬site.Admits t (site.root ++ RequestPath.steps names) p := by
  obtain ⟨names', hn', _, hasked⟩ := h.translated
  obtain rfl : names = names' := Option.some.inj (hn.symm.trans hn')
  exact fun hnot => hnot _ hasked

/-- A directory asked for with a slash is its first index, if that may be sent, and without
an index it is its listing, if the site has listings. -/
theorem Denotes.of_slashed_directory (h : Denotes t site path v)
    (ha : Asks t site path steps place .directory)
    (hs : RequestPath.endsInSlash path = true) :
    (∃ index, FirstIndex t steps site.settings.serve.indexFiles index ∧
      ((∃ indexPlace content, site.Admits t index indexPlace ∧
          t.Holds indexPlace (.file content) ∧ v = .file index indexPlace content) ∨
        (∀ indexPlace, ¬site.Admits t index indexPlace) ∧ v = .missing)) ∨
    NoIndex t steps site.settings.serve.indexFiles ∧
      v = if site.settings.serve.directoryListing then .listing steps place else .missing := by
  cases h with
  | malformed hn =>
    obtain ⟨names, hnames, _⟩ := ha.translated
    cases hn.symm.trans hnames
  | missing hn hnot => exact absurd hnot (ha.not_missing hn)
  | moved _ hs' => cases hs.symm.trans hs'
  | file _ hs' => cases hs.symm.trans hs'
  | special _ hs' _ => cases hs.symm.trans hs'
  | unreadable _ hs' _ => cases hs.symm.trans hs'
  | slashed ha' hd _ =>
    obtain ⟨_, _, rfl⟩ := ha.unique ha'
    cases hd
  | index ha' _ hi hadm hf =>
    obtain ⟨rfl, _, _⟩ := ha.unique ha'
    exact .inl ⟨_, hi, .inl ⟨_, _, hadm, hf, rfl⟩⟩
  | indexRefused ha' _ hi hnot =>
    obtain ⟨rfl, _, _⟩ := ha.unique ha'
    exact .inl ⟨_, hi, .inr ⟨hnot, rfl⟩⟩
  | listing ha' _ hno hl =>
    obtain ⟨rfl, rfl, _⟩ := ha.unique ha'
    exact .inr ⟨hno, by rw [if_pos hl]⟩
  | unlisted ha' _ hno hl =>
    obtain ⟨rfl, _, _⟩ := ha.unique ha'
    exact .inr ⟨hno, by simp [hl]⟩

end Directory

end DocRoot.Serving
