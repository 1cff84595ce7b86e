import DocRoot.Proofs.FileTree.Addition
import DocRoot.Proofs.Serving.Links
import DocRoot.Proofs.Serving.Respelling
import DocRoot.Proofs.Serving.Status

/-!
# An index file under two paths

A directory that is asked for with a slash is answered with its index, and the index can be
asked for by its own name. Both ways lead over the same places, and both answers are the file
or the same refusal. What counts as the index is decided from the path of the directory, over
all of its links.
-/

set_option autoImplicit false

namespace DocRoot

open Http FileTree Serving

namespace RequestPath

variable {path s name : String} {names : List String}

theorem IsName.join_eq (h : IsName name) (dir : List Name) :
    Path.join dir (utf8 name) = dir ++ [utf8 name] := by
  have hslash : Path.slash ∉ utf8 name := by
    intro hm
    exact h.no_slash ((Utf8.mem_encode_iff (c := '/') (by decide)).mp hm)
  exact Path.join_of_not_mem hslash dir

theorem IsName.stays_eq_false (h : IsName name) : Path.stays (utf8 name) = false := by
  have hdot : utf8 "." = Path.dot := by decide
  refine Path.stays_eq_false_iff.mpr ⟨?_, ?_⟩
  · exact fun he => h.ne_empty (utf8_injective (he.trans utf8_empty.symm))
  · exact fun he => h.ne_dot (utf8_injective (he.trans hdot.symm))

theorem IsName.utf8_ne_dotdot (h : IsName name) : utf8 name ≠ Path.dotdot := by
  have hdots : utf8 ".." = Path.dotdot := by decide
  exact fun he => h.ne_dotdot (utf8_injective (he.trans hdots.symm))

/-- Behind a slash at the end of a path any spelling of a name is the last of its names. -/
theorem translate?_append_of_decode (hs : endsInSlash path = true)
    (hp : translate? path = some names) (hn : IsName name)
    (hd : Percent.decode (utf8 s) = utf8 name) :
    translate? (path ++ s) = some (names ++ [name]) := by
  rw [← translate?_append_text hs hp hn]
  obtain ⟨before, rfl⟩ := exists_eq_append_slash hs
  apply translate?_of_decode_eq
  rw [utf8_append_slash, utf8_append_slash, Percent.decode_append_slash,
    Percent.decode_append_slash, hd, Percent.utf8_text, Percent.decode_encode]

theorem endsInSlash_append_of_decode (hn : IsName name)
    (hd : Percent.decode (utf8 s) = utf8 name) : endsInSlash (path ++ s) = false := by
  rw [← Bool.not_eq_true]
  intro hs
  have hne : s.toList ≠ [] := by
    intro he
    obtain rfl : s = "" := String.toList_inj.mp he
    exact hn.ne_empty (utf8_injective hd.symm)
  have hlast : endsInSlash s = true := by
    rw [endsInSlash, String.toList_append, List.getLast?_append,
      List.getLast?_eq_some_getLast hne] at hs
    rw [endsInSlash, List.getLast?_eq_some_getLast hne]
    exact hs
  obtain ⟨before, rfl⟩ := exists_eq_append_slash hlast
  have hslash := utf8_append_slash before ""
  rw [String.append_empty] at hslash
  rw [hslash, Percent.decode_append_slash] at hd
  have hm : 0x2F ∈ utf8 name := hd ▸ List.mem_append_right _ List.mem_cons_self
  exact hn.no_slash ((Utf8.mem_encode_iff (c := '/') (by decide)).mp hm)

end RequestPath

section Index
variable {t : FileTree} {site : Site} {path next name : String} {names : List String}
  {dir : List Name} {place l : Location} {v : Verdict}

/-- What is admitted behind a name is admitted behind a slash, as far as the directory. -/
theorem Site.Admits.of_child {s : Name} (h : site.Admits t (dir ++ [s]) l)
    (hmoves : Path.stays s = false) (hdd : s ≠ Path.dotdot) (found : t.resolve dir = .ok place)
    (directory : t.at? place = some .directory) (within : site.root <+: place)
    (shown : place ∉ site.hidden) : site.Admits t (dir ++ [[]]) place := by
  obtain ⟨seen, hway, hfits⟩ := h.spelled
  obtain ⟨_, mid, before, after, _, hbefore, hchild, hafter, hback⟩ :=
    hway.exists_of_append (List.cons_ne_nil s [])
  obtain ⟨_, _, hdir⟩ := resolve_eq_ok_iff.mp found
  obtain ⟨_, rfl⟩ := hdir.unique hbefore
  have hplain := hchild.plain hmoves hdd
  have hlength : ∀ p : List Name, Path.textLength (p ++ [[]]) ≤ Path.textLength (p ++ [s]) := by
    intro p
    simp [Path.textLength]
  have hslash : Path.textLength (place ++ [[]]) ≤ maxPathLength :=
    (hlength place).trans (hfits _ (hafter _ (hchild.child_mem_seen hplain)))
  obtain ⟨way, hon, _, hseen⟩ :=
    hbefore.append directory fun links => .stay (s := []) rfl (.arrived links place)
  obtain ⟨hzero, hshort⟩ := acceptPath_eq_ok_iff.mp (resolve_eq_ok_iff.mp h.found).1
  have haccept : acceptPath (dir ++ [[]]) = .ok () := by
    refine acceptPath_eq_ok_iff.mpr ⟨?_, (hlength dir).trans hshort⟩
    simp only [List.forall_mem_append, List.forall_mem_singleton] at hzero ⊢
    exact ⟨hzero.1, List.not_mem_nil⟩
  refine ⟨resolve_eq_ok_iff.mpr ⟨haccept, way, hon⟩, ⟨way, hon, ?_⟩, within, shown⟩
  intro p hp
  rcases hseen p hp with hp | hp | ⟨_, rfl⟩
  · rcases hback p hp with hp | ⟨_, rfl⟩
    · exact hfits p hp
    · exact hslash
  · cases hp
  · exact hslash

/-- What is admitted behind a name of its own is admitted as it is asked for. -/
theorem Site.Admits.asked_of_child
    (h : site.Admits t (site.root ++ RequestPath.location names ++ [utf8 name]) l)
    (plain : RequestPath.IsName name)
    (found : t.resolve (site.root ++ RequestPath.location names) = .ok place)
    (directory : t.at? place = some .directory) (within : site.root <+: place)
    (shown : place ∉ site.hidden) : site.Admits t (site.root ++ RequestPath.steps names) place := by
  have hslash := h.of_child plain.stays_eq_false plain.utf8_ne_dotdot found directory within shown
  by_cases hnames : names = []
  · subst hnames
    rwa [RequestPath.location, List.map_nil, List.append_nil] at hslash
  · rw [RequestPath.steps_of_ne_nil hnames]
    exact hslash.of_slash

/-- The path of a directory and that of its index have one verdict: the file, if it may be
sent, and otherwise nothing. -/
theorem exists_denotes_index (plain : RequestPath.IsName name)
    (translated : RequestPath.translate? path = some names)
    (ends : RequestPath.endsInSlash path = true)
    (hnext : RequestPath.translate? next = some (names ++ [name]))
    (hends : RequestPath.endsInSlash next = false)
    (found : t.resolve (site.root ++ RequestPath.location names) = .ok place)
    (directory : t.at? place = some .directory) (within : site.root <+: place)
    (shown : place ∉ site.hidden)
    (first : FirstIndex t (site.root ++ RequestPath.location names)
      site.settings.serve.indexFiles (site.root ++ RequestPath.location names ++ [utf8 name])) :
    ∃ v, Denotes t site path v ∧ Denotes t site next v ∧
      ((∃ indexPlace content,
          site.Admits t (site.root ++ RequestPath.location names ++ [utf8 name]) indexPlace ∧
          t.at? indexPlace = some (.file content) ∧
          v = .file (site.root ++ RequestPath.location names ++ [utf8 name]) indexPlace content) ∨
        (∀ indexPlace,
          ¬site.Admits t (site.root ++ RequestPath.location names ++ [utf8 name]) indexPlace) ∧
          v = .missing) := by
  have hlocation : site.root ++ RequestPath.location (names ++ [name]) =
      site.root ++ RequestPath.location names ++ [utf8 name] := by
    simp [RequestPath.location]
  have hsteps : site.root ++ RequestPath.steps (names ++ [name]) =
      site.root ++ RequestPath.location names ++ [utf8 name] := by
    rw [RequestPath.steps_concat, List.append_assoc]
  by_cases hadm : ∃ indexPlace,
      site.Admits t (site.root ++ RequestPath.location names ++ [utf8 name]) indexPlace
  · obtain ⟨indexPlace, hadm⟩ := hadm
    obtain ⟨l, content, hl, hfile⟩ := first.leadsToFile
    obtain rfl : indexPlace = l := Except.ok.inj (hadm.found.symm.trans hl)
    have hdir := hadm.asked_of_child plain found directory within shown
    have hasks := Asks.of_names translated hdir directory
    have hindex : Asks t site next (site.root ++ RequestPath.location names ++ [utf8 name])
        indexPlace (.file content) :=
      ⟨⟨names ++ [name], hnext, hlocation.symm, by rwa [hsteps]⟩, hfile⟩
    exact ⟨_, .index hasks ends first hadm hfile, .file hindex hends,
      .inl ⟨indexPlace, content, hadm, hfile.node, rfl⟩⟩
  · have hnot := not_exists.mp hadm
    refine ⟨.missing, ?_, .missing hnext (by rwa [hsteps]), .inr ⟨hnot, rfl⟩⟩
    by_cases hdir : site.Admits t (site.root ++ RequestPath.steps names) place
    · exact .indexRefused (.of_names translated hdir directory) ends first hnot
    · refine .missing translated ?_
      intro l hl
      obtain rfl : l = place := Except.ok.inj (hl.of_asked.found.symm.trans found)
      exact hdir hl

end Index

/-- A directory is answered like its index file asked for by its name, however the name is
escaped: with the file, or as if nothing were there if it may not be sent. -/
theorem index_is_served_as_itself {t₀ t : FileTree} {settings : Settings} {steps : List Name}
    {site : Site} (made : Site.make t₀ settings steps = .ok site) {r r' : Request}
    (get : r.method = .get) (get' : r'.method = .get) {names : List String} {place : Location}
    (ends : RequestPath.endsInSlash r.target.path = true)
    (translated : RequestPath.translate? r.target.path = some names)
    (found : t.resolve (site.root ++ RequestPath.location names) = .ok place)
    (directory : t.at? place = some .directory) (within : site.root <+: place)
    (shown : place ∉ site.hidden) {name s : String} (plain : RequestPath.IsName name)
    (first : FirstIndex t (site.root ++ RequestPath.location names)
      site.settings.serve.indexFiles
      (Path.join (site.root ++ RequestPath.location names) (utf8 name)))
    (spelled : Percent.decode (utf8 s) = utf8 name)
    (next : r'.target.path = r.target.path ++ s) (peer peer' : SocketAddr)
    (timing timing' : Timing) :
    (Exchange.handle t site r' peer' timing').response =
        (Exchange.handle t site r peer timing).response ∧
      ∃ indexPlace content,
        t.resolve (site.root ++ RequestPath.location names ++ [utf8 name]) = .ok indexPlace ∧
        t.at? indexPlace = some (.file content) ∧
        (site.Admits t (site.root ++ RequestPath.location names ++ [utf8 name]) indexPlace →
          (Exchange.handle t site r peer timing).response =
            .carrying (ContentType.Table.standard.ofSteps
              (site.root ++ RequestPath.location names ++ [utf8 name])) content false) ∧
        (¬site.Admits t (site.root ++ RequestPath.location names ++ [utf8 name]) indexPlace →
          (Exchange.handle t site r peer timing).response.status = 404) := by
  rw [plain.join_eq] at first
  have hnext : RequestPath.translate? r'.target.path = some (names ++ [name]) := by
    rw [next]
    exact RequestPath.translate?_append_of_decode ends translated plain spelled
  have hends : RequestPath.endsInSlash r'.target.path = false := by
    rw [next]
    exact RequestPath.endsInSlash_append_of_decode plain spelled
  obtain ⟨v, hv, hv', hcase⟩ := exists_denotes_index plain translated ends hnext hends found
    directory within shown first
  have hresponse : (Exchange.handle t site r peer timing).response =
      v.response t site r.target false := handle_response get hv
  have hresponse' : (Exchange.handle t site r' peer' timing').response =
      v.response t site r'.target false := handle_response get' hv'
  obtain ⟨indexPlace, content, hindex, hfile⟩ := first.leadsToFile
  rcases hcase with ⟨l, data, hadm, hdata, rfl⟩ | ⟨hnot, rfl⟩
  · obtain rfl : indexPlace = l := Except.ok.inj (hindex.symm.trans hadm.found)
    obtain rfl : content = data := Node.file.inj (Option.some.inj (hfile.node.symm.trans hdata))
    rw [response_file (Site.types_of_make made)] at hresponse hresponse'
    exact ⟨hresponse'.trans hresponse.symm, indexPlace, content, hindex, hfile.node,
      fun _ => hresponse, fun hnot => absurd hadm hnot⟩
  · refine ⟨hresponse'.trans hresponse.symm, indexPlace, content, hindex, hfile.node, ?_, ?_⟩
    · intro hadm
      exact absurd hadm (hnot indexPlace)
    · intro _
      rw [hresponse]
      exact status_of_missing

section Links

theorem firstIndex_selfChild :
    FirstIndex selfChild Site.www.root Site.www.settings.serve.indexFiles
      (Path.join Site.www.root (utf8 "index.html")) :=
  findIndex_eq_some_iff.mp rfl

/-- The index is found through a link, and sent under each spelling of its name. -/
theorem index_is_served_as_itself_selfChild :
    Site.make selfChild .defaults [utf8 "www"] = .ok .www ∧
      ∀ s, Percent.decode (utf8 s) = utf8 "index.html" →
        ∀ (peer : SocketAddr) (timing : Timing),
          (Exchange.handle selfChild .www (Request.get "/") peer timing).response =
              .carrying "text/html" (utf8 "shown") false ∧
            (Exchange.handle selfChild .www (Request.get ("/" ++ s)) peer timing).response =
              .carrying "text/html" (utf8 "shown") false := by
  have made : Site.make selfChild .defaults [utf8 "www"] = .ok .www := rfl
  refine ⟨made, ?_⟩
  intro s spelled peer timing
  have translated : RequestPath.translate? (Request.get "/").target.path = some [] := rfl
  have next : (Request.get ("/" ++ s)).target.path = (Request.get "/").target.path ++ s := rfl
  obtain ⟨hsame, place, content, hplace, hfile, hsent, _⟩ :=
    index_is_served_as_itself made rfl rfl rfl translated rfl rfl List.prefix_rfl
      List.not_mem_nil (by decide) firstIndex_selfChild spelled next peer peer timing timing
  have found : selfChild.resolve
      (Site.www.root ++ RequestPath.location [] ++ [utf8 "index.html"]) =
        .ok [utf8 "www", utf8 "page"] := rfl
  obtain rfl : place = [utf8 "www", utf8 "page"] := Except.ok.inj (hplace.symm.trans found)
  have admitted : Site.www.Admits selfChild
      (Site.www.root ++ RequestPath.location [] ++ [utf8 "index.html"])
      [utf8 "www", utf8 "page"] :=
    Site.admits_iff.mpr ⟨found, rfl, List.prefix_append _ _, List.not_mem_nil⟩
  have shown : selfChild.at? [utf8 "www", utf8 "page"] = some (.file (utf8 "shown")) := rfl
  obtain rfl : content = utf8 "shown" :=
    Node.file.inj (Option.some.inj (hfile.symm.trans shown))
  exact ⟨hsent admitted, hsame.trans (hsent admitted)⟩

set_option maxRecDepth 4096 in
theorem resolve_past_fortyLinks :
    selfChild.resolve
        (Site.www.root ++ RequestPath.location (List.replicate 40 "a" ++ ["index.html"])) =
      .error .tooManyLinks := by
  rfl

/-- The index is found from the directory, but under the path that was asked for it is one
link too far: the directory is listed, and the index is missing. -/
theorem index_past_the_last_link_is_missing :
    Site.make selfChild .defaults [utf8 "www"] = .ok .www ∧
      RequestPath.endsInSlash fortyLinks = true ∧
      RequestPath.translate? fortyLinks = some (List.replicate 40 "a") ∧
      selfChild.resolve (Site.www.root ++ RequestPath.location (List.replicate 40 "a")) =
        .ok Site.www.root ∧
      selfChild.at? Site.www.root = some .directory ∧ Site.www.root ∉ Site.www.hidden ∧
      FirstIndex selfChild Site.www.root Site.www.settings.serve.indexFiles
        (Path.join Site.www.root (utf8 "index.html")) ∧
      (Exchange.handle selfChild .www (Request.get fortyLinks) .neighbour
        ⟨⟨0, 0, 0⟩, 0⟩).response.status = 200 ∧
      (Exchange.handle selfChild .www (Request.get (fortyLinks ++ Percent.text "index.html"))
        .neighbour ⟨⟨0, 0, 0⟩, 0⟩).response.status = 404 := by
  have ends : RequestPath.endsInSlash fortyLinks = true := by
    cases denotes_fortyLinks with
    | listing _ hs _ _ => exact hs
  have missing : Denotes selfChild Site.www (fortyLinks ++ Percent.text "index.html") .missing := by
    refine .missing (RequestPath.translate?_append_text ends translate?_fortyLinks
      (by decide)) ?_
    intro place hadm
    cases hadm.found.symm.trans resolve_past_fortyLinks
  refine ⟨rfl, ends, translate?_fortyLinks, ?_, rfl, List.not_mem_nil, firstIndex_selfChild, ?_, ?_⟩
  · cases denotes_fortyLinks with
    | listing ha _ _ _ => exact ha.admitted.found
  · rw [handle_response rfl denotes_fortyLinks]
    exact status_listing _ _
  · rw [handle_response rfl missing]
    exact status_of_missing

end Links

end DocRoot
