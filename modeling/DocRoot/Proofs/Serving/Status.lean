import DocRoot.Exchange
import DocRoot.Proofs.ContentType
import DocRoot.Proofs.FileTree.Depth
import DocRoot.Proofs.RequestPath
import DocRoot.Proofs.Serving.Containment

/-!
# Status by what a path denotes

Every path has a verdict, and a `GET` is answered by the verdict alone. Two limits of the
system show: a node is missing if a path that is looked up on the way to it is too long, and
an index is looked up under the path that was asked for, all of whose links count.
-/

set_option autoImplicit false

namespace DocRoot

open Http FileTree Serving

section Answers
variable {t : FileTree} {site : Site} {target : Target} {path : String} {v : Verdict}

theorem noControl_directoryForm {query : Option String} (hp : NoControl path)
    (hq : ∀ q, query = some q → NoControl q) :
    NoControl (RequestPath.directoryForm path query) := by
  have hbody : NoControl
      (String.ofList ('/' :: (path.toList.dropWhile (· = '/') ++ ['/']))) := by
    intro c hc
    rw [String.toList_ofList] at hc
    rcases List.mem_cons.mp hc with rfl | hc
    · decide
    · rcases List.mem_append.mp hc with hc | hc
      · exact hp c ((List.dropWhile_suffix _).mem hc)
      · obtain rfl := List.mem_singleton.mp hc
        decide
  unfold RequestPath.directoryForm
  cases query with
  | none => exact hbody
  | some q =>
    have hmark : NoControl "?" := by decide
    exact (hbody.append hmark).append (hq q rfl)

/-- The response to a `GET` for a path with this verdict. -/
def Serving.Verdict.AnsweredBy (t : FileTree) (site : Site) (target : Target) (r : Response) :
    Verdict → Prop
  | malformed => r.status = 400
  | missing => r.status = 404
  | moved => r.status = 301 ∧
    r.header? "location" = some (utf8 (RequestPath.directoryForm target.path target.query))
  | file steps _ content => r = .carrying (site.types.ofSteps steps) content false
  | listing steps place =>
    r = .carrying Response.htmlType (utf8 (page t site target.path steps place)) false
  | unreadable cause => r.status =
    if cause.kind = .notFound ∨ cause.kind = .permissionDenied then 404 else 500

theorem type_of_listing (steps : List Name) (place : Location) :
    ((Verdict.listing steps place).response t site target false).header? "content-type" =
      some (utf8 Response.htmlType) := by
  rw [response_listing, Response.carrying_type]

theorem answeredBy_response (types : site.types = .standard)
    (hp : NoControl target.path) (hq : ∀ q, target.query = some q → NoControl q) :
    v.AnsweredBy t site target (v.response t site target false) := by
  cases v with
  | malformed =>
    have hr : Verdict.malformed.result t site target false = .error (.badPath target.path) := rfl
    exact response_status hr
  | missing => exact status_of_missing
  | unreadable cause =>
    have hr : (Verdict.unreadable cause).result t site target false =
        .error (.ofFault target.path cause) := rfl
    exact (response_status hr).trans (Refusal.status_ofFault target.path cause)
  | moved =>
    have hlocation := noControl_directoryForm hp hq
    simp [Verdict.AnsweredBy, Verdict.response, Verdict.result, Response.redirect_eq hlocation,
      Response.header?, Response.text]
  | file steps place content =>
    rw [Verdict.AnsweredBy, response_file types, types]
  | listing steps place =>
    exact response_listing steps place

theorem load_ne_listingDenied (isHead : Bool) (shown : String) :
    (load t site target isHead).result ≠ .error (.listingDenied shown) := by
  obtain ⟨v, h⟩ := exists_denotes t site target.path
  rw [load_result isHead h]
  cases v with
  | unreadable cause =>
    rcases Refusal.ofFault_cases target.path cause with hr | hr
    · simp [Verdict.result, hr]
    · simp [Verdict.result, hr]
  | _ => simp [Verdict.result]

theorem status_eq_400_iff {r : Response} (h : v.AnsweredBy t site target r) :
    r.status = 400 ↔ v = .malformed := by
  cases v with
  | malformed => exact iff_of_true h rfl
  | unreadable cause =>
    simp only [Verdict.AnsweredBy] at h
    split at h
    · simp [h]
    · simp [h]
  | _ =>
    simp only [Verdict.AnsweredBy] at h
    simp [h, Response.carrying]

theorem malformed_iff (h : Denotes t site path v) :
    v = .malformed ↔ RequestPath.translate? path = none := by
  constructor
  · rintro rfl
    cases h with
    | malformed hn => exact hn
  · intro hn
    have htarget : Denotes t site (Target.mk path none).path v := h
    have hr := load_result false htarget
    simp only [load, hn, Outcome.refuse] at hr
    cases v with
    | malformed => rfl
    | unreadable cause =>
      rcases Refusal.ofFault_cases path cause with hf | hf
      · simp [Verdict.result, hf] at hr
      · simp [Verdict.result, hf] at hr
    | _ => simp [Verdict.result] at hr

end Answers

/-- A `GET` is answered by what its path denotes. Nothing else goes wrong: a path that leads
to a node can be spelled without links, unless a path that is looked up on the way is too
long, and no listing fails. -/
theorem status_by_denotation {t₀ t : FileTree} {settings : Settings} {steps : List Name}
    {site : Site} (made : Site.make t₀ settings steps = .ok site)
    (r : Request) (peer : SocketAddr) (timing : Timing) (hm : r.method = .get)
    (hp : NoControl r.target.path) (hq : ∀ q, r.target.query = some q → NoControl q) :
    (∃ v, Denotes t site r.target.path v) ∧
      (∀ v, Denotes t site r.target.path v →
        v.AnsweredBy t site r.target (Exchange.handle t site r peer timing).response) ∧
      ((Exchange.handle t site r peer timing).response.status = 400 ↔
        ∀ s : String, '\x00' ∉ s.toList → Percent.decode (utf8 r.target.path) ≠ utf8 s) ∧
      (∀ path place, t.resolve path = .ok place →
        t.canonicalize path = .ok place ∨ ∃ seen, t.Leads maxLinks [] path seen place ∧
          ∃ p ∈ seen, maxPathLength < Path.textLength p) ∧
      ∀ shown, (load t site r.target false).result ≠ .error (.listingDenied shown) := by
  have hanswer : ∀ v, Denotes t site r.target.path v →
      v.AnsweredBy t site r.target (Exchange.handle t site r peer timing).response := by
    intro v h
    rw [handle_response hm h]
    exact answeredBy_response (Site.types_of_make made) hp hq
  obtain ⟨v, h⟩ := exists_denotes t site r.target.path
  refine ⟨⟨v, h⟩, hanswer, ?_, fun _ _ => canonicalize_of_resolve, load_ne_listingDenied false⟩
  rw [status_eq_400_iff (hanswer v h), malformed_iff h, RequestPath.translate?_eq_none_iff]

/-- A root that is its own child, with an index that is a link to a page. -/
def selfChild : FileTree :=
  ⟨[([utf8 "www"], .directory), ([utf8 "www", utf8 "a"], .link (utf8 ".")),
    ([utf8 "www", utf8 "index.html"], .link (utf8 "page")),
    ([utf8 "www", utf8 "page"], .file (utf8 "shown"))]⟩

theorem status_by_denotation_selfChild :
    Site.make selfChild .defaults [utf8 "www"] = .ok .www ∧
      Denotes selfChild Site.www "/"
        (.file [utf8 "www", utf8 "index.html"] [utf8 "www", utf8 "page"] (utf8 "shown")) ∧
      (Exchange.handle selfChild Site.www ⟨.get, ⟨"/", none⟩, .http11, []⟩
        .neighbour ⟨⟨0, 0, 0⟩, 0⟩).response =
          .carrying "text/html" (utf8 "shown") false := by
  have made : Site.make selfChild .defaults [utf8 "www"] = .ok .www := rfl
  have top : Site.www.Admits selfChild (Site.www.root ++ RequestPath.steps []) [utf8 "www"] :=
    Site.admits_iff.mpr ⟨rfl, rfl, List.prefix_rfl, List.not_mem_nil⟩
  have names : RequestPath.translate? "/" = some [] := rfl
  have index : Site.www.Admits selfChild [utf8 "www", utf8 "index.html"]
      [utf8 "www", utf8 "page"] :=
    Site.admits_iff.mpr ⟨rfl, rfl, ⟨[utf8 "page"], rfl⟩, List.not_mem_nil⟩
  have first : findIndex selfChild [utf8 "www"] Site.www.settings.serve.indexFiles =
      some [utf8 "www", utf8 "index.html"] := rfl
  have denotes : Denotes selfChild Site.www "/"
      (.file [utf8 "www", utf8 "index.html"] [utf8 "www", utf8 "page"] (utf8 "shown")) :=
    .index (.of_names names top rfl) rfl (findIndex_eq_some_iff.mp first) index
      (index.holds_node rfl)
  have plain : NoControl "/" := by decide
  have noQuery : ∀ q, (none : Option String) = some q → NoControl q := by
    intro q h
    cases h
  obtain ⟨_, answered, _⟩ := status_by_denotation made ⟨.get, ⟨"/", none⟩, .http11, []⟩
    .neighbour ⟨⟨0, 0, 0⟩, 0⟩ rfl plain noQuery
  exact ⟨made, denotes, answered _ denotes⟩

def deepTree : FileTree :=
  ⟨([utf8 "www"], .directory) :: deepFile (utf8 "kept") 16 [utf8 "www"]⟩

/-- The place of the file at the bottom. -/
def deepPlace : Location := [utf8 "www"] ++ List.replicate 16 longName ++ [utf8 "f"]

theorem at?_deepTree :
    ∀ e ∈ deepFile (utf8 "kept") 16 [utf8 "www"], deepTree.at? e.1 = some e.2 := by
  have h := at?_deepFile (utf8 "kept") 16 [utf8 "www"] []
  rwa [List.append_nil] at h

theorem at?_deepPlace : deepTree.at? deepPlace = some (.file (utf8 "kept")) :=
  at?_deepTree (deepPlace, _) mem_deepFile

theorem resolve_deepTree :
    deepTree.resolve (Site.www.root ++ RequestPath.location (List.replicate 16 "a" ++ ["f"])) =
      .ok deepPlace := by
  have hwww : Plain (utf8 "www") := ⟨by decide, by decide, by decide⟩
  have hroot : deepTree.at? ([] ++ [utf8 "www"]) = some .directory := rfl
  obtain ⟨seen, hl⟩ := leads_deepFile 24 at?_deepTree
  have hpath : Site.www.root ++ RequestPath.location (List.replicate 16 "a" ++ ["f"]) =
      utf8 "www" :: (List.replicate 16 (utf8 "a") ++ [utf8 "f"]) := by
    simp [Site.www, RequestPath.location]
  rw [hpath]
  exact resolve_eq_ok_iff.mpr ⟨rfl, _, .directory hwww hroot hl⟩

theorem textLength_deepPlace : maxPathLength < Path.textLength deepPlace := by
  rw [deepPlace, Path.textLength_append, Path.textLength_append, Path.textLength_replicate,
    longName, List.length_replicate]
  decide

/-- The file is there, but it is refused, because its place is looked up by too long a path. -/
theorem not_admits_deepTree (place : Location) :
    ¬Site.www.Admits deepTree
      (Site.www.root ++ RequestPath.steps (List.replicate 16 "a" ++ ["f"])) place := by
  intro h
  rw [RequestPath.steps_of_ne_nil (by simp)] at h
  obtain rfl : place = deepPlace := Except.ok.inj (h.found.symm.trans resolve_deepTree)
  exact absurd (h.fits at?_deepPlace rfl) (Nat.not_le.mpr textLength_deepPlace)

theorem denotes_deepTree :
    Denotes deepTree Site.www "/a/a/a/a/a/a/a/a/a/a/a/a/a/a/a/a/f" .missing := by
  have names : RequestPath.translate? "/a/a/a/a/a/a/a/a/a/a/a/a/a/a/a/a/f" =
      some (List.replicate 16 "a" ++ ["f"]) := rfl
  exact .missing names not_admits_deepTree

/-- The root under as many of its names as links may be followed. -/
def fortyLinks : String := String.ofList ((List.replicate 40 ['/', 'a']).flatten ++ ['/'])

set_option maxRecDepth 4096 in
theorem translate?_fortyLinks :
    RequestPath.translate? fortyLinks = some (List.replicate 40 "a") := by
  rfl

set_option maxRecDepth 4096 in
theorem denotes_fortyLinks :
    Denotes selfChild Site.www fortyLinks
      (.listing (Site.www.root ++ RequestPath.location (List.replicate 40 "a")) Site.www.root) := by
  have top : Site.www.Admits selfChild
      (Site.www.root ++ RequestPath.steps (List.replicate 40 "a")) Site.www.root :=
    Site.admits_iff.mpr ⟨rfl, rfl, List.prefix_rfl, List.not_mem_nil⟩
  have noIndex : findIndex selfChild
      (Site.www.root ++ RequestPath.location (List.replicate 40 "a"))
      Site.www.settings.serve.indexFiles = none := rfl
  have asks := Asks.of_names translate?_fortyLinks top rfl
  exact .listing asks rfl (findIndex_eq_none_iff.mp noIndex) rfl

/-- A file that is found under the root is missing, and a directory whose index is found
from it is listed: the first is too deep, and the other is asked for over forty links. What is
neither a file nor a directory is sent if it can be read. -/
theorem found_is_not_always_served :
    (Site.make deepTree .defaults [utf8 "www"] = .ok .www ∧
      RequestPath.translate? "/a/a/a/a/a/a/a/a/a/a/a/a/a/a/a/a/f" =
        some (List.replicate 16 "a" ++ ["f"]) ∧
      deepTree.resolve (Site.www.root ++ RequestPath.location (List.replicate 16 "a" ++ ["f"])) =
        .ok deepPlace ∧
      deepTree.at? deepPlace = some (.file (utf8 "kept")) ∧
      Site.www.root <+: deepPlace ∧ deepPlace ∉ Site.www.hidden ∧
      (Exchange.handle deepTree Site.www
        ⟨.get, ⟨"/a/a/a/a/a/a/a/a/a/a/a/a/a/a/a/a/f", none⟩, .http11, []⟩
        .neighbour ⟨⟨0, 0, 0⟩, 0⟩).response.status = 404) ∧
    (Site.make onlyDevice .defaults [utf8 "www"] = .ok .www ∧
      onlyDevice.at? [utf8 "www", utf8 "null"] = some .nullDevice ∧
      (Exchange.handle onlyDevice .www ⟨.get, ⟨"/null", none⟩, .http11, []⟩
        .neighbour ⟨⟨0, 0, 0⟩, 0⟩).response.status = 200) ∧
    Site.make selfChild .defaults [utf8 "www"] = .ok .www ∧
      RequestPath.translate? fortyLinks = some (List.replicate 40 "a") ∧
      selfChild.resolve (Site.www.root ++ RequestPath.location (List.replicate 40 "a")) =
        .ok Site.www.root ∧
      selfChild.resolve (Path.join Site.www.root (utf8 "index.html")) =
        .ok [utf8 "www", utf8 "page"] ∧
      selfChild.at? [utf8 "www", utf8 "page"] = some (.file (utf8 "shown")) ∧
      (Exchange.handle selfChild Site.www ⟨.get, ⟨fortyLinks, none⟩, .http11, []⟩
        .neighbour ⟨⟨0, 0, 0⟩, 0⟩).response.header? "content-type" =
          some (utf8 Response.htmlType) := by
  have within : Site.www.root <+: deepPlace :=
    (List.prefix_append _ _).trans (List.prefix_append _ _)
  refine ⟨⟨rfl, rfl, resolve_deepTree, at?_deepPlace, within, List.not_mem_nil, ?_⟩,
    ⟨rfl, rfl, ?_⟩, rfl, translate?_fortyLinks, ?_, rfl, rfl, ?_⟩
  · rw [handle_response rfl denotes_deepTree]
    exact status_of_missing
  · rw [handle_response rfl denotes_onlyDevice, response_file rfl]
    rfl
  · cases denotes_fortyLinks with
    | listing ha _ _ _ => exact ha.admitted.found
  · rw [handle_response rfl denotes_fortyLinks]
    exact type_of_listing _ _

end DocRoot
