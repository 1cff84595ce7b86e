import DocRoot.Proofs.ContentType
import DocRoot.Proofs.Serving.Denotes
import DocRoot.Proofs.Serving.Run

/-!
# Nothing outside is served

A response that carries content carries that of a node under the root that is not
hidden, on the files as they are when it is answered. The node is a file, or one of
another kind that could be read to its end. A listing is told from a file by its content
type, which no file of a made site has.
-/

set_option autoImplicit false

namespace DocRoot

open Http FileTree

namespace Http.Response

def IsListing (r : Response) : Prop :=
  r.status = 200 ∧ r.header? "content-type" = some (utf8 htmlType)

def CarriesFile (r : Response) : Prop :=
  r.status = 200 ∧ ∃ type, r.header? "content-type" = some type ∧ type ≠ utf8 htmlType

/-- The response to this method that carries these bytes, or for `HEAD` tells their number. -/
structure Carries (r : Response) (method : Method) (data : Bytes) : Prop where
  length : r.header? "content-length" = some (utf8 (toString data.length))
  body : r.body = if method = .head then [] else data

end Http.Response

/-- The node at a place is one that clients may see. -/
structure Site.Offers (site : Site) (t : FileTree) (place : Location) (n : Node) : Prop where
  reached : ∃ steps, t.canonicalize steps = .ok place
  held : t.Holds place n
  within : site.root <+: place
  shown : place ∉ site.hidden

/-- Reading what clients may see at a place gives these bytes. It is a file with this content,
or neither a file nor a directory, and what the system makes of reading it. -/
inductive Site.Shares (site : Site) (t : FileTree) (place : Location) : Bytes → Prop
  | file {content : Bytes} :
      site.Offers t place (.file content) → Shares site t place content
  | special {s : Special} {content : Bytes} :
      site.Offers t place (.special s) → s.reading = .content content → Shares site t place content

theorem Site.Admits.offers {site : Site} {t : FileTree} {steps : List Name} {place : Location}
    {n : Node} (h : site.Admits t steps place) (hn : t.Holds place n) : site.Offers t place n :=
  ⟨⟨steps, h.canonical⟩, hn, h.within, h.shown⟩

/-- All that a response shows of the files is one node on offer. -/
structure Site.Contains (site : Site) (t : FileTree) (method : Method) (path : String)
    (r : Response) : Prop where
  file : r.CarriesFile → ∃ place content,
    site.Shares t place content ∧ r.Carries method content
  listing : r.IsListing → ∃ dir place, t.canonicalize dir = .ok place ∧
    site.Offers t place .directory ∧
    r.Carries method (utf8 (Serving.Verdict.page t site path dir place))
  other : r.status = 200 → r.CarriesFile ∨ r.IsListing ∨ r.headers = [] ∧ r.body = []

section Verdicts
variable {t : FileTree} {site : Site} {target : Target} {method : Method} {isHead : Bool}
  {path : String} {r : Response} {v : Serving.Verdict}

theorem Site.Contains.of_status (h : r.status ≠ 200) : site.Contains t method path r where
  file := fun hf => absurd hf.1 h
  listing := fun hl => absurd hl.1 h
  other := fun hs => absurd hs h

theorem Site.Contains.refused (refusal : Refusal) :
    site.Contains t method path (Response.error refusal.status refusal.message isHead).1 := by
  apply Site.Contains.of_status
  rw [Response.error_status]
  cases refusal <;> simp [Refusal.status]

theorem Site.Contains.bare : site.Contains t method path ⟨200, [], []⟩ where
  file := by
    rintro ⟨_, type, htype, _⟩
    cases htype
  listing := by
    rintro ⟨_, htype⟩
    cases htype
  other := fun _ => Or.inr (Or.inr ⟨rfl, rfl⟩)

theorem carries_carrying (type : String) (data : Bytes) (h : isHead = decide (method = .head)) :
    (Response.carrying type data isHead).Carries method data where
  length := Response.carrying_length type data isHead
  body := by simp [Response.carrying, h]

/-- A redirect that cannot be written down is sent bare, with the status of a success. -/
theorem redirect_cases (location : String) :
    (Response.redirect location).1.status = 301 ∨
      (Response.redirect location).1 = ⟨200, [], []⟩ := by
  unfold Response.redirect Response.assemble
  split
  · exact Or.inl rfl
  · exact Or.inr rfl

namespace Serving

theorem handle_response {r : Request} {peer : SocketAddr} {timing : Timing} (hm : r.method = .get)
    (h : Denotes t site r.target.path v) :
    (Exchange.handle t site r peer timing).response = v.response t site r.target false := by
  simp only [Exchange.handle, hm, answer, serve_response h]

theorem response_file (types : site.types = .standard) (steps : List Name) (place : Location)
    (content : Bytes) :
    (Verdict.file steps place content).response t site target isHead =
      .carrying (ContentType.Table.standard.ofSteps steps) content isHead := by
  have hplain := ContentType.Table.noControl_standard_ofSteps steps
  simp only [Verdict.response, Verdict.result, types, Response.ofFile_eq hplain]

theorem response_listing (steps : List Name) (place : Location) :
    (Verdict.listing steps place).response t site target isHead =
      .carrying Response.htmlType (utf8 (Verdict.page t site target.path steps place)) isHead := by
  simp only [Verdict.response, Verdict.result, Response.ofListing,
    Response.ofFile_eq Response.noControl_htmlType]

theorem standard_ofSteps_ne (steps : List Name) :
    utf8 (ContentType.Table.standard.ofSteps steps) ≠ utf8 Response.htmlType :=
  fun he => ContentType.Table.standard_ofSteps_ne_htmlType steps (utf8_injective he)

theorem denotes_file {steps : List Name} {place : Location} {content : Bytes}
    (h : Denotes t site path (.file steps place content)) : site.Shares t place content := by
  cases h with
  | index _ _ _ hadm hf => exact .file (hadm.offers hf)
  | file ha _ => exact .file (ha.admitted.offers ha.held)
  | special ha _ hc => exact .special (ha.admitted.offers ha.held) hc

theorem denotes_listing {steps : List Name} {place : Location}
    (h : Denotes t site path (.listing steps place)) :
    t.canonicalize steps = .ok place ∧ site.Offers t place .directory := by
  cases h with
  | listing ha _ _ _ => exact ⟨ha.admitted.canonical, ha.admitted.offers ha.held⟩

theorem contains_refused {refusal : Refusal} (h : v.result t site target isHead = .error refusal) :
    site.Contains t method path (v.response t site target isHead) := by
  rw [Verdict.response_of_refusal h]
  exact .refused refusal

theorem contains_file (types : site.types = .standard) {steps : List Name} {place : Location}
    {content : Bytes} (h : Denotes t site target.path (.file steps place content))
    (hm : isHead = decide (method = .head)) :
    site.Contains t method target.path
      (Verdict.response t site target isHead (.file steps place content)) := by
  have hne := standard_ofSteps_ne steps
  rw [response_file types]
  refine ⟨?_, ?_, ?_⟩
  · intro _
    exact ⟨place, content, denotes_file h, carries_carrying _ content hm⟩
  · rintro ⟨_, htype⟩
    rw [Response.carrying_type] at htype
    exact absurd (Option.some.inj htype) hne
  · intro _
    exact Or.inl ⟨rfl, _, Response.carrying_type _ content isHead, hne⟩

theorem contains_listing {steps : List Name} {place : Location}
    (h : Denotes t site target.path (.listing steps place))
    (hm : isHead = decide (method = .head)) :
    site.Contains t method target.path
      (Verdict.response t site target isHead (.listing steps place)) := by
  obtain ⟨hfound, hoffered⟩ := denotes_listing h
  rw [response_listing]
  refine ⟨?_, ?_, ?_⟩
  · rintro ⟨_, type, htype, hne⟩
    rw [Response.carrying_type] at htype
    exact absurd (Option.some.inj htype).symm hne
  · intro _
    exact ⟨steps, place, hfound, hoffered, carries_carrying _ _ hm⟩
  · intro _
    exact Or.inr (Or.inl ⟨rfl, Response.carrying_type _ _ isHead⟩)

theorem contains_serve (types : site.types = .standard) (target : Target)
    (hm : isHead = decide (method = .head)) :
    site.Contains t method target.path (serve t site target isHead).1 := by
  obtain ⟨v, h⟩ := exists_denotes t site target.path
  rw [serve_response h]
  cases v with
  | malformed => exact contains_refused rfl
  | missing => exact contains_refused rfl
  | unreadable => exact contains_refused rfl
  | moved =>
    rcases redirect_cases (RequestPath.directoryForm target.path target.query) with hs | hb
    · exact .of_status (by simp [Verdict.response, Verdict.result, hs])
    · simpa only [Verdict.response, Verdict.result, hb] using Site.Contains.bare
  | file steps place content => exact contains_file types h hm
  | listing steps place => exact contains_listing h hm

theorem contains_answer (types : site.types = .standard) (method : Method) (target : Target) :
    site.Contains t method target.path (answer t site method target).1 := by
  cases method with
  | get => exact contains_serve types target (by simp)
  | head => exact contains_serve types target (by simp)
  | other token => exact .refused (.unsupportedMethod token)

end Serving

end Verdicts

/-- Over a whole run of requests and changes of the files, each answer shows at most one
node under the root that is not hidden. -/
theorem run_stays_within_root {t : FileTree} {settings : Settings} {steps : List Name}
    {site : Site} (made : Site.make t settings steps = .ok site) (events : List Event) :
    ∀ x ∈ site.run t events,
      site.Contains x.files x.request.method x.request.target.path x.response := by
  refine Site.forall_run ?_ t events
  intro t r peer timing
  exact Serving.contains_answer (Site.types_of_make made) r.method r.target

/-- A root with a page and a way out of it, to a key that lies beside the root. -/
def besideKey (page : Node) : FileTree :=
  ⟨[([utf8 "www"], .directory), ([utf8 "www", utf8 "page"], page),
    ([utf8 "www", utf8 "out"], .link (utf8 "../key")), ([utf8 "key"], .file (utf8 "kept"))]⟩

/-- The page is asked for, turned into a link to the way out, and asked for again. -/
def pageTwice : List Event :=
  [.request ⟨.get, ⟨"/page", none⟩, .http11, []⟩ .neighbour ⟨⟨0, 0, 0⟩, 0⟩,
    .files (besideKey (.link (utf8 "out"))),
    .request ⟨.get, ⟨"/page", none⟩, .http11, []⟩ .neighbour ⟨⟨1, 0, 0⟩, 0⟩]

theorem run_stays_within_root_besideKey :
    Site.make (besideKey (.file (utf8 "shown"))) .defaults [utf8 "www"] = .ok .www ∧
      ∀ x ∈ Site.www.run (besideKey (.file (utf8 "shown"))) pageTwice,
        Site.www.Contains x.files x.request.method x.request.target.path x.response := by
  have made : Site.make (besideKey (.file (utf8 "shown"))) .defaults [utf8 "www"] = .ok .www := rfl
  exact ⟨made, run_stays_within_root made pageTwice⟩

/-- A root that holds nothing but a device that reads as empty. -/
def onlyDevice : FileTree :=
  ⟨[([utf8 "www"], .directory), ([utf8 "www", utf8 "null"], .nullDevice)]⟩

theorem denotes_onlyDevice :
    Serving.Denotes onlyDevice Site.www "/null"
      (.file [utf8 "www", utf8 "null"] [utf8 "www", utf8 "null"] []) := by
  have names : RequestPath.translate? "/null" = some ["null"] := rfl
  have adm : Site.www.Admits onlyDevice (Site.www.root ++ RequestPath.steps ["null"])
      [utf8 "www", utf8 "null"] :=
    Site.admits_iff.mpr ⟨rfl, rfl, ⟨[utf8 "null"], rfl⟩, List.not_mem_nil⟩
  exact .special (.of_names names adm rfl) rfl rfl

/-- What is sent need not be the content of a file: a device is read like one. -/
theorem a_device_is_served_like_a_file :
    Site.make onlyDevice .defaults [utf8 "www"] = .ok .www ∧
      (Exchange.handle onlyDevice .www ⟨.get, ⟨"/null", none⟩, .http11, []⟩ .neighbour
        ⟨⟨0, 0, 0⟩, 0⟩).response.CarriesFile ∧
      ∀ place content, ¬Site.www.Offers onlyDevice place (.file content) := by
  refine ⟨rfl, ?_, ?_⟩
  · rw [Serving.handle_response rfl denotes_onlyDevice, Serving.response_file rfl]
    exact ⟨rfl, _, Response.carrying_type _ _ _, Serving.standard_ofSteps_ne _⟩
  · intro place content offered
    have hfile := offered.held.node
    by_cases hne : place = []
    · subst hne
      cases hfile
    · have hmem := mem_nodes_of_at? hne hfile
      simp [onlyDevice, Node.nullDevice] at hmem

end DocRoot
