import DocRoot.Proofs.Http.Target
import DocRoot.Proofs.RequestPath
import DocRoot.Proofs.Serving.Redirect

/-!
# One redirect is enough

The location of a redirect is a target again, and its path spells the names that the first
path spelled. So it asks for the same directory, now with the slash at its end.
-/

set_option autoImplicit false

namespace DocRoot

open Http Serving

namespace RequestPath

variable {path : String} {query : Option String}

theorem directoryForm_eq_text (path : String) (query : Option String) :
    directoryForm path query = Target.text ⟨directoryForm path none, query⟩ := by
  cases query <;> rfl

theorem directoryForm_eq_append (path : String) :
    directoryForm path none = "/" ++ String.ofList (path.toList.dropWhile (· = '/')) ++ "/" := by
  apply String.toList_inj.mp
  simp [directoryForm]

theorem endsInSlash_directoryForm (path : String) :
    endsInSlash (directoryForm path none) = true := by
  simp [endsInSlash, directoryForm, List.getLast?_cons]

/-- Slashes in front are empty pieces, which are passed over. -/
theorem translate?_dropWhile_slash (text : List Char) :
    translate? (String.ofList (text.dropWhile (· = '/'))) = translate? (String.ofList text) := by
  induction text with
  | nil => rfl
  | cons c text ih =>
    by_cases hc : c = '/'
    · subst hc
      have hcons : String.ofList ('/' :: text) = "/" ++ String.ofList text := by
        apply String.toList_inj.mp
        simp
      rw [List.dropWhile_cons_of_pos (by simp), ih, hcons, translate?_slash_append]
    · rw [List.dropWhile_cons_of_neg (by simpa using hc)]

theorem translate?_directoryForm (path : String) :
    translate? (directoryForm path none) = translate? path := by
  rw [directoryForm_eq_append, translate?_append_slash_end, translate?_slash_append,
    translate?_dropWhile_slash, String.ofList_toList]

/-- A path that does not end in a slash has a start, so its directory form begins with one
slash and no more. -/
theorem directoryForm_starts_once (hs : endsInSlash path = false) (hne : path ≠ "") :
    (directoryForm path none).toList[0]? = some '/' ∧
      (directoryForm path none).toList[1]? ≠ some '/' := by
  obtain ⟨rest, hl, hr⟩ := toList_directoryForm path none
  rw [hl]
  refine ⟨rfl, ?_⟩
  rw [List.getElem?_cons_succ, ← List.head?_eq_getElem?, hr]
  cases hp : start? path with
  | none => exact absurd (eq_empty_of_start?_eq_none hp hs) hne
  | some c =>
    rintro ⟨rfl⟩
    exact start?_ne_slash path hp

end RequestPath

namespace Http.Target

theorem legal_directoryForm {target : Target} (h : target.Legal) :
    Legal ⟨RequestPath.directoryForm target.path none, target.query⟩ where
  path := by
    rw [RequestPath.directoryForm_eq_append, utf8_append, utf8_append, List.all_append,
      List.all_append, all_slash, Bool.true_and, Bool.and_true]
    apply List.all_eq_true.mpr
    intro b hb
    rw [utf8, String.toList_ofList] at hb
    obtain ⟨c, hc, hbc⟩ := List.mem_flatMap.mp hb
    have hb : b ∈ utf8 target.path :=
      List.mem_flatMap.mpr ⟨c, (List.dropWhile_suffix _).mem hc, hbc⟩
    exact List.all_eq_true.mp h.path b hb
  query := h.query

end Http.Target

namespace Serving

variable {t : FileTree} {site : Site} {target : Target} {isHead : Bool} {steps : List Name}
  {place : Location} {method : Method}

theorem status_file (steps : List Name) (place : Location) (content : Bytes) :
    ((Verdict.file steps place content).response t site target isHead).status = 200 :=
  Response.ofFile_status _ _ isHead

theorem status_listing (steps : List Name) (place : Location) :
    ((Verdict.listing steps place).response t site target isHead).status = 200 :=
  Response.ofFile_status _ _ isHead

theorem status_of_slashed_directory (ha : Asks t site target.path steps place .directory)
    (hs : RequestPath.endsInSlash target.path = true) :
    (serve t site target isHead).1.status = 200 ∨
      (serve t site target isHead).1.status = 404 := by
  obtain ⟨v, hv⟩ := exists_denotes t site target.path
  rw [serve_response hv]
  rcases hv.of_slashed_directory ha hs with ⟨index, _, hindex⟩ | ⟨_, rfl⟩
  · rcases hindex with ⟨indexPlace, content, _, _, rfl⟩ | ⟨_, rfl⟩
    · exact .inl (status_file index indexPlace content)
    · exact .inr status_of_missing
  · split
    · exact .inl (status_listing steps place)
    · exact .inr status_of_missing

theorem answer_slashed_directory (ha : Asks t site target.path steps place .directory)
    (hs : RequestPath.endsInSlash target.path = true) (hm : method = .get ∨ method = .head) :
    (answer t site method target).1.status = 200 ∨
      (answer t site method target).1.status = 404 := by
  rcases hm with rfl | rfl
  · exact status_of_slashed_directory ha hs
  · exact status_of_slashed_directory ha hs

theorem asks_of_serve_moved (h : (serve t site target isHead).1.status = 301) :
    ∃ steps place, Asks t site target.path steps place .directory := by
  obtain ⟨v, hv⟩ := exists_denotes t site target.path
  rw [serve_response hv] at h
  obtain rfl := eq_moved_of_status h
  cases hv with
  | moved ha _ => exact ⟨_, _, ha⟩

theorem asks_of_answer_moved (h : (answer t site method target).1.status = 301) :
    ∃ steps place, Asks t site target.path steps place .directory := by
  cases method with
  | get => exact asks_of_serve_moved h
  | head => exact asks_of_serve_moved h
  | other token =>
    have hs : (answer t site (.other token) target).1.status = 501 := Response.error_status ..
    rw [hs] at h
    cases h

theorem handle_of_moved {r : Request} {peer : SocketAddr} {timing : Timing}
    (hm : r.method = .get ∨ r.method = .head) (h : Denotes t site r.target.path .moved)
    (plain : NoControl (RequestPath.directoryForm r.target.path r.target.query)) :
    (Exchange.handle t site r peer timing).response.status = 301 := by
  rcases hm with hm | hm
  · simp only [Exchange.handle, hm, answer, serve_of_moved h plain]
  · simp only [Exchange.handle, hm, answer, serve_of_moved h plain]

end Serving

/-- A redirect from a path that begins with a slash leads to a target with the same query and
the same names, which asks for the same directory and is not redirected again. -/
theorem redirects_converge (t : FileTree) (site : Site) (r : Request) (peer : SocketAddr)
    (timing : Timing) {raw : Bytes} (parsed : Target.parse raw = .ok r.target)
    (slash : r.target.path.toList.head? = some '/')
    (moved : (Exchange.handle t site r peer timing).response.status = 301) :
    ∃ next : Target,
      (Exchange.handle t site r peer timing).response.header? "location" =
        some (utf8 next.text) ∧
      ((utf8 next.text).length ≤ Target.maxLength →
        Target.parse (utf8 next.text) = .ok next) ∧
      next.query = r.target.query ∧
      next.path.toList[0]? = some '/' ∧ next.path.toList[1]? ≠ some '/' ∧
      RequestPath.endsInSlash next.path = true ∧
      RequestPath.translate? next.path = RequestPath.translate? r.target.path ∧
      (∃ steps place, Asks t site r.target.path steps place .directory ∧
        Asks t site next.path steps place .directory) ∧
      ∀ r' peer' timing', r'.target = next → r'.method = .get ∨ r'.method = .head →
        (Exchange.handle t site r' peer' timing').response.status = 200 ∨
          (Exchange.handle t site r' peer' timing').response.status = 404 := by
  obtain ⟨hs, hlocation⟩ := answer_moved moved
  obtain ⟨steps, place, ha⟩ := asks_of_answer_moved moved
  have hne : r.target.path ≠ "" := by
    intro he
    rw [he] at slash
    cases slash
  have hnames := RequestPath.translate?_directoryForm r.target.path
  have hslash := RequestPath.endsInSlash_directoryForm r.target.path
  obtain ⟨hfirst, hsecond⟩ := RequestPath.directoryForm_starts_once hs hne
  rw [RequestPath.directoryForm_eq_text] at hlocation
  refine ⟨⟨RequestPath.directoryForm r.target.path none, r.target.query⟩, hlocation, ?_, rfl,
    hfirst, hsecond, hslash, hnames, ⟨steps, place, ha, ha.of_translate hnames⟩, ?_⟩
  · have hlegal := Target.legal_directoryForm (Target.legal_of_parse parsed)
    exact Target.parse_text hlegal (by rwa [List.head?_eq_getElem?])
  · rintro r' peer' timing' ht hm
    have ha' : Asks t site r'.target.path steps place .directory := by
      rw [ht]
      exact ha.of_translate hnames
    have hslash' : RequestPath.endsInSlash r'.target.path = true := by
      rw [ht]
      exact hslash
    exact answer_slashed_directory ha' hslash' hm

def docsTree : FileTree :=
  ⟨[([utf8 "www"], .directory), ([utf8 "www", utf8 "docs"], .directory)]⟩

/-- The directory in a roundabout spelling, with a query that is empty and not absent. -/
def docsRequest : Request := ⟨.head, ⟨"//x/%2e%2E/docs/.", some ""⟩, .http11, []⟩

theorem denotes_docs : Denotes docsTree Site.www docsRequest.target.path .moved := by
  have docs : Site.www.Admits docsTree [utf8 "www", utf8 "docs"] [utf8 "www", utf8 "docs"] :=
    Site.admits_iff.mpr ⟨rfl, rfl, ⟨[utf8 "docs"], rfl⟩, List.not_mem_nil⟩
  have names : RequestPath.translate? docsRequest.target.path = some ["docs"] := rfl
  exact .moved (.of_names names docs rfl) rfl

theorem redirects_converge_docs :
    Target.parse (utf8 "//x/%2e%2E/docs/.?#f") = .ok docsRequest.target ∧
      (Exchange.handle docsTree Site.www docsRequest .neighbour ⟨⟨0, 0, 0⟩, 0⟩).response.status =
        301 ∧
      ∃ next : Target,
        (Exchange.handle docsTree Site.www docsRequest .neighbour
          ⟨⟨0, 0, 0⟩, 0⟩).response.header? "location" = some (utf8 next.text) ∧
        next.query = some "" ∧ RequestPath.translate? next.path = some ["docs"] ∧
        ∀ r', r'.target = next → r'.method = .get →
          (Exchange.handle docsTree Site.www r' .neighbour ⟨⟨0, 0, 0⟩, 0⟩).response.status = 200 ∨
            (Exchange.handle docsTree Site.www r' .neighbour
              ⟨⟨0, 0, 0⟩, 0⟩).response.status = 404 := by
  have parsed : Target.parse (utf8 "//x/%2e%2E/docs/.?#f") = .ok docsRequest.target := rfl
  have plain : NoControl
      (RequestPath.directoryForm docsRequest.target.path docsRequest.target.query) := by
    decide
  have moved : (Exchange.handle docsTree Site.www docsRequest .neighbour
      ⟨⟨0, 0, 0⟩, 0⟩).response.status = 301 :=
    handle_of_moved (.inr rfl) denotes_docs plain
  obtain ⟨next, hlocation, _, hquery, _, _, _, hnames, _, hstatus⟩ :=
    redirects_converge docsTree Site.www docsRequest .neighbour ⟨⟨0, 0, 0⟩, 0⟩ parsed rfl moved
  refine ⟨parsed, moved, next, hlocation, hquery, hnames.trans rfl, ?_⟩
  intro r' ht hm
  exact hstatus r' .neighbour ⟨⟨0, 0, 0⟩, 0⟩ ht (.inl hm)

end DocRoot
