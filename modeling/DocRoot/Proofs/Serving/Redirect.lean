import DocRoot.Exchange
import DocRoot.Proofs.Http.Response
import DocRoot.Proofs.Http.Target
import DocRoot.Proofs.Serving.Denotes
import DocRoot.Proofs.Serving.Run
import Mathlib.Data.List.TakeWhile

/-!
# Where redirects lead

A directory asked for without a slash at its end is redirected to its path with one. The
location stays on the host unless clients read its first two characters as two slashes,
which happens to a path that begins with a backslash and to the empty path.
-/

set_option autoImplicit false

namespace DocRoot

open Http

/-- A location that begins with one slash and that no client takes for the name of a host.
Clients read a backslash there as a second slash. -/
def StaysOnHost (location : String) : Prop :=
  location.toList[0]? = some '/' ∧ location.toList[1]? ≠ some '/' ∧
    location.toList[1]? ≠ some '\\'

instance (location : String) : Decidable (StaysOnHost location) :=
  inferInstanceAs (Decidable (_ ∧ _ ∧ _))

namespace RequestPath

variable {path : String} {query : Option String}

/-- What a path begins with, the slashes in front passed over. -/
def start? (path : String) : Option Char := (path.toList.dropWhile (· = '/')).head?

theorem start?_ne_slash (path : String) : start? path ≠ some '/' := by
  intro h
  have hstop := List.head?_dropWhile_not (· = '/') path.toList
  rw [start?] at h
  simp [h] at hstop

theorem eq_empty_of_start?_eq_none (h : start? path = none) (hs : endsInSlash path = false) :
    path = "" := by
  have hall : ∀ c ∈ path.toList, c = '/' := by
    simpa [start?, List.head?_eq_none_iff, List.dropWhile_eq_nil_iff] using h
  apply String.toList_inj.mp
  cases hl : path.toList.getLast? with
  | none => exact List.getLast?_eq_none_iff.mp hl
  | some c =>
    obtain rfl := hall c (List.mem_of_getLast? hl)
    simp [endsInSlash, hl] at hs

/-- After the first slash the location goes on with the start of the path, and if there is
none with a second slash. -/
theorem toList_directoryForm (path : String) (query : Option String) :
    ∃ rest, (directoryForm path query).toList = '/' :: rest ∧
      rest.head? = some ((start? path).getD '/') := by
  have hbody : ∀ tail, (path.toList.dropWhile (· = '/') ++ '/' :: tail).head? =
      some ((start? path).getD '/') := by
    intro tail
    rw [start?, List.head?_append]
    cases (path.toList.dropWhile (· = '/')).head? <;> rfl
  cases query with
  | none => exact ⟨_, by simp [directoryForm], hbody []⟩
  | some q => exact ⟨_, by simp [directoryForm], hbody ('?' :: q.toList)⟩

theorem staysOnHost_directoryForm_iff (hs : endsInSlash path = false) :
    StaysOnHost (directoryForm path query) ↔ path ≠ "" ∧ start? path ≠ some '\\' := by
  obtain ⟨rest, hl, hr⟩ := toList_directoryForm path query
  simp only [StaysOnHost, hl, List.getElem?_cons_succ, ← List.head?_eq_getElem?, hr, ne_eq,
    Option.some.injEq]
  cases hp : start? path with
  | none => simp [eq_empty_of_start?_eq_none hp hs]
  | some c =>
    have hc : c ≠ '/' := fun he => start?_ne_slash path (he ▸ hp)
    have hne : path ≠ "" := by
      rintro rfl
      cases hp
    simp [hc, hne]

end RequestPath

namespace Http.Response

theorem redirect_location {location : String} (h : (redirect location).1.status = 301) :
    (redirect location).1.header? "location" = some (utf8 location) := by
  unfold redirect assemble at h ⊢
  split at h
  · rename_i hall
    rw [if_pos hall]
    simp [header?, text]
  · cases h

theorem ofFile_status (data : Bytes) (type : String) (isHead : Bool) :
    (ofFile data type isHead).1.status = 200 := by
  unfold ofFile assemble
  split <;> rfl

end Http.Response

namespace Serving

section Moved
variable {t : FileTree} {site : Site} {target : Target} {isHead : Bool} {v : Verdict}

theorem status_of_refusal_ne {refusal : Refusal}
    (h : v.result t site target isHead = .error refusal) :
    (v.response t site target isHead).status ≠ 301 := by
  rw [response_status h]
  cases refusal <;> simp [Refusal.status]

/-- Only a directory asked for without a slash at the end is redirected. -/
theorem eq_moved_of_status (h : (v.response t site target isHead).status = 301) :
    v = .moved := by
  cases v with
  | moved => rfl
  | malformed => exact absurd h (status_of_refusal_ne rfl)
  | missing => exact absurd h (status_of_refusal_ne rfl)
  | unreadable => exact absurd h (status_of_refusal_ne rfl)
  | file steps place content =>
    simp [Verdict.response, Verdict.result, Response.ofFile_status] at h
  | listing steps place =>
    simp [Verdict.response, Verdict.result, Response.ofListing, Response.ofFile_status] at h

theorem serve_moved (h : (serve t site target isHead).1.status = 301) :
    RequestPath.endsInSlash target.path = false ∧
      (serve t site target isHead).1.header? "location" =
        some (utf8 (RequestPath.directoryForm target.path target.query)) := by
  obtain ⟨v, hv⟩ := exists_denotes t site target.path
  rw [serve_response hv] at h ⊢
  obtain rfl := eq_moved_of_status h
  simp only [Verdict.response, Verdict.result] at h ⊢
  refine ⟨?_, Response.redirect_location h⟩
  cases hv with
  | moved _ hs => exact hs

theorem serve_of_moved (h : Denotes t site target.path .moved)
    (plain : NoControl (RequestPath.directoryForm target.path target.query)) :
    (serve t site target isHead).1 =
      ⟨301, [Response.text "location" (RequestPath.directoryForm target.path target.query),
        Response.count "content-length" 0], []⟩ := by
  rw [serve_response h]
  simp only [Verdict.response, Verdict.result, Response.redirect_eq plain]

theorem answer_moved {method : Method} (h : (answer t site method target).1.status = 301) :
    RequestPath.endsInSlash target.path = false ∧
      (answer t site method target).1.header? "location" =
        some (utf8 (RequestPath.directoryForm target.path target.query)) := by
  cases method with
  | get => exact serve_moved h
  | head => exact serve_moved h
  | other token =>
    have hs : (answer t site (.other token) target).1.status = 501 := Response.error_status ..
    rw [hs] at h
    cases h

end Moved

end Serving

/-- A redirect stays on the host, unless the path is empty, as it is where the target is an
authority alone, or begins with a backslash. -/
theorem redirect_stays_on_host_iff (t : FileTree) (site : Site) (r : Request)
    (peer : SocketAddr) (timing : Timing)
    (moved : (Exchange.handle t site r peer timing).response.status = 301) :
    ∃ location,
      (Exchange.handle t site r peer timing).response.header? "location" =
        some (utf8 location) ∧
      (StaysOnHost location ↔
        r.target.path ≠ "" ∧ RequestPath.start? r.target.path ≠ some '\\') ∧
      ∀ raw, Target.parse raw = .ok r.target →
        (r.target.path = "" ↔ Target.IsAuthorityForm raw) := by
  obtain ⟨hs, hlocation⟩ := Serving.answer_moved moved
  exact ⟨_, hlocation, RequestPath.staysOnHost_directoryForm_iff hs,
    fun _ parsed => Target.path_eq_empty_iff parsed⟩

theorem redirected_bareRoot {path location : String} (root : RequestPath.translate? path = some [])
    (unslashed : RequestPath.endsInSlash path = false)
    (spelled : RequestPath.directoryForm path none = location) (plain : NoControl location) :
    (Exchange.handle bareRoot Site.www (Request.get path) .neighbour ⟨⟨0, 0, 0⟩, 0⟩).response =
      ⟨301, [Response.text "location" location, Response.count "content-length" 0], []⟩ := by
  subst spelled
  have top : Site.www.Admits bareRoot (Site.www.root ++ RequestPath.steps []) Site.www.root :=
    Site.admits_iff.mpr ⟨rfl, rfl, List.prefix_rfl, List.not_mem_nil⟩
  have moved : Serving.Denotes bareRoot Site.www (Request.get path).target.path .moved :=
    .moved (.of_names root top rfl) unslashed
  exact Serving.serve_of_moved moved plain

theorem redirect_stays_on_host_iff_collapsed :
    (Exchange.handle bareRoot Site.www (Request.get "//evil.example/..") .neighbour
      ⟨⟨0, 0, 0⟩, 0⟩).response.status = 301 ∧
    ∃ location,
      (Exchange.handle bareRoot Site.www (Request.get "//evil.example/..") .neighbour
        ⟨⟨0, 0, 0⟩, 0⟩).response.header? "location" = some (utf8 location) ∧
      StaysOnHost location := by
  have spelled : RequestPath.directoryForm "//evil.example/.." none = "/evil.example/../" := by
    decide
  have response := redirected_bareRoot rfl rfl spelled (by decide)
  have moved := congrArg Response.status response
  obtain ⟨location, hlocation, hstays, _⟩ := redirect_stays_on_host_iff bareRoot Site.www
    (Request.get "//evil.example/..") .neighbour ⟨⟨0, 0, 0⟩, 0⟩ moved
  exact ⟨moved, location, hlocation, hstays.mpr ⟨by decide, by decide⟩⟩

/-- A path that begins with a backslash is sent to another host, and so is the root asked
for by an authority alone. -/
theorem redirect_leaves_the_host :
    (Target.parse (utf8 "/\\evil.example/..") = .ok (Request.get "/\\evil.example/..").target ∧
      (Exchange.handle bareRoot Site.www (Request.get "/\\evil.example/..") .neighbour
        ⟨⟨0, 0, 0⟩, 0⟩).response =
          ⟨301, [Response.text "location" "/\\evil.example/../",
            Response.count "content-length" 0], []⟩ ∧
      ¬StaysOnHost "/\\evil.example/../") ∧
    Target.parse (utf8 "evil.example") = .ok (Request.get "").target ∧
      (Exchange.handle bareRoot Site.www (Request.get "") .neighbour ⟨⟨0, 0, 0⟩, 0⟩).response =
        ⟨301, [Response.text "location" "//", Response.count "content-length" 0], []⟩ ∧
      ¬StaysOnHost "//" := by
  exact ⟨⟨rfl, redirected_bareRoot rfl rfl (by decide) (by decide), by decide⟩,
    rfl, redirected_bareRoot rfl rfl (by decide) (by decide), by decide⟩

end DocRoot
