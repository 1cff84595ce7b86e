import DocRoot.Exchange
import DocRoot.Proofs.Http.Response
import DocRoot.Proofs.Serving.Denotes

/-!
# Answers without a body

`HEAD` takes every step that `GET` takes, on the same files, and leaves the body out at the
end. So the one answer is the other without its body, and what is told on the way is the
same.
-/

set_option autoImplicit false

namespace DocRoot

open Http

namespace Http.Response

def headOnly (r : Response) : Response := { r with body := [] }

/-- A length, where one is told, is that of the body. -/
def TellsLength (r : Response) : Prop :=
  ∀ h ∈ r.headers, h.name = "content-length" → h.value = utf8 (toString r.body.length)

section Building
variable {status spare : Nat}

/-- The body has no part in the choice between a response and the bare one. -/
theorem assemble_headOnly (status spare : Nat) (headers : List Header) (body : Bytes) :
    assemble status spare headers [] =
      ((assemble status spare headers body).1.headOnly,
        (assemble status spare headers body).2) := by
  unfold assemble
  split <;> rfl

theorem ofFile_head (data : Bytes) (type : String) :
    ofFile data type true = ((ofFile data type false).1.headOnly, (ofFile data type false).2) :=
  assemble_headOnly ..

theorem redirect_headOnly (location : String) :
    (redirect location).1.headOnly = (redirect location).1 :=
  (congrArg Prod.fst (assemble_headOnly ..)).symm

theorem error_head (status : Nat) (message : String) :
    error status message true =
      ((error status message false).1.headOnly, (error status message false).2) := by
  simp only [error_eq, headOnly, if_true]

theorem tellsLength_of_last (others : List Header) (body : Bytes)
    (h : ∀ x ∈ others, x.name ≠ "content-length") :
    TellsLength ⟨status, others ++ [count "content-length" body.length], body⟩ := by
  intro x hx hn
  rcases List.mem_append.mp hx with hx | hx
  · exact absurd hn (h x hx)
  · obtain rfl := List.mem_singleton.mp hx
    rfl

theorem tellsLength_assemble (others : List Header) (body : Bytes)
    (h : ∀ x ∈ others, x.name ≠ "content-length") :
    (assemble status spare (others ++ [count "content-length" body.length])
      body).1.TellsLength := by
  unfold assemble
  split
  · exact tellsLength_of_last others body h
  · intro x hx
    cases hx

theorem tellsLength_ofFile (data : Bytes) (type : String) :
    (ofFile data type false).1.TellsLength := by
  unfold ofFile
  exact tellsLength_assemble [text "content-type" type] data (by simp [text])

theorem tellsLength_redirect (location : String) : (redirect location).1.TellsLength := by
  unfold redirect
  exact tellsLength_assemble [text "location" location] [] (by simp [text])

theorem tellsLength_error (status : Nat) (message : String) :
    (error status message false).1.TellsLength := by
  simp only [error_eq, Bool.false_eq_true, if_false]
  exact tellsLength_of_last
    [text "content-type" "text/html;charset=utf-8", text "connection" "close"]
    (utf8 (errorPage status message)) (by simp [text])

end Building

end Http.Response

namespace Serving

namespace Outcome

variable {α : Type}

/-- The same outcome with the body of the response left out. -/
def headOnly (x : Outcome Response) : Outcome Response :=
  ⟨x.result.map Response.headOnly, x.notices⟩

@[simp] theorem headOnly_refuse (r : Refusal) :
    (refuse r : Outcome Response).headOnly = refuse r := rfl

@[simp] theorem headOnly_told (a : Response × List Notice) :
    (told a).headOnly = told (a.1.headOnly, a.2) := rfl

theorem headOnly_bind (x : Outcome α) (f : α → Outcome Response) :
    (x.bind f).headOnly = x.bind fun a => (f a).headOnly := by
  obtain ⟨result, notices⟩ := x
  cases result <;> rfl

end Outcome

section Steps
variable (t : FileTree) (site : Site)

theorem sendFile_head (steps : List Name) (path : String) :
    sendFile t site steps path true = (sendFile t site steps path false).headOnly := by
  unfold sendFile
  cases t.read steps with
  | error cause => rfl
  | ok content => simp only [Response.ofFile_head, Outcome.headOnly_told]

theorem sendDirectory_head (steps : List Name) (path : String) :
    sendDirectory t site steps path true = (sendDirectory t site steps path false).headOnly := by
  unfold sendDirectory
  cases findIndex t steps site.settings.serve.indexFiles with
  | some index => simp only [Outcome.bind_eq, Outcome.headOnly_bind, sendFile_head]
  | none =>
    dsimp only
    split
    · cases Listing.render t steps (RequestPath.display path) site.hidden with
      | error r => rfl
      | ok page => simp only [Response.ofListing, Response.ofFile_head, Outcome.headOnly_told]
    · rfl

theorem load_head (target : Target) :
    load t site target true = (load t site target false).headOnly := by
  unfold load
  dsimp only
  cases RequestPath.translate? target.path with
  | none => rfl
  | some names =>
    dsimp only
    cases t.node (site.root ++ RequestPath.steps names) with
    | error e => rfl
    | ok node =>
      simp only [Outcome.bind_eq, Outcome.headOnly_bind]
      congr 1
      funext _
      split
      · split
        · exact sendDirectory_head ..
        · rw [Outcome.headOnly_told, Response.redirect_headOnly]
      · split
        · rfl
        · exact sendFile_head ..

theorem serve_head (target : Target) :
    serve t site target true =
      ((serve t site target false).1.headOnly, (serve t site target false).2) := by
  unfold serve
  rw [load_head]
  obtain ⟨result, notices⟩ := load t site target false
  cases result with
  | ok response => rfl
  | error r => simp only [Outcome.headOnly, Except.map, Response.error_head]

theorem tellsLength_refused {target : Target} {v : Verdict} {refusal : Refusal}
    (h : v.result t site target false = .error refusal) :
    (v.response t site target false).TellsLength := by
  rw [Verdict.response_of_refusal h]
  exact Response.tellsLength_error _ _

theorem tellsLength_serve (target : Target) : (serve t site target false).1.TellsLength := by
  obtain ⟨v, h⟩ := exists_denotes t site target.path
  rw [serve_response h]
  cases v with
  | malformed => exact tellsLength_refused t site rfl
  | missing => exact tellsLength_refused t site rfl
  | unreadable cause => exact tellsLength_refused t site rfl
  | moved =>
    simp only [Verdict.response, Verdict.result]
    exact Response.tellsLength_redirect _
  | file steps place content =>
    simp only [Verdict.response, Verdict.result]
    exact Response.tellsLength_ofFile _ _
  | listing steps place =>
    simp only [Verdict.response, Verdict.result]
    exact Response.tellsLength_ofFile _ _

end Steps

end Serving

/-- What an exchange with `HEAD` has of the one with `GET`: all but the body. -/
structure Exchange.Mirrors (head get : Exchange) : Prop where
  status : head.response.status = get.response.status
  headers : head.response.headers = get.response.headers
  body : head.response.body = []
  length : ∀ value, get.response.header? "content-length" = some value →
    value = utf8 (toString get.response.body.length)
  notices : head.notices = get.notices

theorem Http.Response.TellsLength.header? {r : Response} {value : Bytes} (h : r.TellsLength)
    (hv : r.header? "content-length" = some value) : value = utf8 (toString r.body.length) := by
  obtain ⟨x, hx, rfl⟩ := Option.map_eq_some_iff.mp hv
  exact h x (List.mem_of_find?_eq_some hx) (by simpa using List.find?_some hx)

/-- Whatever the files are, and whoever asks with whichever headers, `HEAD` is answered with
the head of the answer to `GET`. -/
theorem head_mirrors_get (t : FileTree) (site : Site) (target : Target)
    (version version' : Version) (headers headers' : List Header) (peer peer' : SocketAddr)
    (timing timing' : Timing) :
    (Exchange.handle t site ⟨.head, target, version, headers⟩ peer timing).Mirrors
      (Exchange.handle t site ⟨.get, target, version', headers'⟩ peer' timing') := by
  have hserve := Serving.serve_head t site target
  have hlength := Serving.tellsLength_serve t site target
  refine ⟨?_, ?_, ?_, ?_, ?_⟩
  · simp only [Exchange.handle, Serving.answer, hserve, Response.headOnly]
  · simp only [Exchange.handle, Serving.answer, hserve, Response.headOnly]
  · simp only [Exchange.handle, Serving.answer, hserve, Response.headOnly]
  · intro value hv
    exact hlength.header? hv
  · simp only [Exchange.handle, Serving.answer, hserve]

end DocRoot
