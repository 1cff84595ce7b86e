import DocRoot.Exchange

/-!
# A site over time

Between two requests the files may become any others. A run keeps each exchange with
the files it was answered on, so what holds of every answer holds all along.
-/

set_option autoImplicit false

namespace DocRoot

/-- A client on the same host. -/
def SocketAddr.neighbour : SocketAddr := ⟨.v4 #v[127, 0, 0, 1], 4711, 0⟩

/-- A `GET` for a path with no query. -/
def Http.Request.get (path : String) : Http.Request := ⟨.get, ⟨path, none⟩, .http11, []⟩

/-- A directory with nothing in it. -/
def bareRoot : FileTree := ⟨[([utf8 "www"], .directory)]⟩

inductive Event
  /-- The files are these from now on, however they were changed. -/
  | files (after : FileTree)
  | request (r : Http.Request) (peer : SocketAddr) (timing : Timing)

structure Answered where
  files : FileTree
  request : Http.Request
  exchange : Exchange

namespace Answered

def response (x : Answered) : Http.Response := x.exchange.response

end Answered

namespace Site

/-- The files after an event, and what was answered in it. -/
def step (site : Site) (t : FileTree) : Event → FileTree × List Answered
  | .files after => (after, [])
  | .request r peer timing => (t, [⟨t, r, Exchange.handle t site r peer timing⟩])

def run (site : Site) : FileTree → List Event → List Answered
  | _, [] => []
  | t, e :: events => (site.step t e).2 ++ site.run (site.step t e).1 events

variable {site : Site} {P : Answered → Prop}

theorem forall_step
    (answer : ∀ t r peer timing, P ⟨t, r, Exchange.handle t site r peer timing⟩)
    (t : FileTree) (e : Event) : ∀ x ∈ (site.step t e).2, P x := by
  intro x hx
  cases e with
  | files after => cases hx
  | request r peer timing =>
    obtain rfl := List.mem_singleton.mp hx
    exact answer t r peer timing

/-- What holds of every answer on any files holds of every answer of a run. -/
theorem forall_run
    (answer : ∀ t r peer timing, P ⟨t, r, Exchange.handle t site r peer timing⟩)
    (t : FileTree) (events : List Event) : ∀ x ∈ site.run t events, P x := by
  induction events generalizing t with
  | nil => simp [run]
  | cons e events ih =>
    intro x hx
    rcases List.mem_append.mp hx with hx | hx
    · exact forall_step answer t e x hx
    · exact ih _ x hx

end Site

end DocRoot
