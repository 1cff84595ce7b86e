import DocRoot.Http.Reply

/-!
# Sessions

A session is one connection as the server sees it. It takes the bytes of the client one
at a time and replies whenever a head is complete, so the replies depend on the bytes
and not on how they were cut. Once a reply ends the connection, nothing that follows is
read.
-/

set_option autoImplicit false

namespace DocRoot.Http

inductive Session
  | head (r : HeadReader)
  | body (r : BodyReader)
  | closed
  deriving DecidableEq, Repr

namespace Session

def start : Session := .head .start

def isClosed : Session → Bool
  | closed => true
  | _ => false

/-- Whether a response asks for the connection to be closed. -/
def closes (r : Response) : Bool :=
  match r.header? "connection" with
  | some v => Framing.hasOption v "close"
  | none => false

/-- The session after a reply that leaves the connection open, with the body of its request
still to be passed over. -/
def afterHead (body : BodyLength) : Session :=
  match BodyReader.ofLength body with
  | some r => .body r
  | none => .start

/-- What a request is, how long its body is, and whether both sides would have the
connection stay. -/
structure Incoming where
  request : Request
  body : BodyLength
  persistent : Bool
  deriving DecidableEq, Repr

/-- What one more byte brings about. -/
inductive Step
  | quiet (s : Session)
  | request (i : Incoming)
  | malformed (e : HeadError)
  deriving DecidableEq, Repr

/-- Takes one more byte. With `keepAlive` off, no connection stays open. -/
def feed (keepAlive : Bool) (s : Session) (b : UInt8) : Step :=
  match s with
  | .closed => .quiet .closed
  | .body r =>
    match r.feed b with
    | .more r => .quiet (.body r)
    | .done => .quiet .start
    | .bad => .quiet .closed
  | .head r =>
    match r.feed b with
    | .more r => .quiet (.head r)
    | .bad e => .malformed e
    | .done h =>
      match h.request with
      | .error e => .malformed e
      | .ok (request, framing) =>
        .request ⟨request, framing.body, framing.persistent && keepAlive⟩

/-- Answers a request. -/
def answer (i : Incoming) (r : Response) : Session × Reply :=
  let persistent := i.persistent && !closes r
  (if persistent then afterHead i.body else .closed, .response i.request.version r persistent)

/-- What is reported when the client sends no more. -/
def finish : Session → Option String
  | head r => if r.isIdle then none else some "hyper::Error(IncompleteMessage)"
  | _ => none

end Session

end DocRoot.Http
