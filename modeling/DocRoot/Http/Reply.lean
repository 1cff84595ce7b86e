import DocRoot.AccessLog.Moment
import DocRoot.Http.Framing

/-!
# Replies

A reply is what goes over the wire for one request: a response under the version that
the client speaks, with what it says about the connection, or the bare answer to a
request that was not understood.
-/

set_option autoImplicit false

namespace DocRoot.Http

inductive Reply
  | response (version : Version) (r : Response) (persistent : Bool)
  | malformed (e : HeadError)
  deriving DecidableEq, Repr

namespace Reply

/-- The field that says what becomes of the connection. Staying open is told only where
it is not the rule, and closing only where staying open is. -/
def connectionField (version : Version) (persistent : Bool) : List Header :=
  match version, persistent with
  | .http10, true => [Response.text "connection" "keep-alive"]
  | .http11, false => [Response.text "connection" "close"]
  | _, _ => []

/-- The fields of a response as they are sent. One that says nothing of its body is sent
with its length. -/
def fields (version : Version) (r : Response) (persistent : Bool) : List Header :=
  let size := if r.header? "content-length" = none then
    [Response.count "content-length" r.body.length] else []
  let others :=
    if connectionField version persistent = [] then r.headers
    else r.headers.filter (·.name ≠ "connection")
  others ++ connectionField version persistent ++ size

def malformedFields : List Header :=
  [Response.text "connection" "close", Response.count "content-length" 0]

def statusLine (version : Version) (status : Nat) : String :=
  "HTTP/" ++ version.label ++ " " ++ toString status ++ " "
    ++ (Status.reason? status).getD "<none>"

def weekdayNames : List String := ["Thu", "Fri", "Sat", "Sun", "Mon", "Tue", "Wed"]

/-- As in `Mon, 02 Jan 2006 15:04:05 GMT`. -/
def dateText (seconds : Int) : String :=
  let t : Moment := ⟨seconds, 0, 0⟩
  let weekday := ((seconds.fdiv 86400).fmod 7).toNat
  (weekdayNames[weekday]?).getD "" ++ ", " ++ Moment.padded 2 t.date.day ++ " "
    ++ Moment.monthName t.date.month ++ " " ++ Moment.yearText t.date.year ++ " " ++ t.clock
    ++ " GMT"

def crlf : Bytes := [HeadReader.carriageReturn, HeadReader.lineFeed]

def fieldLine (h : Header) : Bytes := utf8 (h.name ++ ": ") ++ h.value ++ crlf

/-- The head and the body, with the time of the reply in front of the body. -/
def message (line : String) (fields : List Header) (seconds : Int) (body : Bytes) : Bytes :=
  utf8 line ++ crlf ++ (fields ++ [Response.text "date" (dateText seconds)]).flatMap fieldLine
    ++ crlf ++ body

/-- What is sent, which is nothing where a request gets no answer. -/
def bytes (seconds : Int) : Reply → Bytes
  | response version r persistent =>
    message (statusLine version r.status) (fields version r persistent) seconds r.body
  | malformed e =>
    match e.status? with
    | some status => message (statusLine .http11 status) malformedFields seconds []
    | none => []

end Reply

end DocRoot.Http
