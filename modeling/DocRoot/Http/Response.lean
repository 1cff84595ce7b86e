import DocRoot.Html
import DocRoot.Http.Status
import DocRoot.Notice

/-!
# Responses

A header value may hold any byte but a control character; the tab is allowed. When
a value breaks this rule the response is not sent: a bare one takes its place and
the operator is told. For `HEAD` the headers are those of the full answer and the
body is left out.
-/

set_option autoImplicit false

namespace DocRoot.Http

structure Header where
  name : String
  value : Bytes
  deriving DecidableEq, Repr

def isFieldByte (b : UInt8) : Bool := b == 9 || (0x20 ≤ b && b != 0x7F)

def isFieldValue (v : Bytes) : Bool := v.all isFieldByte

structure Response where
  status : Nat
  headers : List Header
  body : Bytes
  deriving DecidableEq, Repr

namespace Response

def header? (r : Response) (name : String) : Option Bytes :=
  (r.headers.find? (·.name == name)).map (·.value)

def text (name value : String) : Header := ⟨name, utf8 value⟩

def count (name : String) (n : Nat) : Header := text name (toString n)

/-- The response with these headers, or the bare one with `spare` as its status. -/
def assemble (status spare : Nat) (headers : List Header) (body : Bytes) :
    Response × List Notice :=
  if headers.all (isFieldValue ·.value) then (⟨status, headers, body⟩, [])
  else (⟨spare, [], []⟩, [.unbuilt status])

def ofFile (data : Bytes) (contentType : String) (isHead : Bool) : Response × List Notice :=
  assemble 200 200
    [text "content-type" contentType, count "content-length" data.length]
    (if isHead then [] else data)

def htmlType : String := "text/html; charset=utf-8"

def ofListing (page : String) (isHead : Bool) : Response × List Notice :=
  ofFile (utf8 page) htmlType isHead

def redirect (target : String) : Response × List Notice :=
  assemble 301 200 [text "location" target, count "content-length" 0] []

def errorPage (status : Nat) (message : String) : String :=
  let code := toString status
  "<!DOCTYPE HTML>\n" ++
  "<html lang=\"en\">\n" ++
  "    <head>\n" ++
  "        <meta charset=\"utf-8\">\n" ++
  "        <title>Error response</title>\n" ++
  "    </head>\n" ++
  "    <body>\n" ++
  "        <h1>Error response</h1>\n" ++
  "        <p>Error code: " ++ code ++ "</p>\n" ++
  "        <p>Message: " ++ Html.escape message ++ ".</p>\n" ++
  "        <p>Error code explanation: " ++ code ++ " - "
    ++ (Status.reason? status).getD "Unknown" ++ ".</p>\n" ++
  "    </body>\n" ++
  "</html>\n"

def error (status : Nat) (message : String) (isHead : Bool) : Response × List Notice :=
  let page := utf8 (errorPage status message)
  assemble status status
    [text "content-type" "text/html;charset=utf-8", text "connection" "close",
      count "content-length" page.length]
    (if isHead then [] else page)

end Response

end DocRoot.Http
