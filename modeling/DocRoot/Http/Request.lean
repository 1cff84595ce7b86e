import DocRoot.Http.Response
import DocRoot.Http.Target

/-!
# Requests

A request is read from a method, a target and header fields, which are checked in
this order; the first part that is malformed is the one that is named.
-/

set_option autoImplicit false

namespace DocRoot.Http

inductive Version
  | http09
  | http10
  | http11
  | http2
  | http3
  deriving DecidableEq, Repr

namespace Version

def label : Version → String
  | http09 => "0.9"
  | http10 => "1.0"
  | http11 => "1.1"
  | http2 => "2"
  | http3 => "3"

end Version

structure Request where
  method : Method
  target : Target
  version : Version
  headers : List Header
  deriving DecidableEq, Repr

inductive RequestError
  | badMethod
  | badTarget (cause : TargetError)
  | badHeaderName
  | badHeaderValue
  deriving DecidableEq, Repr

namespace RequestError

def message : RequestError → String
  | badMethod => "invalid HTTP method"
  | badTarget cause => cause.message
  | badHeaderName => "invalid HTTP header name"
  | badHeaderValue => "failed to parse header value"

end RequestError

namespace Header

def lowerByte (b : UInt8) : UInt8 := if 0x41 ≤ b ∧ b ≤ 0x5A then b + 0x20 else b

def parse (name value : Bytes) : Except RequestError Header :=
  if !isToken name then .error .badHeaderName
  else if !isFieldValue value then .error .badHeaderValue
  else .ok ⟨Utf8.lossy (name.map lowerByte), value⟩

/-- A byte that a value can hold to be read as text. -/
def isTextByte (b : UInt8) : Bool := b == 9 || (0x20 ≤ b && b ≤ 0x7E)

end Header

namespace Request

def make (method target : Bytes) (version : Version) (headers : List (Bytes × Bytes)) :
    Except RequestError Request := do
  let some m := Method.ofBytes? method | throw .badMethod
  let t ← (Target.parse target).mapError .badTarget
  let hs ← headers.mapM fun h => Header.parse h.1 h.2
  return ⟨m, t, version, hs⟩

/-- The first value of a header, if it is plain text. -/
def headerText? (r : Request) (name : String) : Option String :=
  match r.headers.find? (·.name == name) with
  | some h => if h.value.all Header.isTextByte then Utf8.text? h.value else none
  | none => none

end Request

end DocRoot.Http
