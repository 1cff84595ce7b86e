import DocRoot.AccessLog.Moment
import DocRoot.Http.Request
import DocRoot.Json.Basic

/-!
# Entries of the access log

One entry is one line, in the common form, in the combined form, which adds who sent
the client and what it is, or as a JSON object with sorted keys.
-/

set_option autoImplicit false

namespace DocRoot.AccessLog

structure Entry where
  remote : String
  time : Moment
  method : String
  target : String
  version : Http.Version
  status : Nat
  bodyBytes : Nat
  referer : Option String
  userAgent : Option String
  micros : Nat
  deriving DecidableEq, Repr

inductive Format
  | common
  | combined
  | json
  deriving DecidableEq, Repr

namespace Format

/-- Any name that is not known means the common form. -/
def ofName (name : String) : Format :=
  if name = "combined" then .combined else if name = "json" then .json else .common

end Format

namespace Entry

def requestLine (e : Entry) : String :=
  e.method ++ " " ++ e.target ++ " HTTP/" ++ e.version.label

def sizeText (e : Entry) : String := if e.bodyBytes = 0 then "-" else toString e.bodyBytes

def common (e : Entry) : String :=
  e.remote ++ " - - [" ++ e.time.logText ++ "] \"" ++ e.requestLine ++ "\" " ++ toString e.status
    ++ " " ++ e.sizeText

def combined (e : Entry) : String :=
  e.common ++ " \"" ++ e.referer.getD "-" ++ "\" \"" ++ e.userAgent.getD "-" ++ "\""

def toJson (e : Entry) : Json :=
  .object
    [("body_bytes", .number e.bodyBytes),
      ("http_version", .text e.version.label),
      ("method", .text e.method),
      ("referer", .optionalText e.referer),
      ("remote_addr", .text e.remote),
      ("request_time_us", .number e.micros),
      ("status", .number e.status),
      ("target", .text e.target),
      ("time", .text e.time.isoText),
      ("user_agent", .optionalText e.userAgent)]

def line (e : Entry) : Format → String
  | .common => e.common
  | .combined => e.combined
  | .json => e.toJson.print

end Entry

end DocRoot.AccessLog
