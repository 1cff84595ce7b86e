import DocRoot.Fault
import DocRoot.Path

/-!
# What the operator is told

A notice is one line of the error log, kept as its cause until it is written.
-/

set_option autoImplicit false

namespace DocRoot

inductive Notice
  /-- A response could not be written down and an empty one took its place. -/
  | unbuilt (status : Nat)
  /-- A request led to a place outside the root. -/
  | outside (requestPath : String) (place : Location)
  | unreadable (requestPath : String) (cause : Fault)
  | connectionFailed (detail : String)
  | connectionRefused (count limit : Nat) (peer : String)
  | warning (text : String)
  | error (text : String)
  deriving DecidableEq, Repr

namespace Notice

def line : Notice → String
  | unbuilt status =>
    "[ERROR] Failed to build " ++ toString status ++ " response: failed to parse header value"
  | outside path place =>
    "[WARN] Path traversal attempt blocked: " ++ path ++ " -> " ++ place.display
  | unreadable path cause => "[ERROR] Failed to serve '" ++ path ++ "': " ++ cause.message
  | connectionFailed detail => "[ERROR] Failed to serve connection: " ++ detail
  | connectionRefused count limit peer =>
    "[WARN] Max connections reached: " ++ toString count ++ "/" ++ toString limit
      ++ ". Connection from " ++ peer ++ " rejected."
  | warning text => "[WARN] " ++ text
  | error text => "[ERROR] " ++ text

end Notice

end DocRoot
