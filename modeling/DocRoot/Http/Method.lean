import DocRoot.Utf8

/-!
# Methods

Only `GET` and `HEAD` are served. Any other token is a method too, but a refused one.
-/

set_option autoImplicit false

namespace DocRoot.Http

def isAlnum (b : UInt8) : Bool :=
  (0x30 ≤ b && b ≤ 0x39) || (0x41 ≤ b && b ≤ 0x5A) || (0x61 ≤ b && b ≤ 0x7A)

/-- Letters, digits and ``!#$%&'*+-.^_`|~``. -/
def isTokenByte (b : UInt8) : Bool :=
  isAlnum b || [0x21, 0x23, 0x24, 0x25, 0x26, 0x27, 0x2A, 0x2B, 0x2D, 0x2E, 0x5E, 0x5F, 0x60, 0x7C,
    0x7E].contains b

def isToken (bs : Bytes) : Bool := !bs.isEmpty && bs.all isTokenByte

inductive Method
  | get
  | head
  | other (token : String)
  deriving DecidableEq, Repr

namespace Method

def ofToken (token : String) : Method :=
  if token = "GET" then .get else if token = "HEAD" then .head else .other token

def token : Method → String
  | get => "GET"
  | head => "HEAD"
  | other t => t

@[simp] theorem token_ofToken (t : String) : (ofToken t).token = t := by
  unfold ofToken
  split
  · next h => simp [token, h]
  · split
    · next h => simp [token, h]
    · rfl

def ofBytes? (bs : Bytes) : Option Method :=
  if isToken bs then some (ofToken (Utf8.lossy bs)) else none

end Method

end DocRoot.Http
