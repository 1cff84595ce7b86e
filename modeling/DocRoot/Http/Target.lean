import DocRoot.Http.Method

/-!
# Request targets

A target is a path with an optional query. It is written alone, or after a scheme
and an authority, and then a missing path means `/`. An authority alone has an
empty path. A fragment is dropped unread.
-/

set_option autoImplicit false

namespace DocRoot.Http

structure Target where
  path : String
  query : Option String
  deriving DecidableEq, Repr

inductive TargetError
  | empty
  | tooLong
  | badCharacter
  | badFormat
  | badAuthority
  | schemeTooLong
  deriving DecidableEq, Repr

namespace TargetError

def message : TargetError → String
  | empty => "empty string"
  | tooLong => "uri too long"
  | badCharacter => "invalid uri character"
  | badFormat => "invalid format"
  | badAuthority => "invalid authority"
  | schemeTooLong => "scheme too long"

end TargetError

namespace Target

/-- The target as a log line shows it. -/
def text (t : Target) : String :=
  match t.query with
  | some q => t.path ++ "?" ++ q
  | none => t.path

def maxLength : Nat := 65534

/-- The byte 0x7F is refused, as the bytes below 0x20 are. -/
def isPathByte (b : UInt8) : Bool :=
  b == 0x21 || b == 0x22 || (0x24 ≤ b && b ≤ 0x3B) || b == 0x3D || (0x40 ≤ b && b ≤ 0x5F)
    || (0x61 ≤ b && b ≤ 0x7E) || 0x80 ≤ b

def isQueryByte (b : UInt8) : Bool :=
  b == 0x21 || (0x24 ≤ b && b ≤ 0x3B) || b == 0x3D || (0x3F ≤ b && b ≤ 0x7E) || 0x80 ≤ b

def endsPath (b : UInt8) : Bool := b == 0x3F || b == 0x23

/-- The text of a part whose bytes all satisfy `ok`. -/
def part (ok : UInt8 → Bool) (bs : Bytes) : Except TargetError String :=
  if bs.all ok then
    match Utf8.text? bs with
    | some s => .ok s
    | none => .error .badCharacter
  else .error .badCharacter

/-- A path and what may follow it. -/
def ofPath (raw : Bytes) : Except TargetError Target := do
  let path ← part isPathByte (raw.takeWhile (!endsPath ·))
  match raw.dropWhile (!endsPath ·) with
  | 0x3F :: r =>
    let query ← part isQueryByte (r.takeWhile (· != 0x23))
    return ⟨path, some query⟩
  | _ => return ⟨path, none⟩

def isSchemeByte (b : UInt8) : Bool := isAlnum b || [0x2B, 0x2D, 0x2E, 0x7E].contains b

/-- The scheme in front of `://` and what follows. The mark alone is no scheme. -/
def scheme? (raw : Bytes) : Option (Bytes × Bytes) :=
  match raw.dropWhile isSchemeByte with
  | 0x3A :: 0x2F :: 0x2F :: r =>
    if 3 < raw.length then some (raw.takeWhile isSchemeByte, r) else none
  | _ => none

def maxSchemeLength : Nat := 64

def isAuthorityByte (b : UInt8) : Bool :=
  isAlnum b || [0x21, 0x24, 0x26, 0x27, 0x28, 0x29, 0x2A, 0x2B, 0x2C, 0x2D, 0x2E, 0x3A, 0x3B, 0x3D,
    0x40, 0x5B, 0x5D, 0x5F, 0x7E].contains b

def endsAuthority (b : UInt8) : Bool := b == 0x2F || b == 0x3F || b == 0x23

/-- What a reader has seen of an authority: the colons and escapes that no bracket
or at sign has accounted for, the brackets, and whether an at sign came last. -/
structure AuthorityView where
  colons : Nat := 0
  opened : Bool := false
  closed : Bool := false
  escaped : Bool := false
  atEnd : Bool := false

namespace AuthorityView

def step (v : AuthorityView) (b : UInt8) : Except TargetError AuthorityView :=
  let v := { v with atEnd := false }
  if b = 0x3A then
    if 8 ≤ v.colons then .error .badAuthority else .ok { v with colons := v.colons + 1 }
  else if b = 0x5B then
    if v.escaped || v.opened then .error .badAuthority else .ok { v with opened := true }
  else if b = 0x5D then
    if !v.opened || v.closed then .error .badAuthority
    else .ok { v with closed := true, colons := 0, escaped := false }
  else if b = 0x40 then .ok { v with colons := 0, escaped := false, atEnd := true }
  else if b = 0x25 then .ok { v with escaped := true }
  else if isAuthorityByte b then .ok v
  else .error .badCharacter

def check (v : AuthorityView) : Except TargetError Unit :=
  if v.opened != v.closed || 1 < v.colons || v.atEnd || v.escaped then .error .badAuthority
  else .ok ()

end AuthorityView

/-- Checks an authority and gives what follows it. -/
def authority (raw : Bytes) : Except TargetError Bytes := do
  let view ← (raw.takeWhile (!endsAuthority ·)).foldlM AuthorityView.step {}
  view.check
  return raw.dropWhile (!endsAuthority ·)

def parse (raw : Bytes) : Except TargetError Target :=
  if maxLength < raw.length then .error .tooLong
  else
    match raw with
    | [] => .error .empty
    | [0x2A] => .ok ⟨"*", none⟩
    | 0x2F :: _ => ofPath raw
    | _ =>
      match scheme? raw with
      | some (scheme, r) => do
        if maxSchemeLength < scheme.length then throw .schemeTooLong
        if r = [] then throw .empty
        let rest ← authority r
        if rest.length = r.length then throw .badFormat
        let t ← ofPath rest
        return if t.path = "" then { t with path := "/" } else t
      | none => do
        let rest ← authority raw
        if rest = [] then return ⟨"", none⟩
        throw (if raw.length = 1 then .badCharacter else .badFormat)

end Target

end DocRoot.Http
