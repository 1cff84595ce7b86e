import DocRoot.Address.Ip

/-!
# Socket addresses

The text is `1.2.3.4:80` or `[::1]:80`, where a zone number may follow the address
inside the brackets. An octet has no leading zero, a group has at most four digits,
and nothing may be left over.
-/

set_option autoImplicit false

namespace DocRoot

structure SocketAddr where
  ip : Ip
  port : UInt16
  zone : Nat
  deriving DecidableEq, Repr

namespace SocketAddr

/-- What a reader found and the text after it. -/
abbrev Reader (α : Type) := List Char → Option (α × List Char)

def digitOf? (radix : Nat) (c : Char) : Option Nat :=
  let n := c.toNat
  let d? :=
    if 0x30 ≤ n ∧ n ≤ 0x39 then some (n - 0x30)
    else if 0x61 ≤ n ∧ n ≤ 0x66 then some (n - 0x57)
    else if 0x41 ≤ n ∧ n ≤ 0x46 then some (n - 0x37)
    else none
  d?.filter (· < radix)

def digits (radix : Nat) : List Char → List Nat × List Char
  | [] => ([], [])
  | c :: r =>
    match digitOf? radix c with
    | some d => (d :: (digits radix r).1, (digits radix r).2)
    | none => ([], c :: r)

def value (radix : Nat) (ds : List Nat) : Nat := ds.foldl (fun v d => v * radix + d) 0

structure NumberForm where
  radix : Nat
  most : Option Nat
  leadingZeros : Bool
  bound : Nat

def octet : NumberForm := ⟨10, some 3, false, 256⟩
def group : NumberForm := ⟨16, some 4, true, 65536⟩
def portNumber : NumberForm := ⟨10, none, true, 65536⟩
def zoneNumber : NumberForm := ⟨10, none, true, 4294967296⟩

def number (f : NumberForm) : Reader Nat := fun s =>
  let (ds, r) := digits f.radix s
  let n := value f.radix ds
  if ds = [] ∨ (f.most.any (· < ds.length)) ∨ (!f.leadingZeros ∧ ds.head? = some 0 ∧ 1 < ds.length)
      ∨ f.bound ≤ n then none
  else some (n, r)

def given (c : Char) : Reader Unit
  | d :: r => if d = c then some ((), r) else none
  | [] => none

/-- The reader after a separator, which the first item does not have. -/
def item {α : Type} (sep : Char) (first : Bool) (read : Reader α) : Reader α := fun s =>
  if first then read s else (given sep s).bind fun (_, r) => read r

def octets : Reader (List Nat) := fun s => do
  let (a, r) ← number octet s
  let (b, r) ← item '.' false (number octet) r
  let (c, r) ← item '.' false (number octet) r
  let (d, r) ← item '.' false (number octet) r
  return ([a, b, c, d], r)

/-- Up to `limit` groups, of which the last two may be four octets; whether they were. -/
def groups : (first : Bool) → (limit : Nat) → List Char → List Nat × Bool × List Char
  | _, 0, s => ([], false, s)
  | first, limit + 1, s =>
    match (if 0 < limit then item ':' first octets s else none) with
    | some ([a, b, c, d], r) => ([a * 256 + b, c * 256 + d], true, r)
    | _ =>
      match item ':' first (number group) s with
      | some (g, r) =>
        let rest := groups false limit r
        (g :: rest.1, rest.2)
      | none => ([], false, s)

def ipv6 : Reader (List Nat) := fun s =>
  let (front, octetsLast, r) := groups true 8 s
  if front.length = 8 then some (front, r)
  else if octetsLast then none
  else do
    let (_, r) ← given ':' r
    let (_, r) ← given ':' r
    let (back, _, r) := groups true (7 - front.length) r
    return (front ++ List.replicate (8 - front.length - back.length) 0 ++ back, r)

def readZone : Reader Nat := fun s => (given '%' s).bind fun (_, r) => number zoneNumber r

def ofV4 (os : List Nat) : Option Ip :=
  if h : (os.map UInt8.ofNat).toArray.size = 4 then some (.v4 ⟨_, h⟩) else none

def ofV6 (gs : List Nat) : Option Ip :=
  if h : (gs.map UInt16.ofNat).toArray.size = 8 then some (.v6 ⟨_, h⟩) else none

def readV4 : Reader SocketAddr := fun s => do
  let (os, r) ← octets s
  let (_, r) ← given ':' r
  let (p, r) ← number portNumber r
  return (⟨← ofV4 os, UInt16.ofNat p, 0⟩, r)

def readV6 : Reader SocketAddr := fun s => do
  let (_, r) ← given '[' s
  let (gs, r) ← ipv6 r
  let (z, r) := (readZone r).getD (0, r)
  let (_, r) ← given ']' r
  let (_, r) ← given ':' r
  let (p, r) ← number portNumber r
  return (⟨← ofV6 gs, UInt16.ofNat p, z⟩, r)

def parse? (text : String) : Option SocketAddr :=
  match (readV4 text.toList).or (readV6 text.toList) with
  | some (a, []) => some a
  | _ => none

def text (a : SocketAddr) : String :=
  let port := ":" ++ toString a.port.toNat
  match a.ip with
  | .v4 _ => a.ip.text ++ port
  | .v6 _ => "[" ++ a.ip.text ++ (if a.zone = 0 then "" else "%" ++ toString a.zone) ++ "]" ++ port

/-- What is said when a text is no address. -/
def syntaxMessage : String := "Invalid address: invalid socket address syntax"

/-- The address a server with this host and port listens on. -/
def ofHostPort? (host : String) (port : UInt16) : Option SocketAddr :=
  parse? (host ++ ":" ++ toString port.toNat)

end SocketAddr

end DocRoot
