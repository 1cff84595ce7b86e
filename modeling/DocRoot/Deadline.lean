import DocRoot.Server

/-!
# Deadlines of heads

A client has so many seconds to send a head, counted from when the server begins to wait
for one; with none at all it may take its time. The clock counts its seconds in 64 bits.
A deadline past the last of them cannot be told, and the task of the connection stops.
-/

set_option autoImplicit false

namespace DocRoot

/-- A point in time, on a clock that never goes back. -/
structure Instant where
  seconds : Int64
  nanos : Nat
  deriving DecidableEq, Repr

namespace Instant

/-- So many seconds later, if the clock can tell. -/
def later? (i : Instant) (seconds : UInt64) : Option Instant :=
  let sum := i.seconds.toInt + seconds.toNat
  if sum ≤ Int64.maxValue.toInt then some { i with seconds := .ofInt sum } else none

/-- The milliseconds from one instant on to another, none if that is past. -/
def millisUntil (now deadline : Instant) : Nat :=
  ((deadline.seconds.toInt - now.seconds.toInt) * 1000
    + (deadline.nanos / 1000000 : Nat) - (now.nanos / 1000000 : Nat)).toNat

end Instant

namespace Connection

def awaitsHead (c : Connection) : Bool :=
  match c.session with
  | .head _ => true
  | _ => false

/-- Whether a head that is waited for after this byte is one that was not waited for before. -/
def turns (site : Site) (c : Connection) (b : UInt8) : Bool :=
  match c.session.feed site.settings.performance.keepAlive b with
  | .request _ => true
  | _ => !c.awaitsHead

end Connection

/-- A connection and the deadline of the head that it waits for. -/
structure Watched where
  connection : Connection
  deadline : Option Instant
  deriving DecidableEq, Repr

namespace Watched

/-- The connection as it begins to wait for a head. -/
def await? (site : Site) (now : Instant) (c : Connection) : Option Watched :=
  let timeout := site.settings.performance.headerReadTimeout
  if timeout = 0 then some ⟨c, none⟩ else (now.later? timeout).map fun d => ⟨c, some d⟩

def start? (site : Site) (now : Instant) (peer : SocketAddr) : Option Watched :=
  await? site now (.start peer)

/-- What is watched once a byte has made the connection `c`. -/
def next? (site : Site) (now : Instant) (w : Watched) (b : UInt8) (c : Connection) :
    Option Watched :=
  if !c.awaitsHead then some ⟨c, none⟩
  else if w.connection.turns site b then await? site now c
  else some { w with connection := c }

/-- Takes what comes in at an instant. What is left is no connection if its task stops. -/
def take (t : FileTree) (site : Site) (now : Instant) (timing : Timing) (w : Watched) :
    Bytes → Option Watched × Bytes × List LogLine
  | [] => (some w, [], [])
  | b :: r =>
    let (c, out, told) := w.connection.takeByte t site timing b
    match w.next? site now b c with
    | none => (none, out, told)
    | some w =>
      let (left, later, tail) := w.take t site now timing r
      (left, out ++ later, told ++ tail)

end Watched

end DocRoot
