import DocRoot.Admission
import DocRoot.Exchange
import DocRoot.Http.Session
import DocRoot.LogBook

/-!
# A server and its connections

A server serves one site to the connections it has admitted. Every connection has a
session of its own, and what goes on in it is answered on the files as they are then.
A connection that has ended leaves the count.
-/

set_option autoImplicit false

namespace DocRoot

/-- A line and the log that it is for. -/
abbrev LogLine := LogKind × String

namespace LogLine

def ofNotice (n : Notice) : LogLine := (.error, n.line)

end LogLine

structure Connection where
  peer : SocketAddr
  session : Http.Session
  deriving DecidableEq, Repr

namespace Connection

def start (peer : SocketAddr) : Connection := ⟨peer, .start⟩

/-- Answers a request that has come in whole. -/
def answer (t : FileTree) (site : Site) (timing : Timing) (c : Connection)
    (i : Http.Session.Incoming) : Connection × Bytes × List LogLine :=
  let x := Exchange.handle t site i.request c.peer timing
  let (session, reply) := Http.Session.answer i x.response
  ({ c with session }, reply.bytes timing.moment.seconds,
    x.notices.map LogLine.ofNotice
      ++ ((Exchange.accessLine? site x).map ((LogKind.access, ·))).toList)

def refuse (timing : Timing) (c : Connection) (e : Http.HeadError) :
    Connection × Bytes × List LogLine :=
  ({ c with session := .closed }, (Http.Reply.malformed e).bytes timing.moment.seconds,
    [LogLine.ofNotice (.connectionFailed e.detail)])

def takeByte (t : FileTree) (site : Site) (timing : Timing) (c : Connection) (b : UInt8) :
    Connection × Bytes × List LogLine :=
  match c.session.feed site.settings.performance.keepAlive b with
  | .quiet session => ({ c with session }, [], [])
  | .malformed e => c.refuse timing e
  | .request i => c.answer t site timing i

def take (t : FileTree) (site : Site) (timing : Timing) (c : Connection) :
    Bytes → Connection × Bytes × List LogLine
  | [] => (c, [], [])
  | b :: r =>
    let (c, now, told) := c.takeByte t site timing b
    let (c, later, tail) := c.take t site timing r
    (c, now ++ later, told ++ tail)

/-- Ends a connection whose client sends no more. -/
def finish (c : Connection) : Connection × List LogLine :=
  ({ c with session := .closed },
    (c.session.finish.map fun d => LogLine.ofNotice (.connectionFailed d)).toList)

end Connection

structure Server where
  site : Site
  active : Nat
  /-- The connections that are open, each with a name. -/
  connections : List (String × Connection)
  deriving Repr

namespace Server

def ofSite (site : Site) : Server := ⟨site, 0, []⟩

def connection? (s : Server) (name : String) : Option Connection := s.connections.lookup name

/-- Admits a connection, or lets it drop with a notice. -/
def accept (s : Server) (name : String) (peer : SocketAddr) : Server × Bool × List LogLine :=
  let limit := s.site.settings.performance.maxConnections
  match Admission.accept limit s.active with
  | (active, none) =>
    ({ s with active, connections := (name, .start peer) :: s.connections }, true, [])
  | (active, some before) =>
    ({ s with active }, false,
      [LogLine.ofNotice (.connectionRefused before ((limit.map UInt64.toNat).getD 0) peer.text)])

/-- The server with a connection as it is now; one that has ended is gone. -/
def update (s : Server) (name : String) (c : Connection) : Server :=
  let others := s.connections.filter (·.1 ≠ name)
  if c.session.isClosed then { s with active := Admission.lower s.active, connections := others }
  else { s with connections := (name, c) :: others }

/-- Takes what a client sends; without an open connection of that name it is lost. -/
def receive (t : FileTree) (timing : Timing) (s : Server) (name : String) (bs : Bytes) :
    Server × Bytes × List LogLine :=
  match s.connection? name with
  | none => (s, [], [])
  | some c =>
    let (c, out, lines) := c.take t s.site timing bs
    (s.update name c, out, lines)

def finish (s : Server) (name : String) : Server × List LogLine :=
  match s.connection? name with
  | none => (s, [])
  | some c =>
    let (c, lines) := c.finish
    (s.update name c, lines)

end Server

end DocRoot
