import DocRoot.Deadline
import DocRoot.Startup
import Std.Async.TCP
import Std.Async.Timer

/-!
# The program

It is started in the directory that it serves and runs until it is stopped. Of the files
of the host it looks up those that a request leads to, and answers on what it found.
-/

set_option autoImplicit false

namespace DocRoot.Host

open Std.Async.TCP

/-! ### Files -/

def pathText (l : Location) : String := if l = [] then "/" else l.display

/-- A pipe, a device or a socket, read to its end if that is asked for. Whether it takes what
is written to it shows when that is tried. -/
def special (l : Location) (asked : Bool) : IO Special := do
  let unread : Special := ⟨.fault .noDevice, none, none⟩
  if !asked then return unread
  try
    let content ← IO.FS.readBinFile (pathText l)
    return { unread with reading := .content content.data.toList }
  catch _ => return unread

/-- What is found at a place, with its content at the end of a walk. The target of a link is the
place that it leads to in the end; a link that leads nowhere leads to itself. -/
def node? (l : Location) (withContent asked : Bool) : IO (Option Node) := do
  try
    match (← ((← IO.currentDir) / pathText l).symlinkMetadata).type with
    | .dir => return some .directory
    | .file =>
      if withContent then
        let content ← IO.FS.readBinFile (pathText l)
        return some (.file content.data.toList)
      else return some (.file [])
    | .symlink =>
      let target ← try IO.FS.realPath (pathText l) catch _ => pure (pathText l)
      return some (.link (utf8 target.toString))
    | .other => return some (.special (← special l (withContent && asked)))
  catch _ => return none

/-- The tree with all places that a walk looks up. -/
partial def look (asked : Bool) (t : FileTree) (here : Location) (steps : List Name)
    (links : Nat) : IO FileTree := do
  match steps with
  | [] => return t
  | s :: rest =>
    if Path.stays s then look asked t here rest links
    else if s = Path.dotdot then look asked t here.dropLast rest links
    else
      let place := here ++ [s]
      match ← node? place rest.isEmpty asked with
      | none => return t
      | some n =>
        let t := t.put place n
        match n with
        | .directory => look asked t place rest links
        | .link target =>
          if links = 0 then return t
          else
            look asked t (if Path.isAbsolute target then [] else here) (Path.steps target ++ rest)
              (links - 1)
        | _ => return t

def lookAt (t : FileTree) (steps : List Name) : IO FileTree :=
  look false t [] steps FileTree.maxLinks

/-- As `lookAt`, where what is found is to be sent. -/
def lookAsked (t : FileTree) (steps : List Name) : IO FileTree :=
  look true t [] steps FileTree.maxLinks

/-- The tree with the entries of a directory and what they lead to. -/
def lookInto (t : FileTree) (steps : List Name) : IO FileTree := do
  match t.resolve steps with
  | .error _ => return t
  | .ok place =>
    let entries ← try ((← IO.currentDir) / pathText place).readDir catch _ => pure #[]
    entries.foldlM (fun t e => lookAt t (place ++ [utf8 e.fileName])) t

/-- The tree that an answer to a request depends on. -/
def treeFor (site : Site) (target : Http.Target) : IO FileTree := do
  let t ← lookAt .empty site.root
  match RequestPath.translate? target.path with
  | none => return t
  | some names =>
    let steps := site.root ++ RequestPath.location names
    let t ← lookAsked t steps
    if t.isDirectory steps && RequestPath.endsInSlash target.path then
      let t ← site.settings.serve.indexFiles.foldlM
        (fun t name => lookAt t (Path.join steps (utf8 name))) t
      lookInto t steps
    else return t

/-! ### Time -/

def moment : IO Moment := do
  let now ← Std.Time.Timestamp.now
  let nanos := now.toNanosecondsSinceUnixEpoch.toInt
  let offset ←
    try
      let rules ← Std.Time.Database.defaultGetLocalZoneRules
      pure (rules.timezoneAt now).offset.second.toInt
    catch _ => pure 0
  return ⟨nanos.fdiv 1000000000, (nanos.fmod 1000000000).toNat, offset⟩

/-! ### Logs -/

/-- The open files of the log book. -/
structure Logs where
  access : Option IO.FS.Handle
  error : Option IO.FS.Handle

def openLog (target : LogTarget) : IO (Option IO.FS.Handle) := do
  match target with
  | .stream => return none
  | .file place =>
    IO.FS.createDirAll (pathText place.dropLast)
    return some (← IO.FS.Handle.mk (pathText place) .append)

def openLogs (b : LogBook) : IO Logs := do
  return ⟨← openLog (b.target .access), ← openLog (b.target .error)⟩

def Logs.write (logs : Logs) (line : LogLine) : IO Unit := do
  let handle? :=
    match line.1 with
    | .access => logs.access
    | .error => logs.error
  match handle? with
  | none => IO.eprintln line.2
  | some handle =>
    try
      handle.putStr (line.2 ++ "\n")
      handle.flush
    catch e =>
      IO.eprintln line.2
      IO.eprintln ("[ERROR] Failed to write log line: " ++ toString e)

/-! ### Connections -/

def socketAddress (a : SocketAddr) : Std.Net.SocketAddress :=
  match a.ip with
  | .v4 octets => .v4 ⟨⟨octets⟩, a.port⟩
  | .v6 groups => .v6 ⟨⟨groups⟩, a.port⟩

def ofSocketAddress : Std.Net.SocketAddress → SocketAddr
  | .v4 a => ⟨.v4 a.addr.octets, a.port, 0⟩
  | .v6 a => ⟨.v6 a.addr.segments, a.port, 0⟩

structure Context where
  site : Site
  logs : Logs
  active : IO.Ref Nat

def Context.emit (ctx : Context) (client : Socket.Client)
    (r : Connection × Bytes × List LogLine) : IO Connection := do
  let (c, out, lines) := r
  lines.forM ctx.logs.write
  if !out.isEmpty then (client.send ⟨out.toArray⟩).block
  return c

def Context.takeByte (ctx : Context) (client : Socket.Client) (c : Connection) (b : UInt8) :
    IO Connection := do
  match c.session.feed ctx.site.settings.performance.keepAlive b with
  | .quiet session => return { c with session }
  | .malformed e => ctx.emit client (c.refuse ⟨← moment, 0⟩ e)
  | .request i =>
    let started ← IO.monoNanosNow
    let t ← treeFor ctx.site i.request.target
    let micros := ((← IO.monoNanosNow) - started) / 1000
    ctx.emit client (c.answer t ctx.site ⟨← moment, micros⟩ i)

def instant : IO Instant := do
  let nanos ← IO.monoNanosNow
  return ⟨.ofNat (nanos / 1000000000), nanos % 1000000000⟩

/-- The longest that a single wait takes. -/
def maxMillis : Nat := 86400000

/-- The next bytes of a client; none at the end, or when the time is up. -/
def receive (client : Socket.Client) (deadline : Option Instant) :
    IO (Option (Option ByteArray)) := do
  let size : UInt64 := 65536
  match deadline with
  | none => return some (← (client.recv? size).block)
  | some deadline =>
    let left := min ((← instant).millisUntil deadline) maxMillis
    let race : Std.Async.Async (Option (Option ByteArray)) := do
      Std.Async.Selectable.one #[
        .case (client.recvSelector size) fun bs => return some bs,
        .case (← Std.Async.Selector.sleep (.ofNat left)) fun _ => return none]
    race.block

/-- Takes what has come in, until the task stops. -/
def Context.take (ctx : Context) (client : Socket.Client) (w : Watched) :
    List UInt8 → IO (Option Watched)
  | [] => return some w
  | b :: r => do
    let c ← ctx.takeByte client w.connection b
    match w.next? ctx.site (← instant) b c with
    | none => return none
    | some w => ctx.take client w r

/-- Serves a connection to its end, and gives whether it was reached. -/
partial def Context.serve (ctx : Context) (client : Socket.Client) (w : Watched) : IO Bool := do
  if w.connection.session.isClosed then return true
  match ← receive client w.deadline with
  | none =>
    match w.deadline with
    | some deadline =>
      if (← instant).millisUntil deadline = 0 then
        ctx.logs.write (.ofNotice (.connectionFailed "hyper::Error(HeaderTimeout)"))
        return true
      else ctx.serve client w
    | none => ctx.serve client w
  | some none =>
    w.connection.finish.2.forM ctx.logs.write
    return true
  | some (some bs) =>
    match ← ctx.take client w bs.data.toList with
    | none => return false
    | some w => ctx.serve client w

/-- The task of a connection. If it stops on the way, the connection stays in the count. -/
def Context.task (ctx : Context) (client : Socket.Client) (peer : SocketAddr) : IO Unit := do
  let ended ←
    try
      match Watched.start? ctx.site (← instant) peer with
      | none => pure false
      | some w =>
        let ended ← ctx.serve client w
        client.shutdown.block
        pure ended
    catch e =>
      ctx.logs.write (.ofNotice (.connectionFailed (toString e)))
      pure true
  if ended then ctx.active.modify Admission.lower
  else IO.eprintln "overflow when adding duration to instant"

def Context.accept (ctx : Context) (client : Socket.Client) : IO Unit := do
  let peer := ofSocketAddress (← client.getPeerName)
  let limit := ctx.site.settings.performance.maxConnections
  let before ← ctx.active.modifyGet Admission.raise
  if Admission.fits limit before then
    discard <| IO.asTask (ctx.task client peer) .dedicated
  else
    ctx.active.modify Admission.lower
    ctx.logs.write (.ofNotice
      (.connectionRefused before ((limit.map UInt64.toNat).getD 0) peer.text))
    try client.shutdown.block catch _ => pure ()

/-- Accepts connections for ever; after a failure it pauses. -/
partial def Context.run (ctx : Context) (server : Socket.Server) : IO Unit := do
  try ctx.accept (← server.accept.block)
  catch e =>
    ctx.logs.write (.ofNotice (.error ("Failed to accept connection: " ++ toString e)))
    IO.sleep 100
  ctx.run server

/-! ### Starting -/

/-- The tree that starting up depends on. -/
def startTree (dir : List Name) : IO FileTree := do
  let t ← lookAt .empty dir
  let names := Settings.fileStem :: Settings.fileNames
  let t ← names.foldlM (fun t n => lookAt t (dir ++ [utf8 n])) t
  match Settings.load t dir (utf8 Settings.fileStem) with
  | .error _ => return t
  | .ok s =>
    let paths := s.logging.accessLogFile.toList ++ s.logging.errorLogFile.toList
    paths.foldlM (fun t p => lookAt t (Path.join dir (utf8 p))) t

def backlog : UInt32 := 128

def start : IO UInt32 := do
  let dir := Path.steps (utf8 (← IO.currentDir).toString)
  match Startup.start (fun _ => .ok ()) dir (.closed (← startTree dir)) with
  | (_, .error e) =>
    IO.eprintln ("Error: " ++ e.message)
    return if e.isAbort then 101 else 1
  | (book, .ok running) =>
    let logs ← openLogs book
    let server ← Socket.Server.mk
    server.bind (socketAddress running.address)
    server.listen backlog
    IO.println (Running.announcement running.address)
    (← IO.getStdout).flush
    Context.run ⟨running.site, logs, ← IO.mkRef 0⟩ server
    return 0

end DocRoot.Host

def main : IO UInt32 := do
  try DocRoot.Host.start
  catch e =>
    IO.eprintln ("Error: " ++ toString e)
    return 1
