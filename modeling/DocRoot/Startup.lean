import DocRoot.Address.Socket
import DocRoot.LogBook
import DocRoot.Settings.File
import DocRoot.Site

/-!
# Starting up

A program is started in a directory: it loads its settings there, opens its log book,
takes its address and serves the directory. Whatever fails on the way ends it, and what
the log book made by then stays.
-/

set_option autoImplicit false

namespace DocRoot

inductive StartError
  | settings (cause : Settings.LoadError)
  | fault (cause : Fault)
  | badAddress
  /-- A server that may have no workers cannot be. The program stops. -/
  | noWorkers
  deriving Repr

namespace StartError

def message : StartError → String
  | settings cause => cause.message
  | fault cause => cause.message
  | badAddress => SocketAddr.syntaxMessage
  | noWorkers => "Worker threads cannot be set to 0"

/-- Whether the program is stopped by a fault of its own, and not ended in order. -/
def isAbort : StartError → Bool
  | settings .foreignKey => true
  | noWorkers => true
  | _ => false

end StartError

/-- A program that serves. -/
structure Running where
  site : Site
  address : SocketAddr
  deriving Repr

namespace Running

/-- The line that is printed first. -/
def announcement (address : SocketAddr) : String := "Serving at port: " ++ toString address.port

end Running

namespace Startup

/-- The part that opens the log book, after which the settings are known. -/
def openLogs (dir : List Name) (b : LogBook) : LogBook × Except StartError Settings :=
  match Settings.load b.files dir (utf8 Settings.fileStem) with
  | .error e => (b, .error (.settings e))
  | .ok s =>
    match b.openWith dir s.logging.accessLogFile s.logging.errorLogFile with
    | (b, .error e) => (b, .error (.fault e))
    | (b, .ok ()) => (b, .ok s)

/-- The part that follows, on the files as the log book left them. Taking an address may
fail. -/
def serve (listen : SocketAddr → Except Fault Unit) (dir : List Name) (t : FileTree)
    (s : Settings) : Except StartError Running := do
  if s.server.workers = some 0 then throw .noWorkers
  let some address := SocketAddr.ofHostPort? s.server.host s.server.port | throw .badAddress
  (listen address).mapError .fault
  let site ← (Site.make t s dir).mapError .fault
  return ⟨site, address⟩

def start (listen : SocketAddr → Except Fault Unit) (dir : List Name) (b : LogBook) :
    LogBook × Except StartError Running :=
  match openLogs dir b with
  | (b, .error e) => (b, .error e)
  | (b, .ok s) => (b, serve listen dir b.files s)

end Startup

end DocRoot
