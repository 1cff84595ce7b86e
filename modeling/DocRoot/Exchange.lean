import DocRoot.AccessLog.Entry
import DocRoot.Address.Socket
import DocRoot.Serving

/-!
# Exchanges

A request comes from a peer, is answered, and leaves its traces: what the operator is
told while it is answered, and, if the site keeps an access log, one entry.
-/

set_option autoImplicit false

namespace DocRoot

/-- When a request was answered and how long that took. -/
structure Timing where
  moment : Moment
  micros : Nat
  deriving DecidableEq, Repr

structure Exchange where
  response : Http.Response
  notices : List Notice
  access : Option AccessLog.Entry
  deriving DecidableEq, Repr

namespace Exchange

def entry (request : Http.Request) (peer : SocketAddr) (response : Http.Response)
    (timing : Timing) : AccessLog.Entry where
  remote := peer.ip.text
  time := timing.moment
  method := request.method.token
  target := request.target.text
  version := request.version
  status := response.status
  bodyBytes := response.body.length
  referer := request.headerText? "referer"
  userAgent := request.headerText? "user-agent"
  micros := timing.micros

def handle (t : FileTree) (site : Site) (request : Http.Request) (peer : SocketAddr)
    (timing : Timing) : Exchange :=
  let answer := Serving.answer t site request.method request.target
  { response := answer.1
    notices := answer.2
    access :=
      if site.settings.logging.accessLog then some (entry request peer answer.1 timing) else none }

/-- The line of the access log, in the form the settings name. -/
def accessLine? (site : Site) (x : Exchange) : Option String :=
  x.access.map (·.line (.ofName site.settings.logging.accessLogFormat))

end Exchange

end DocRoot
