import DocRoot.Address.Socket
import DocRoot.Fault

/-!
# Networks

What a program can reach. In a network that is cut off every address can be taken, and
no connection comes about. On a host that reaches only itself the addresses of that
host, and those that stand for all of them, can be taken and connected to.
-/

set_option autoImplicit false

namespace DocRoot

inductive Network
  | isolated
  | loopback
  deriving DecidableEq, Repr

namespace Network

def addressNotAvailable : Fault := .os 99

/-- Whether an address belongs to the host or stands for all of its addresses. -/
def isOwn : Ip → Bool
  | .v4 octets =>
    octets.toList.head?.any (·.toNat = 127) || octets.toList.all (·.toNat = 0)
  | .v6 groups =>
    groups.toList.dropLast.all (·.toNat = 0) && groups.toList.getLast?.any (·.toNat ≤ 1)

/-- Takes an address to listen at. -/
def listen (n : Network) (a : SocketAddr) : Except Fault Unit :=
  match n with
  | isolated => .ok ()
  | loopback => if isOwn a.ip then .ok () else .error addressNotAvailable

/-- Connects to a program that listens at an address. -/
def connect (n : Network) (a : SocketAddr) : Except Fault Unit :=
  match n with
  | isolated => .error .unreachable
  | loopback => if isOwn a.ip then .ok () else .error .unreachable

end Network

end DocRoot
