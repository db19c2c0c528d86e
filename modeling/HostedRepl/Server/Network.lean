/-
The network a server listens on.

* `NetworkFault`: why a socket could not be bound or connected.
* `Network`: what binding and connecting come to.
* `Network.loopback`: a system that can only talk to itself.
* `Network.offline`: a system without any network. Addresses of version 4 can be bound all the
  same, while no endpoint can be reached and no name be looked up.
-/
import HostedRepl.Server.Address

namespace HostedRepl

/-- Why a socket could not be bound or connected. -/
inductive NetworkFault where
  | inUse
  | notAvailable
  | unreachable
  | invalidAddress
  /-- The scope of an address is none of the networks. -/
  | noDevice
  /-- The text cannot be the name of a host. -/
  | unknownName
  /-- Nobody could be asked about a name. -/
  | unresolved
  | nulCharacter
  deriving DecidableEq, Repr

/-- The wording of a fault. -/
def NetworkFault.message : NetworkFault → String
  | inUse => "Address already in use (os error 98)"
  | notAvailable => "Cannot assign requested address (os error 99)"
  | unreachable => "Network is unreachable (os error 101)"
  | invalidAddress => "Invalid argument (os error 22)"
  | noDevice => "No such device (os error 19)"
  | unknownName => "failed to lookup address information: Name or service not known"
  | unresolved => "failed to lookup address information: Temporary failure in name resolution"
  | nulCharacter => "file name contained an unexpected NUL byte"

/-- What binding and connecting come to. -/
structure Network where
  /-- Listen on a host and port; port 0 leaves the choice to the system. -/
  bind : (host : String) → (port : Nat) → Except NetworkFault Endpoint
  /-- Reach an endpoint on which a server listens. -/
  connect : Endpoint → Except NetworkFault Unit

namespace Network

/-- The port the system chooses. -/
def freePort : Nat := 40000

/-- Why an address cannot be bound that no network has. Streams have no groups of version 6 as their
ends, and an address that is local to a network needs the network as its scope; the one network
there is has the number 1. -/
def faultOf : Address → NetworkFault
  | .v4 _ => .notAvailable
  | .v6 bits scope =>
    if bits / Nat.pow 2 120 = 0xff then .invalidAddress
    else if bits / Nat.pow 2 118 = 0xfe80 / Nat.pow 2 6 then
      if scope = 0 then .invalidAddress else if scope = 1 then .notAvailable else .noDevice
    else .notAvailable

/-- Why a host that is not given by number cannot be bound. -/
def faultOfName (host : String) : NetworkFault :=
  if host.contains '\x00' then .nulCharacter
  else if isHostName host then .unresolved
  else .unknownName

/-- Bind a host given by number, if `allowed` holds of its address. For an address of version 6 that
stands for one of version 4 the latter is asked about. -/
def bindNumeric (allowed : Address → Bool) (host : String) (port : Nat) :
    Except NetworkFault Endpoint :=
  match Address.ofHost? host with
  | none => .error (faultOfName host)
  | some a =>
    let asked := match a.mapped? with
      | some bits => .v4 bits
      | none => a
    if allowed asked then .ok ⟨a, if port = 0 then freePort else port⟩ else .error (faultOf a)

/-- A system that can only talk to itself. -/
def loopback : Network where
  bind := bindNumeric fun a => a.isLoopback || a == .v4 0 || a == .v6 0 0
  connect _ := .ok ()

/-- A system without any network. -/
def offline : Network where
  bind := bindNumeric fun a =>
    match a with
    | .v4 _ => true
    | .v6 bits _ => bits = 0
  connect _ := .error .unreachable

end Network

end HostedRepl
