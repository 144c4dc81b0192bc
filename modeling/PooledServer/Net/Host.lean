import PooledServer.Error
import PooledServer.Log
import PooledServer.Net.Address

/-!
# Hosts

    What a host without a network offers to a process that has no privileges.  Every IPv4 address can
    be listened on, of the IPv6 addresses only the unspecified one, and no connection can be opened.

    A listener has its address and port for itself.  The unspecified address stands for all addresses
    of its family, that of IPv6 for those of IPv4 too.
-/

namespace PooledServer.Net

open Log (Component)

/-- The addresses and ports that are listened on, and whether the process may open descriptors. -/
structure Host where
  listening : List Endpoint := []
  canOpen : Bool := true
  nextPort : Nat := 32768
  deriving Inhabited

/-- The process has all the descriptors it may have. -/
def tooManyOpenFiles : IoError := .system 24

/-- The only interface, which is not up. -/
def loopbackInterface : UInt32 := 1

/-- Ports below this one need a privilege. -/
def firstFreePort : UInt16 := 1024

/-- The IPv6 address that stands for all. -/
def Address.anyV6 : Address := .v6 (Vector.replicate 8 0)

/-- IPv4 addresses in IPv6 form stand for themselves. -/
def Address.plain : Address → Address
  | .v4 a b c d => .v4 a b c d
  | .v6 groups =>
    match groups.toList with
    | [0, 0, 0, 0, 0, 0xffff, g, h] =>
      .v4 (g >>> 8).toUInt8 g.toUInt8 (h >>> 8).toUInt8 h.toUInt8
    | _ => .v6 groups

/-- Whether listeners at two addresses get in each other's way. -/
def Address.overlaps (a b : Address) : Bool :=
  match a.plain, b.plain with
  | .v4 0 0 0 0, .v4 .. | .v4 .., .v4 0 0 0 0 => true
  | a, b => a == b || a == anyV6 || b == anyV6

namespace Host

/-- Why a process cannot listen at an address and port, whoever else does. -/
def refusal (e : Endpoint) : Option IoError :=
  let privilege : Option IoError :=
    if e.port ≠ 0 ∧ e.port < firstFreePort then some (.system 13) else none
  match e.address.plain with
  | .v4 .. => privilege
  | .v6 groups =>
    let first := groups[0]
    if first &&& 0xff00 = 0xff00 then some (.system 22)
    else if privilege.isSome ∨ e.address = .anyV6 then privilege
    else if first &&& 0xffc0 = 0xfe80 ∧ e.scope ≠ loopbackInterface then
      some (.system (if e.scope = 0 then 22 else 19))
    else some (.system 99)

/-- Whether somebody listens where `e` would get in the way. -/
def isTaken (h : Host) (e : Endpoint) : Bool :=
  h.listening.any fun l => l.port == e.port && l.address.overlaps e.address

/-- Begins to listen.  Port 0 stands for any port that nobody has. -/
def listen (h : Host) (e : Endpoint) : Except IoError (Endpoint × Host) :=
  if !h.canOpen then .error tooManyOpenFiles
  else
    match refusal e with
    | some reason => .error reason
    | none =>
      let e := { e with scope := 0 }
      if e.port = 0 then
        let bound : Endpoint := { e with port := h.nextPort.toUInt16 }
        .ok (bound, { h with listening := bound :: h.listening, nextPort := h.nextPort + 1 })
      else if h.isTaken e then .error (.system 98)
      else .ok (e, { h with listening := e :: h.listening })

/-- Stops listening. -/
def release (h : Host) (e : Endpoint) : Host :=
  { h with listening := h.listening.erase e }

/-- Why a connection cannot be opened. -/
def connectFailure (h : Host) : IoError :=
  if h.canOpen then .system 101 else tooManyOpenFiles

end Host

/-- The number of connections that may wait at a listener, as the system takes it. -/
def backlog (asked : Nat) : Nat :=
  min (max asked 1) 2147483647

/-- The record of a new listener: where it was asked to listen, its descriptor as it is written, and
    how many connections may wait. -/
def listeningRecord (e : Endpoint) (descriptor : String) (asked : Nat) : Log.Record :=
  Component.net.debug s!"listening on {e.text} (fd {descriptor}, backlog {backlog asked})"

end PooledServer.Net
