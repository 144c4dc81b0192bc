import PooledServer.Events.Request

/-!
# Tracked connections

    Every connection of an event server has an entry under its descriptor.  While the connection is
    watched the entry holds its socket; while a request has the socket the entry is busy and empty.
-/

namespace PooledServer.Events

open Net

/-- The entry of a connection. -/
structure Entry where
  isBusy : Bool := false
  socket : Option Socket := none
  deriving Inhabited

/-- The entries by descriptor. -/
abbrev Table := List (Descriptor × Entry)

namespace Table

/-- The entry of `d`. -/
def entry? (t : Table) (d : Descriptor) : Option Entry :=
  (t.find? (·.1 == d)).map (·.2)

/-- The table without the entry of `d`. -/
def erase (t : Table) (d : Descriptor) : Table :=
  t.filter (·.1 != d)

/-- The table with `e` as the entry of `d`, in place of any other. -/
def insert (t : Table) (d : Descriptor) (e : Entry) : Table :=
  (d, e) :: t.erase d

/-- The socket in the entry of `d`. -/
def socket? (t : Table) (d : Descriptor) : Option Socket :=
  (t.entry? d).bind (·.socket)

end Table

/-- What an event server has done so far.  The numbers are kept in 64 bits; a run has fewer than 2^64
    events of any kind, so none of them wraps around. -/
structure Stats where
  accepted : Nat := 0
  acceptErrors : Nat := 0
  dispatched : Nat := 0
  droppedBusy : Nat := 0
  rearmed : Nat := 0
  closed : Nat := 0
  deriving DecidableEq, Repr, Inhabited

end PooledServer.Events
