import PooledServer.Events.Kernel
import PooledServer.Events.Report
import PooledServer.Events.Table
import PooledServer.Readiness
import PooledServer.Sync.Mutex

/-!
# The event server

    One thread waits for readiness events and acts on them; requests are completed on any thread.  An
    operation is a list of stages, each of which holds the table's lock once or makes one call to the
    readiness backend, so threads interleave between stages and nowhere else.

    Three orders make up the protocol.  A new connection is put into the table before it is watched.
    A ready connection loses its watch before its socket is taken out of the table.  A socket that
    comes back is put into the table before it is watched again.
-/

namespace PooledServer.Events

open Net

/-- A readiness event. -/
structure Event where
  descriptor : Descriptor
  readiness : Readiness
  deriving DecidableEq, Repr

/-- What a thread is about to do. -/
inductive Stage where
  /-- Act on the event with this place in its batch. -/
  | event (index : Nat) (e : Event)
  /-- Accept a connection that waits at the listener. -/
  | accept
  /-- Put a new connection into the table. -/
  | track (s : Socket)
  /-- Watch a new connection. -/
  | watch (d : Descriptor)
  /-- Take a connection that is to be closed out of the table. -/
  | close (d : Descriptor)
  /-- End the watch of a connection taken out of the table, and close it. -/
  | unwatchClosed (d : Descriptor) (s : Option Socket)
  /-- Take a connection whose number is no longer open out of the table. -/
  | forget (d : Descriptor)
  /-- End the watch of a forgotten connection; its number is left alone. -/
  | unwatchForgotten (d : Descriptor) (s : Option Socket)
  /-- End the watch of a ready connection. -/
  | unwatchReady (index : Nat) (d : Descriptor)
  /-- Take the socket of a ready connection out of the table. -/
  | lend (index : Nat) (d : Descriptor)
  /-- Hand a request to the handler. -/
  | serve (r : Request)
  /-- Tell that the handler panicked. -/
  | panicked (d : Descriptor) (message : String)
  /-- A socket comes back: look whether its number is still open. -/
  | comeBack (s : Socket)
  /-- Put a socket that came back into the table, or take its entry out. -/
  | park (s : Socket) (isValid : Bool)
  /-- Give up a socket that came back and is not kept. -/
  | release (s : Socket) (isValid : Bool)
  /-- Watch a connection whose socket came back. -/
  | rearm (d : Descriptor)
  deriving Inhabited

/-- What accepting a connection brings. -/
inductive Arrival where
  /-- A connection under a number that was free.  Making it blocking or setting its options may
      fail, which changes nothing. -/
  | connection (d : Descriptor) (peer : Endpoint) (blocking options : Option IoError)
  | none
  | interrupted
  | failed (e : IoError)

/-- What a handler does with a request. -/
inductive Handling where
  /-- It keeps the request for later. -/
  | keeps
  /-- It finishes the request, whose socket it may have used, and perhaps panics. -/
  | finishes (isOpen : Bool) (pending : ByteArray) (panic : Option String)

/-- What everything outside the server does during one stage. -/
structure Luck where
  /-- Taking the table's lock works. -/
  lock : Bool := true
  /-- The failure of the call to the backend. -/
  backend : Option IoError := none
  arrival : Arrival := .none
  handling : Handling := .keeps

/-- A thread and the stages before it; the event loop is thread 0. -/
structure Thread where
  id : ThreadId
  agenda : List Stage

/-- An event server: the listener's descriptor, the tracked connections, the requests that handlers
    keep, the threads under way and what the system knows. -/
structure State where
  listener : Descriptor
  table : Table := []
  stats : Stats := {}
  kernel : Kernel := {}
  kept : List Request := []
  threads : List Thread := [⟨0, []⟩]
  nextThread : ThreadId := 1

namespace State

/-- What thread `t` has before it. -/
def agenda? (s : State) (t : ThreadId) : Option (List Stage) :=
  (s.threads.find? (·.id == t)).map (·.agenda)

/-- Thread `t` has `agenda` before it. -/
def setAgenda (s : State) (t : ThreadId) (agenda : List Stage) : State :=
  { s with threads := s.threads.map fun th => if th.id = t then { th with agenda } else th }

/-- Drops a socket, which closes the number it was opened under. -/
def dropSocket (s : State) (socket : Socket) : State :=
  { s with kernel := s.kernel.close socket.descriptor }

/-- Drops a socket if there is one. -/
def dropSocket? (s : State) (socket : Option Socket) : State :=
  match socket with
  | some socket => s.dropSocket socket
  | none => s

/-- How many connections are tracked. -/
def trackedCount (s : State) : Nat :=
  s.table.length

/-- Whether `d` is in flight; nothing if it is not tracked. -/
def isBusy? (s : State) (d : Descriptor) : Option Bool :=
  (s.table.entry? d).map (·.isBusy)

end State

end PooledServer.Events
