/-!
# Error-checking mutexes

    A mutex knows which thread holds it.  Locking again by the holder and unlocking by anyone else are
    refused with an error number instead of blocking for ever or handing the lock away.  Beside the
    truth the mutex keeps a note of how the last lock or unlock through it ended; condition waits
    release and take the mutex without touching that note.
-/

namespace PooledServer

/-- The number of a thread. -/
abbrev ThreadId := Nat

namespace Sync

/-- A mutex and its holder. -/
structure Mutex where
  name : String
  holder : Option ThreadId := none
  /-- The last successful lock or unlock was a lock. -/
  noted : Bool := false
  deriving DecidableEq, Repr

/-- How asking for a mutex ends. -/
inductive Acquired where
  | locked (mutex : Mutex)
  /-- Refused with an error number. -/
  | refused (errno : Nat)
  /-- Another thread holds it: the caller has to wait. -/
  | held
  deriving DecidableEq, Repr

/-- The holder asks for the mutex again. -/
def errnoDeadlock : Nat := 35

/-- The caller does not hold the mutex. -/
def errnoNotOwner : Nat := 1

/-- The mutex is destroyed while it is held. -/
def errnoBusy : Nat := 16

namespace Mutex

/-- Thread `t` asks for the mutex. -/
def lock (m : Mutex) (t : ThreadId) : Acquired :=
  match m.holder with
  | none => .locked { m with holder := some t, noted := true }
  | some u => if u = t then .refused errnoDeadlock else .held

/-- Thread `t` takes the mutex if nobody holds it. -/
def tryLock (m : Mutex) (t : ThreadId) : Option Mutex :=
  match m.holder with
  | none => some { m with holder := some t, noted := true }
  | some _ => none

/-- Thread `t` gives the mutex up; only its holder can. -/
def unlock (m : Mutex) (t : ThreadId) : Option Mutex :=
  if m.holder = some t then some { m with holder := none, noted := false } else none

/-- Thread `t` gives the mutex up to wait; only its holder can. -/
def release (m : Mutex) (t : ThreadId) : Option Mutex :=
  if m.holder = some t then some { m with holder := none } else none

/-- Thread `t` takes the mutex again after a wait, once nobody holds it. -/
def retake (m : Mutex) (t : ThreadId) : Option Mutex :=
  match m.holder with
  | none => some { m with holder := some t }
  | some _ => none

end Mutex

end Sync

end PooledServer
