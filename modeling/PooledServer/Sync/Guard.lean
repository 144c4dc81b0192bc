import PooledServer.Sync.Call

/-!
# Lock guards

    A guard stands for one attempt to lock a mutex.  A guard of the bare mutex is made whether or not
    the attempt succeeds; if it did, the guard gives the lock up when it is told to or, at the latest,
    when it goes away.  A guard of protected data is made only if the attempt succeeds; its thread can
    wait on a condition through it, and while it does, the mutex is free.
-/

namespace PooledServer.Sync

/-- A guard of the bare mutex. -/
structure Guard where
  thread : ThreadId
  /-- The guard has locked the mutex and not given it up. -/
  locked : Bool
  deriving DecidableEq, Repr

namespace Guard

/-- Gives the lock up before the guard goes away.  Only the first time does anything. -/
def unlock (g : Guard) (m : Mutex) : Guard × Called Mutex :=
  if g.locked then ({ g with locked := false }, m.callUnlock g.thread) else (g, ⟨false, m, []⟩)

/-- The guard goes away. -/
def drop (g : Guard) (m : Mutex) : Called Mutex :=
  if g.locked then m.callUnlock g.thread else ⟨false, m, []⟩

end Guard

/-- A guard of protected data. -/
structure Access where
  thread : ThreadId
  /-- The thread waits on a condition through the guard. -/
  waiting : Bool := false
  deriving DecidableEq, Repr

/-- The guard goes away. -/
def Access.drop (g : Access) (m : Mutex) : Called Mutex := m.callUnlock g.thread

/-! ## Guards of many threads on one mutex -/

/-- A guard of either kind. -/
inductive LockGuard where
  | bare (guard : Guard)
  | access (guard : Access)
  deriving DecidableEq, Repr

namespace LockGuard

/-- The thread that has made the guard, and alone uses it. -/
def thread : LockGuard → ThreadId
  | bare g => g.thread
  | access g => g.thread

/-- The guard has taken the lock and neither given it up nor suspended it for a wait. -/
def holds : LockGuard → Bool
  | bare g => g.locked
  | access g => !g.waiting

def waits : LockGuard → Bool
  | bare _ => false
  | access g => g.waiting

/-- The guard unlocks the mutex when it goes away. -/
def unlocks : LockGuard → Bool
  | bare g => g.locked
  | access _ => true

def drop : LockGuard → Mutex → Called Mutex
  | bare g, m => g.drop m
  | access g, m => g.drop m

end LockGuard

/-- A mutex and the guards on it.  Attempts to lock are numbered as they come, and a guard goes by the
    number of its attempt. -/
structure Guarded where
  mutex : Mutex
  guards : List (Nat × LockGuard) := []
  attempts : Nat := 0
  deriving DecidableEq, Repr

/-- What threads do with guards. -/
inductive GuardMove where
  /-- Make a guard of the bare mutex.  `works` tells whether the system can carry out the call. -/
  | guard (thread : ThreadId) (works : Bool)
  /-- Ask for a guard of the data; `block` tells whether to wait for the mutex. -/
  | access (thread : ThreadId) (block works : Bool)
  | unlock (attempt : Nat)
  | drop (attempt : Nat)
  /-- Wait on a condition through a guard. -/
  | wait (attempt : Nat) (works : Bool)
  /-- End a wait. -/
  | resume (attempt : Nat)
  deriving DecidableEq, Repr

/-- What an attempt, or the guard it has made, has done with the mutex. -/
inductive Deed where
  | acquired (attempt : Nat)
  | failed (attempt : Nat)
  | released (attempt : Nat)
  /-- The mutex was given up to wait. -/
  | suspended (attempt : Nat)
  /-- The mutex was taken again after a wait. -/
  | resumed (attempt : Nat)
  /-- The mutex has refused to be given up. -/
  | refused (attempt : Nat)
  deriving DecidableEq, Repr

def Deed.attempt : Deed → Nat
  | acquired n | failed n | released n | suspended n | resumed n | refused n => n

/-- Thread `t` tries to lock a mutex; there is no answer while it has to wait for another thread. -/
def Mutex.attempt (m : Mutex) (t : ThreadId) (block works : Bool) : Option (Called Mutex) :=
  if works then
    if block then m.callLock t else some (m.callTryLock t)
  else some ⟨false, m, []⟩

namespace Guarded

/-- The guard of an attempt, while there is one. -/
def guard? (s : Guarded) (attempt : Nat) : Option LockGuard :=
  (s.guards.find? (·.1 == attempt)).map (·.2)

/-- The guards without that of an attempt. -/
def without (s : Guarded) (attempt : Nat) : List (Nat × LockGuard) :=
  s.guards.filter (·.1 != attempt)

/-- Thread `t` waits on a condition, and does nothing else. -/
def blocked (s : Guarded) (t : ThreadId) : Bool :=
  s.guards.any fun (_, g) => g.thread == t && g.waits

/-- An attempt has ended, and may have made a guard. -/
def enter (s : Guarded) (called : Called Mutex) (guard : Option LockGuard) : Guarded × List Deed :=
  ({ mutex := called.after
     guards := match guard with
       | some g => (s.attempts, g) :: s.guards
       | none => s.guards
     attempts := s.attempts + 1 },
    [if called.result then .acquired s.attempts else .failed s.attempts])

/-- The guard of an attempt becomes another. -/
def replace (s : Guarded) (attempt : Nat) (guard : LockGuard) (mutex : Mutex) : Guarded :=
  { s with mutex, guards := (attempt, guard) :: s.without attempt }

/-- What is done by unlocking the mutex, if a guard does. -/
def unlocked (attempt : Nat) (unlocks : Bool) (called : Called Mutex) : List Deed :=
  if unlocks then [if called.result then .released attempt else .refused attempt] else []

/-- One move, if it is possible. -/
def move (s : Guarded) : GuardMove → Option (Guarded × List Deed)
  | .guard t works =>
    if s.blocked t then none
    else
      (s.mutex.attempt t true works).map fun called =>
        s.enter called (some (.bare ⟨t, called.result⟩))
  | .access t block works =>
    if s.blocked t then none
    else
      (s.mutex.attempt t block works).map fun called =>
        s.enter called (if called.result then some (.access { thread := t }) else none)
  | .unlock n =>
    match s.guard? n with
    | some (.bare g) =>
      if s.blocked g.thread then none
      else
        let (after, called) := g.unlock s.mutex
        some (s.replace n (.bare after) called.after, unlocked n g.locked called)
    | _ => none
  | .drop n =>
    match s.guard? n with
    | some g =>
      if s.blocked g.thread then none
      else
        let called := g.drop s.mutex
        some ({ s with mutex := called.after, guards := s.without n }, unlocked n g.unlocks called)
    | none => none
  | .wait n works =>
    match s.guard? n with
    | some (.access g) =>
      if s.blocked g.thread then none
      else if works then
        match s.mutex.release g.thread with
        | some mutex => some (s.replace n (.access { g with waiting := true }) mutex, [.suspended n])
        | none => some (s, [.refused n])
      else some (s, [])
    | _ => none
  | .resume n =>
    match s.guard? n with
    | some (.access g) =>
      if g.waiting then
        (s.mutex.retake g.thread).map fun mutex =>
          (s.replace n (.access { g with waiting := false }) mutex, [.resumed n])
      else none
    | _ => none

/-- A sequence of moves, and all that was done. -/
def run (s : Guarded) : List GuardMove → Option (Guarded × List Deed)
  | [] => some (s, [])
  | m :: rest =>
    (s.move m).bind fun (s, deeds) => (s.run rest).map fun (s, later) => (s, deeds ++ later)

end Guarded

end PooledServer.Sync
