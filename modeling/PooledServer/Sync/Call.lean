import PooledServer.Error
import PooledServer.Sync.Mutex
import PooledServer.Work.Item

/-!
# Calls on threading primitives

    Mutexes and condition variables are made under a name, and calls on a mutex report success as a
    truth value.  A script of failures says which calls fail.  What the system refuses is logged; what
    the script refuses is not, because the call never gets to the system.
-/

namespace PooledServer.Sync

open Work (Note)
open Log (Component Record)

/-! ## Failures

    Each failure of a script waits for calls of one primitive, possibly on one object only, lets some
    of them pass and strikes one, once. -/

/-- The calls that can be made to fail. -/
inductive Primitive where
  | mutexInit
  | conditionInit
  | threadCreate
  | spawn
  | lock
  | tryLock
  | wait
  | join
  deriving DecidableEq, Repr

/-- A failure that is still to come, or spent. -/
structure Fault where
  primitive : Primitive
  /-- Only calls on the object of this name count. -/
  object : Option String := none
  /-- The call that fails, counted from one; zero once the failure is spent. -/
  left : Nat := 1
  errno : Int := 12
  deriving DecidableEq, Repr

/-- The failures of a run. -/
abbrev Faults := List Fault

/-- Whether a call counts for the failure. -/
def Fault.counts (f : Fault) (primitive : Primitive) (object : String) : Bool :=
  f.primitive == primitive && f.left != 0 && (f.object.isNone || f.object == some object)

/-- A call is made: the error number if it fails, and what is left of the script. -/
def Faults.meet (primitive : Primitive) (object : String) : Faults → Option Int × Faults
  | [] => (none, [])
  | f :: rest =>
    let (later, rest') := Faults.meet primitive object rest
    if f.counts primitive object then
      let struck := if f.left = 1 then some f.errno else none
      (struck <|> later, { f with left := f.left - 1 } :: rest')
    else (later, f :: rest')

/-- Without a script nothing fails. -/
theorem Faults.meet_nil (primitive : Primitive) (object : String) :
    Faults.meet primitive object [] = (none, []) := rfl

/-! ## Making primitives

    A mutex or condition variable is made under a name.  The name is noted even if making it fails. -/

/-- Makes a mutex. -/
def createMutex (name : String) (faults : Faults) : List Note × Faults × Except SyncError Mutex :=
  let (struck, faults) := faults.meet .mutexInit name
  let made : Note := .created ("mutex " ++ name)
  match struck with
  | some errno => ([made], faults, .error (.mutexInit name errno))
  | none => ([made, .log (Component.primitives.trace s!"mutex '{name}' created")], faults, .ok { name })

/-- Makes a condition variable. -/
def createCondition (name : String) (faults : Faults) : List Note × Faults × Except SyncError Unit :=
  let (struck, faults) := faults.meet .conditionInit name
  let made : Note := .created ("condvar " ++ name)
  match struck with
  | some errno => ([made], faults, .error (.conditionInit name errno))
  | none =>
    ([made, .log (Component.primitives.trace s!"condition variable '{name}' created")], faults, .ok ())

/-! ## Calls on mutexes -/

/-- What a call leaves behind. -/
structure Called (α : Type) where
  result : Bool
  after : α
  records : List Record := []

namespace Mutex

/-- Locks the mutex; there is no answer while another thread holds it. -/
def callLock (m : Mutex) (t : ThreadId) : Option (Called Mutex) :=
  match m.lock t with
  | .locked m => some ⟨true, m, []⟩
  | .refused errno =>
    some ⟨false, m, [Component.primitives.debug s!"mutex '{m.name}' lock failed: errno {errno}"]⟩
  | .held => none

/-- Locks the mutex if nobody holds it.  That somebody does is nothing to log. -/
def callTryLock (m : Mutex) (t : ThreadId) : Called Mutex :=
  match m.tryLock t with
  | some m => ⟨true, m, []⟩
  | none => ⟨false, m, []⟩

/-- Unlocks the mutex. -/
def callUnlock (m : Mutex) (t : ThreadId) : Called Mutex :=
  match m.unlock t with
  | some m => ⟨true, m, []⟩
  | none =>
    ⟨false, m, [Component.primitives.debug s!"mutex '{m.name}' unlock failed: errno {errnoNotOwner}"]⟩

/-- What destroying the mutex has to say. -/
def destroy (m : Mutex) : List Record :=
  if m.holder.isSome then
    [Component.primitives.error s!"mutex '{m.name}' destroyed while in use: errno {errnoBusy}"]
  else []

end Mutex

end PooledServer.Sync
