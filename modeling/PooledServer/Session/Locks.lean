import PooledServer.Sync.Guard
import PooledServer.Sync.Call

/-!
# A session with locks

    One thread uses a plain mutex, by hand and through guards, and a list of numbers that a second
    mutex protects.
-/

namespace PooledServer.Session.Locks

open Sync (Mutex Guard Primitive)
open Log (Record)

/-- The mutexes, the guards on the plain one (latest first), and the list. -/
structure State where
  plain : Mutex
  guards : List Guard := []
  protector : Mutex := { name := "guard" }
  /-- The protected list; `none` once it has been taken out. -/
  values : Option (List Int) := some []
  faults : Sync.Faults

/-- One step. -/
inductive Command where
  | lock
  | tryLock
  | unlock
  | isLocked
  | name
  | makeGuard
  | unlockGuard
  | dropGuard
  | push (value : Int)
  | values
  | tryValues
  | appendUnlocked (value : Int)
  | waitTimeout
  | failingWait
  | protectorLocked
  | unlockProtector
  | lockProtector
  | takeOut
  | fault (fault : Sync.Fault)

/-- The answer to a step. -/
inductive Reply where
  | ok
  | nothing
  | consumed
  | flag (value : Bool)
  | flags (values : List Bool)
  | number (value : Nat)
  | numbers (values : List Int)
  | text (value : String)
  /-- What a push has seen: the list, whether a second lock and a second attempt fail, and the note. -/
  | pushed (values : List Int) (again tryAgain locked : Bool)
  /-- A push that did not get the lock. -/
  | notPushed
  /-- The outcome of a wait and the length of the list. -/
  | waited (woken : Bool) (length : Nat)

/-- The only thread. -/
def self : ThreadId := 0

/-- The session at its beginning, and the log of making the mutexes. -/
def new (name : String) (faults : Sync.Faults) : State × List Record :=
  let made := [Sync.createMutex name [], Sync.createMutex "guard" []].flatMap fun m => Work.Note.records m.1
  ({ plain := { name }, faults }, made ++ Work.Note.records (Sync.createCondition "cv" []).1)

namespace State

/-- Locks a mutex, unless the script has it fail. -/
def lockWith (s : State) (m : Mutex) : Sync.Called Mutex × State :=
  let (struck, faults) := s.faults.meet .lock m.name
  let called := if struck.isSome then none else m.callLock self
  (called.getD ⟨false, m, []⟩, { s with faults })

/-- Tries to lock a mutex, unless the script has it fail. -/
def tryLockWith (s : State) (m : Mutex) : Sync.Called Mutex × State :=
  let (struck, faults) := s.faults.meet .tryLock m.name
  (if struck.isSome then ⟨false, m, []⟩ else m.callTryLock self, { s with faults })

/-- Does something while the list's mutex is locked; nothing if it cannot be locked. -/
def locked (acquired : Sync.Called Mutex × State) (values : List Int)
    (f : State → List Int → State × List Int × Reply × List Record) : State × Reply × List Record :=
  let (called, s) := acquired
  if called.result then
    let (s, values, reply, records) := f { s with protector := called.after } values
    let released := s.protector.callUnlock self
    ({ s with protector := released.after, values := some values }, reply,
      called.records ++ records ++ released.records)
  else (s, .nothing, called.records)

/-- A step on the list. -/
def onValues (s : State) (values : List Int) (command : Command) : State × Reply × List Record :=
  match command with
  | .push value =>
    let push (s : State) (values : List Int) : State × List Int × Reply × List Record :=
      let values := values ++ [value]
      let (again, s) := s.lockWith s.protector
      let (tryAgain, s) := s.tryLockWith s.protector
      (s, values, .pushed values (!again.result) (!tryAgain.result) s.protector.noted, again.records)
    match locked (s.lockWith s.protector) values push with
    | (s, .nothing, records) => (s, .notPushed, records)
    | other => other
  | .values => locked (s.lockWith s.protector) values fun s values => (s, values, .numbers values, [])
  | .tryValues => locked (s.tryLockWith s.protector) values fun s values => (s, values, .numbers values, [])
  | .appendUnlocked value =>
    let values := values ++ [value]
    ({ s with values := some values }, .number values.length, [])
  | .waitTimeout =>
    locked (s.lockWith s.protector) values fun s values => (s, values, .waited false values.length, [])
  | .failingWait =>
    let s := { s with faults := s.faults ++ [({ primitive := .wait } : Sync.Fault)] }
    locked (s.lockWith s.protector) values fun s values =>
      let (struck, faults) := s.faults.meet .wait "cv"
      ({ s with faults }, values, .flag struck.isNone, [])
  | .takeOut => ({ s with values := none }, .numbers values, s.protector.destroy)
  | .protectorLocked => (s, .flag s.protector.noted, [])
  | .unlockProtector =>
    let called := s.protector.callUnlock self
    ({ s with protector := called.after }, .flag called.result, called.records)
  | .lockProtector =>
    let (called, s) := s.lockWith s.protector
    ({ s with protector := called.after }, .flag called.result, called.records)
  | _ => (s, .nothing, [])

/-- One step of the session. -/
def step (s : State) (command : Command) : State × Reply × List Record :=
  match command with
  | .lock =>
    let (called, s) := s.lockWith s.plain
    ({ s with plain := called.after }, .flag called.result, called.records)
  | .tryLock =>
    let (called, s) := s.tryLockWith s.plain
    ({ s with plain := called.after }, .flag called.result, called.records)
  | .unlock =>
    let called := s.plain.callUnlock self
    ({ s with plain := called.after }, .flag called.result, called.records)
  | .isLocked => (s, .flag s.plain.noted, [])
  | .name => (s, .text s.plain.name, [])
  | .makeGuard =>
    let (called, s) := s.lockWith s.plain
    ({ s with plain := called.after, guards := ⟨self, called.result⟩ :: s.guards },
      .flag called.result, called.records)
  | .unlockGuard =>
    match s.guards with
    | [] => (s, .nothing, [])
    | g :: rest =>
      let (g, called) := g.unlock s.plain
      ({ s with plain := called.after, guards := g :: rest }, .flags [called.result, g.locked], called.records)
  | .dropGuard =>
    match s.guards with
    | [] => (s, .flag false, [])
    | g :: rest =>
      let called := g.drop s.plain
      ({ s with plain := called.after, guards := rest }, .flag true, called.records)
  | .fault fault => ({ s with faults := s.faults ++ [fault] }, .ok, [])
  | command =>
    match s.values with
    | none => (s, .consumed, [])
    | some values => s.onValues values command

/-- The end of the session: the note of the plain mutex after the guards are gone, first made first,
    and the log of destroying the mutexes. -/
def finish (s : State) : Bool × List Record :=
  let (m, records) := s.guards.reverse.foldl (fun (acc : Mutex × List Record) g =>
    let called := g.drop acc.1
    (called.after, acc.2 ++ called.records)) (s.plain, [])
  (m.noted, records ++ m.destroy ++ (if s.values.isSome then s.protector.destroy else []))

end State

end PooledServer.Session.Locks
