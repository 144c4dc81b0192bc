import PooledServer.Sync.Waiting
import PooledServer.Sync.Call

/-!
# A session with a condition variable

    Named threads lock and unlock mutexes and wait on one condition variable, in the foreground or in
    the background.
-/

namespace PooledServer.Session.Conditions

open Sync (Room Duration)
open Log (Record)

/-- What a thread does. -/
inductive Command where
  | lock
  | tryLock
  | unlock
  | wait
  | waitTimeout (timeout : Duration)
  | waitInBackground (timeout : Option Duration) (thenUnlock : Bool)
  | outcome
  | outcomes (threads : List String)
  | signalOne
  | signalAll
  | isLocked
  | mutexName
  | conditionName
  | destroy

/-- The answer to a step. -/
inductive Reply where
  | ok
  | started
  | noMutex
  | nothing
  | flag (value : Bool)
  | flags (values : List Bool)
  | text (value : String)

/-- A room with its mutexes and condition variable newly made, and the log of making them. -/
def new (mutexes : List String) (condition : String) : Room × List Record :=
  let made := mutexes.flatMap fun name => Work.Note.records (Sync.createMutex name []).1
  ({ mutexes := mutexes.map fun name => { name }, condition },
    made ++ Work.Note.records (Sync.createCondition condition []).1)

/-- Ends all waits that can end. -/
def settle (r : Room) (records : List Record) : Room × List Record :=
  let (r, later) := r.settle r.sleepers.length
  (r, records ++ later)

/-- Lets the wait of thread `t` come to its end and takes its outcome. -/
def await (r : Room) (t : String) : Room × Option Bool × List Record :=
  let (r, records) := settle (r.passTime t) []
  let (outcome, r) := r.takeOutcome t
  (r, outcome, records)

/-- A step of thread `t` with the mutex of the given name. -/
def step (r : Room) (t mutex : String) (command : Command) : Room × Reply × List Record :=
  let reply (o : Option Bool) : Reply := (o.map Reply.flag).getD .nothing
  match command with
  | .signalOne => let (r, records) := settle r.signalOne []; (r, .ok, records)
  | .signalAll => let (r, records) := settle r.signalAll []; (r, .ok, records)
  | .conditionName => (r, .text r.condition, [])
  | .outcome =>
    let (r, o, records) := await r t
    (r, reply o, records)
  | .outcomes threads =>
    let (r, os, records) := threads.foldl (fun (acc : Room × List Bool × List Record) t =>
      let (r, o, records) := await acc.1 t
      (r, acc.2.1 ++ o.toList, acc.2.2 ++ records)) (r, [], [])
    (r, .flags os, records)
  | command =>
    match r.mutex? mutex with
    | none => (r, .noMutex, [])
    | some m =>
      let (number, r) := r.thread t
      match command with
      | .lock =>
        match m.callLock number with
        | some called => (r.setMutex called.after, .flag called.result, called.records)
        | none => (r, .nothing, [])
      | .tryLock =>
        let called := m.callTryLock number
        (r.setMutex called.after, .flag called.result, called.records)
      | .unlock =>
        let called := m.callUnlock number
        let (r, records) := settle (r.setMutex called.after) called.records
        (r, .flag called.result, records)
      | .wait =>
        let called := r.sleep t mutex none false
        let (r, o, records) := await called.after t
        (r, if called.result then reply o else .flag false, called.records ++ records)
      | .waitTimeout timeout =>
        let called := r.sleep t mutex (some timeout) false
        let (r, o, records) := await called.after t
        (r, if called.result then reply o else .flag false, called.records ++ records)
      | .waitInBackground timeout thenUnlock =>
        let called := r.sleep t mutex timeout thenUnlock
        let r := called.after
        let r := if called.result then r else { r with outcomes := r.outcomes ++ [(t, false)] }
        let (r, records) := settle r called.records
        (r, .started, records)
      | .isLocked => (r, .flag m.noted, [])
      | .mutexName => (r, .text m.name, [])
      | .destroy => ({ r with mutexes := r.mutexes.filter (·.name != mutex) }, .flag true, m.destroy)
      | _ => (r, .nothing, [])

end PooledServer.Session.Conditions
