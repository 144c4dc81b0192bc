import PooledServer.Events.Server

/-!
# Steps of the event server

    `Stage.run` carries out one stage and says which stages follow it.  `State.move` lets a thread
    carry out its next stage, gives the loop a new batch of events, finishes a request that a handler
    has kept, or lets the application do what it should not: close a descriptor behind the server's
    back.
-/

namespace PooledServer.Events

open Net

/-- What a stage leaves: the state, the stages that follow, and the notes. -/
abbrev Outcome := State × List Stage × List Note

/-- Acts on an event.  Events of the listener bring connections; of the others only those with a
    positive number count, and a number that is not open is forgotten. -/
def State.onEvent (s : State) (index : Nat) (e : Event) : Outcome :=
  let d := e.descriptor
  if d = s.listener then (s, [.accept], [])
  else if d ≤ 0 then (s, [], [])
  else if !s.kernel.isOpen d then (s, [.forget d], [])
  else
    match e.readiness with
    | .closed => (s, [.close d], [])
    | .readable => (s, [.unwatchReady index d], [])
    | .ignore => (s, [], [])

/-- Accepts a connection, and goes on accepting until none waits. -/
def State.onAccept (s : State) : Arrival → Outcome
  | .none => (s, [], [])
  | .interrupted => (s, [.accept], [])
  | .failed e =>
    ({ s with stats := { s.stats with acceptErrors := s.stats.acceptErrors + 1 } }, [],
      [.report (.acceptFailed e)])
  | .connection d peer blocking options =>
    let number := s.stats.accepted
    let socket : Socket := { descriptor := d, connection := number, peer := some peer }
    let stats := { s.stats with accepted := number + 1 }
    ({ s with stats, kernel := s.kernel.openFile d (.connection number) }, [.track socket, .accept],
      (blocking.map fun e => Note.report (.stillNonBlocking peer.text e)).toList
        ++ (options.map fun e => Note.report (.optionsRefused peer.text e)).toList
        ++ [.report (.accepted peer.text d)])

/-- Puts a new connection into the table.  An entry that was there before goes, with its socket. -/
def State.onTrack (s : State) (socket : Socket) (lock : Bool) : Outcome :=
  let d := socket.descriptor
  if lock then
    let before := s.table.socket? d
    let table := s.table.insert d { socket := some socket }
    ({ s with table }.dropSocket? before, [.watch d], [])
  else (s.dropSocket socket, [], [.report (.lockFailedOnAccept d)])

/-- Takes a connection out of the table to close it, unless a request has its socket. -/
def State.onClose (s : State) (d : Descriptor) (lock : Bool) : Outcome :=
  if lock then
    match s.table.entry? d with
    | none => (s, [], [])
    | some entry =>
      if entry.isBusy then (s, [], [.report (.closeInFlight d)])
      else ({ s with table := s.table.erase d }, [.unwatchClosed d entry.socket], [])
  else (s, [], [.report (.lockFailed d)])

/-- Takes a connection whose number is gone out of the table. -/
def State.onForget (s : State) (d : Descriptor) (lock : Bool) : Outcome :=
  if lock then ({ s with table := s.table.erase d }, [.unwatchForgotten d (s.table.socket? d)], [])
  else (s, [.unwatchForgotten d none], [])

/-- Takes the socket of a ready connection out of the table. -/
def State.onLend (s : State) (index : Nat) (d : Descriptor) (lock : Bool) : Outcome :=
  if lock then
    match s.table.entry? d with
    | none => (s, [], [])
    | some entry =>
      if entry.isBusy then
        ({ s with stats := { s.stats with droppedBusy := s.stats.droppedBusy + 1 } }, [],
          [.report (.alreadyInFlight d)])
      else
        let s := { s with table := s.table.insert d { isBusy := true } }
        match entry.socket with
        | none => (s, [], [])
        | some socket =>
          ({ s with stats := { s.stats with dispatched := s.stats.dispatched + 1 } },
            [.serve (.awaited socket index)], [])
  else (s, [], [.report (.lockFailed d)])

/-- Hands a request to the handler. -/
def State.onServe (s : State) (r : Request) (handling : Handling) : Outcome :=
  let d := r.socket.descriptor
  match handling with
  | .keeps => ({ s with kept := s.kept ++ [r] }, [], [.handled d r.eventIndex])
  | .finishes isOpen pending panic =>
    (s, .comeBack { r.socket with isOpen, pending } :: (panic.map (Stage.panicked d)).toList,
      [.handled d r.eventIndex])

/-- Puts a socket that came back into the table if it can be used again; if not, takes the entry that
    waits for it out.  Any other entry is left alone. -/
def State.onPark (s : State) (socket : Socket) (isValid lock : Bool) : Outcome :=
  let d := socket.descriptor
  if lock then
    match s.table.entry? d with
    | some ⟨true, none⟩ =>
      if socket.isOpen && isValid then
        ({ s with table := s.table.insert d { socket := some socket } }, [.rearm d], [])
      else ({ s with table := s.table.erase d }, [.release socket isValid], [])
    | _ => (s, [.release socket isValid], [])
  else (s.dropSocket socket, [], [.report (.lockFailedOnCompletion d)])

/-- Counts a closed connection. -/
def State.countClosed (s : State) : State :=
  { s with stats := { s.stats with closed := s.stats.closed + 1 } }

/-- Carries out one stage. -/
def Stage.run (stage : Stage) (s : State) (luck : Luck) : Outcome :=
  match stage with
  | .event index e => s.onEvent index e
  | .accept => s.onAccept luck.arrival
  | .track socket => s.onTrack socket luck.lock
  | .watch d =>
    match luck.backend with
    | none => ({ s with kernel := s.kernel.watch d }, [], [.addWatch d])
    | some e => (s, [.close d], [.addWatch d, .report (.watchFailed d e)])
  | .close d => s.onClose d luck.lock
  | .unwatchClosed d socket =>
    let kernel := if luck.backend.isNone then s.kernel.unwatch d else s.kernel
    (({ s with kernel }.dropSocket? socket).countClosed, [],
      [.removeWatch d, .report (.closedByPeer d)])
  | .forget d => s.onForget d luck.lock
  | .unwatchForgotten d _ =>
    let kernel := if luck.backend.isNone then s.kernel.unwatch d else s.kernel
    ({ s with kernel }, [], [.removeWatch d, .report (.forgotten d)])
  | .unwatchReady index d =>
    match luck.backend with
    | none => ({ s with kernel := s.kernel.unwatch d }, [.lend index d], [.removeWatch d])
    | some e => (s, [.lend index d], [.removeWatch d, .report (.unwatchFailed d e)])
  | .lend index d => s.onLend index d luck.lock
  | .serve r => s.onServe r luck.handling
  | .panicked d message => (s, [], [.report (.handlerPanicked d message)])
  | .comeBack socket => (s, [.park socket (s.kernel.isOpen socket.descriptor)], [])
  | .park socket isValid => s.onPark socket isValid luck.lock
  | .release socket isValid =>
    let s := if isValid then s.dropSocket socket else s
    (s.countClosed, [], [.report (.released socket.descriptor)])
  | .rearm d =>
    match luck.backend with
    | none =>
      ({ s with kernel := s.kernel.watch d
                stats := { s.stats with rearmed := s.stats.rearmed + 1 } }, [],
        [.addWatch d, .report (.rearmed d)])
    | some e => (s, [.close d], [.addWatch d, .report (.rearmFailed d e)])

namespace State

/-- A connection can only get a number that is free. -/
def allows (s : State) (stage : Stage) (luck : Luck) : Bool :=
  match stage, luck.arrival with
  | .accept, .connection d .. => 0 ≤ d && !s.kernel.isOpen d && d != s.listener
  | _, _ => true

/-- Thread `t` carries out its next stage. -/
def step (s : State) (t : ThreadId) (luck : Luck) : Option (State × List Note) :=
  match s.agenda? t with
  | some (stage :: rest) =>
    if s.allows stage luck then
      let (s, next, notes) := stage.run s luck
      some (s.setAgenda t (next ++ rest), notes)
    else none
  | _ => none

/-- The stages of a batch of events. -/
def batch (events : List Event) : List Stage :=
  events.zipIdx.map fun (e, index) => .event index e

/-- The loop gets a batch of events, once it is done with the last. -/
def receive (s : State) (events : List Event) : Option State :=
  match s.agenda? 0 with
  | some [] => some (s.setAgenda 0 (batch events))
  | _ => none

/-- A new thread finishes the kept request with this place in the list; the handler may have used its
    socket. -/
def complete (s : State) (place : Nat) (isOpen : Bool) (pending : ByteArray) : Option State :=
  s.kept[place]?.map fun r =>
    { s with kept := s.kept.eraseIdx place, nextThread := s.nextThread + 1
             threads := s.threads ++ [⟨s.nextThread, [.comeBack { r.socket with isOpen, pending }]⟩] }

end State

/-- What can happen to an event server. -/
inductive Move where
  /-- The next stage of a thread. -/
  | step (thread : ThreadId) (luck : Luck)
  /-- The wait for events ends with a batch. -/
  | receive (events : List Event)
  /-- A request that a handler kept is finished. -/
  | complete (place : Nat) (isOpen : Bool) (pending : ByteArray)
  /-- The application closes a number that is not its own. -/
  | steal (d : Descriptor)
  /-- Another part of the process gets a free number. -/
  | openOther (d : Descriptor) (number : Nat)

/-- One move of an event server, and what it leaves behind. -/
def State.move (s : State) : Move → Option (State × List Note)
  | .step t luck => s.step t luck
  | .receive events => (s.receive events).map (·, [])
  | .complete place isOpen pending => (s.complete place isOpen pending).map (·, [])
  | .steal d => some ({ s with kernel := s.kernel.close d }, [])
  | .openOther d number =>
    if 0 < d ∧ !s.kernel.isOpen d ∧ d ≠ s.listener then
      some ({ s with kernel := s.kernel.openFile d (.other number) }, [])
    else none

end PooledServer.Events
