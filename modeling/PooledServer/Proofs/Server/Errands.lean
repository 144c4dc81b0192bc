import PooledServer.Proofs.Events.Lending
import PooledServer.Server.Service

/-!
# What becomes of requests

    `Service.Goes` lists everything that a move of a service can come to.  The handler is called when
    the item of a request begins to run, and only then.  The socket goes back when the closure is
    destroyed: at the end of its run, or with an item that does not run. -/

namespace PooledServer.Server

open Net
open Events (Request Stage)
open Work (TaskId Item Execution)
open Log (Component)

/-- The connection is kept, as far as the handler is concerned. -/
def Verdict.isKeep : Verdict → Bool
  | .keep => true
  | _ => false

namespace Errand

/-- How far the item of a request has come. -/
inductive Stands (e : Errand) : Prop
  | waits (id : TaskId) (execution : e.execution = { item := carrier id })
  | runs (id : TaskId) (execution : e.execution = { item := carrier id, phase := .acting 1 [] })
  | ended (id : TaskId) (item : e.execution.item = carrier id) (gone : e.owns = false)

variable {e : Errand} {id : TaskId} {r : Request}

theorem stands_new : (Errand.new id r).Stands := .waits id rfl

end Errand

/-- An item begins to run. -/
theorem step_waiting (id : TaskId) :
    Execution.step {} { item := carrier id } =
      some ({}, { item := carrier id, phase := .acting 1 [] }, (carrier id).begin 1) := rfl

/-- The closure of an item is destroyed at the end of its run. -/
theorem step_running (id : TaskId) :
    Execution.step {} { item := carrier id, phase := .acting 1 [] } =
      some ({}, { item := carrier id, phase := .ran .completed },
        [.event (.dropped (.numbered id))]) := rfl

/-- What an item does after its run says nothing about its closure. -/
theorem step_over {e : Errand} {id : TaskId} (item : e.execution.item = carrier id)
    (gone : e.owns = false) {r : Work.Registry} {execution : Execution} {notes : List Work.Note}
    (h : e.execution.step {} = some (r, execution, notes)) :
    notes = [] ∧ execution.item = carrier id ∧ Errand.owns { e with execution } = false := by
  obtain ⟨request, ⟨item', phase⟩, isOpen, pending⟩ := e
  obtain rfl : item' = carrier id := item
  cases phase with
  | ready | acting | offering => exact nomatch gone
  | ran outcome =>
      cases h
      exact ⟨rfl, rfl, rfl⟩
  | hooked outcome =>
      cases h
      exact ⟨rfl, rfl, rfl⟩
  | concluded ended => exact nomatch h

/-- Without a pool an item runs to its end, and its closure is destroyed. -/
theorem execute_carrier (id : TaskId) :
    Work.execute (fun _ => []) {} (carrier id) =
      ({}, some (.returned .completed),
        (carrier id).begin 1 ++ [.event (.dropped (.numbered id))]) := rfl

theorem step_keeps {hub : Events.State} {t : ThreadId} {r : Request} {rest : List Stage}
    (here : hub.agenda? t = some (.serve r :: rest)) :
    hub.step t { handling := .keeps } =
      some (Events.State.setAgenda { hub with kept := hub.kept ++ [r] } t rest,
        [.handled r.socket.descriptor r.eventIndex]) := by
  simp only [Events.State.step, here]
  rfl

theorem step_finishes {hub : Events.State} {t : ThreadId} {r : Request} {rest : List Stage}
    (here : hub.agenda? t = some (.serve r :: rest)) (isOpen : Bool) (pending : ByteArray) :
    hub.step t { handling := .finishes isOpen pending none } =
      some (hub.setAgenda t (.comeBack { r.socket with isOpen, pending } :: rest),
        [.handled r.socket.descriptor r.eventIndex]) := by
  simp only [Events.State.step, here]
  rfl

theorem isOpen_serveRequest {σ : Type} [ByteStream σ] (handler : RequestHandler σ) (r : Request)
    (stream : σ) :
    (serveRequest handler r stream).1.isOpen =
      ((handler r.socket stream).1.isKeep && (handler r.socket stream).2.1.isOpen) := by
  simp only [serveRequest]
  split
  · rename_i hcall
    rw [hcall]
    rfl
  all_goals
    rename_i hcall
    rw [hcall]
    simp only [Socket.close]
    split
    · rfl
    · rename_i hshut
      exact Bool.eq_false_iff.mpr hshut

namespace Service

variable {σ : Type} [ByteStream σ] {handler : RequestHandler σ} {s s' : Service σ} {e : Errand}
  {notes : List ServiceNote}

/-- A call changes the stream and the socket only; the socket stays open if the handler keeps the
    connection and leaves it open. -/
theorem call_eq {after : Service σ} {e' : Errand} (h : s.call handler e = (after, e', notes)) :
    (∃ streams, after = { s with streams }) ∧ e'.request = e.request ∧
      e'.execution = e.execution ∧ ∃ (verdict : Verdict) (left : Bool) (records : List Log.Record),
        notes = .called e.id verdict left :: records.map .log ∧
          e'.isOpen = (verdict.isKeep && left) := by
  have hopen := isOpen_serveRequest handler { e.request with socket := e.socket }
    (s.streams e.request.socket.connection)
  obtain ⟨rfl, hrest⟩ := Prod.mk.inj h
  obtain ⟨rfl, rfl⟩ := Prod.mk.inj hrest
  exact ⟨⟨_, rfl⟩, rfl, rfl, _, _, _, rfl, hopen⟩

/-- What a move of a service comes to. -/
inductive Goes (handler : RequestHandler σ) (s : Service σ) :
    ServiceMove σ → Service σ → List ServiceNote → Prop
  | hub (m : Events.Move) (hub : Events.State) (own : isOwn s.hub m = true)
      (goes : s.hub.Goes m hub) : s.Goes handler (.hub m) { s with hub } []
  | queues (t : ThreadId) (r : Request) (rest : List Stage)
      (here : s.hub.agenda? t = some (.serve r :: rest)) :
      s.Goes handler (.dispatch t .queued)
        { s with
          hub := Events.State.setAgenda { s.hub with kept := s.hub.kept ++ [r] } t rest
          errands := s.errands ++ [.new s.nextId r]
          nextId := s.nextId + 1 }
        [.made s.nextId r]
  | refuses (t : ThreadId) (r : Request) (rest : List Stage) (record : Log.Record)
      (here : s.hub.agenda? t = some (.serve r :: rest)) :
      s.Goes handler (.dispatch t .refused)
        { s with hub := s.hub.setAgenda t (.comeBack r.socket :: rest), nextId := s.nextId + 1 }
        [.made s.nextId r, .log record, .handedBack s.nextId .rejected t r.socket]
  | serves (t : ThreadId) (r : Request) (rest : List Stage) (after : Service σ) (e : Errand)
      (later : List ServiceNote) (here : s.hub.agenda? t = some (.serve r :: rest))
      (calls : s.call handler (.new s.nextId r) = (after, e, later)) :
      s.Goes handler (.dispatch t .alone)
        { after with
          hub := s.hub.setAgenda t (.comeBack e.socket :: rest)
          nextId := s.nextId + 1 }
        (.made s.nextId r :: (later ++ [.handedBack s.nextId .inline t e.socket]))
  | begins (place : Nat) (e : Errand) (id : TaskId) (after : Service σ) (e' : Errand)
      (later : List ServiceNote) (here : s.errands[place]? = some e)
      (waits : e.execution = { item := carrier id })
      (calls : s.call handler { e with execution := { item := carrier id, phase := .acting 1 [] } } =
        (after, e', later)) :
      s.Goes handler (.work place) { after with errands := s.errands.set place e' } later
  | ends (place : Nat) (e : Errand) (id : TaskId) (r : Request) (here : s.errands[place]? = some e)
      (runs : e.execution = { item := carrier id, phase := .acting 1 [] })
      (kept : s.hub.kept[s.rank place]? = some r) :
      s.Goes handler (.work place)
        { s with
          hub := Events.State.launch { s.hub with kept := s.hub.kept.eraseIdx (s.rank place) }
            [.comeBack { r.socket with isOpen := e.isOpen, pending := e.pending }]
          errands := s.errands.set place
            { e with execution := { item := carrier id, phase := .ran .completed } } }
        [.handedBack id .onWorker s.hub.nextThread e.socket]
  | lingers (place : Nat) (e e' : Errand) (id : TaskId) (here : s.errands[place]? = some e)
      (gone : e.owns = false) (item : e'.execution.item = carrier id) (gone' : e'.owns = false) :
      s.Goes handler (.work place) { s with errands := s.errands.set place e' } []
  | destroys (place : Nat) (e : Errand) (id : TaskId) (r : Request)
      (here : s.errands[place]? = some e) (waits : e.execution = { item := carrier id })
      (kept : s.hub.kept[s.rank place]? = some r) :
      s.Goes handler (.destroy place)
        { s with
          hub := Events.State.launch { s.hub with kept := s.hub.kept.eraseIdx (s.rank place) }
            [.comeBack { r.socket with isOpen := e.isOpen, pending := e.pending }]
          errands := s.errands.eraseIdx place }
        [.handedBack id .discarded s.hub.nextThread e.socket]
  | streams (connection : Nat) (stream : σ) :
      s.Goes handler (.stream connection stream) (s.setStream connection stream) []

/-! ## Every move does one of these things -/

/-- An item that is destroyed unexecuted gives its socket back as it was. -/
theorem atOnce_unexecuted {t : ThreadId} {r : Request} {rest : List Stage} {fate : Fate}
    {said : List Log.Record} {work : List Work.Note}
    (here : s.hub.agenda? t = some (.serve r :: rest)) (hbegins : Errand.begins work = false)
    (hdropped : Errand.isDropped work = true) :
    s.atOnce handler t r fate said work =
      some ({ s with hub := s.hub.setAgenda t (.comeBack r.socket :: rest), nextId := s.nextId + 1 },
        .made s.nextId r :: (said.map .log ++ [.handedBack s.nextId fate t r.socket])) := by
  simp only [atOnce, heed, hbegins, hdropped, if_true]
  rw [if_neg Bool.false_ne_true]
  exact congrArg (Option.map _) (step_finishes here r.socket.isOpen r.socket.pending)

/-- An item that is executed at once gives its socket back as the handler has left it. -/
theorem atOnce_executed {t : ThreadId} {r : Request} {rest : List Stage} {fate : Fate}
    {said : List Log.Record} {work : List Work.Note} {after : Service σ} {later : List ServiceNote}
    (here : s.hub.agenda? t = some (.serve r :: rest)) (hbegins : Errand.begins work = true)
    (hdropped : Errand.isDropped work = true)
    (calls : s.call handler (.new s.nextId r) = (after, e, later)) :
    s.atOnce handler t r fate said work =
      some ({ after with
              hub := s.hub.setAgenda t (.comeBack e.socket :: rest)
              nextId := s.nextId + 1 },
        .made s.nextId r :: (later ++ said.map .log ++ [.handedBack s.nextId fate t e.socket])) := by
  obtain ⟨rfl, hrest⟩ := Prod.mk.inj calls
  obtain ⟨rfl, rfl⟩ := Prod.mk.inj hrest
  simp only [atOnce, heed, hbegins, hdropped, if_true]
  exact congrArg (Option.map _) (step_finishes here _ _)

/-- An item that meets its fate at once lets its socket go. -/
theorem isSome_atOnce {t : ThreadId} {r : Request} {rest : List Stage} {fate : Fate}
    {said : List Log.Record} {work : List Work.Note}
    (here : s.hub.agenda? t = some (.serve r :: rest)) (hdropped : Errand.isDropped work = true) :
    (s.atOnce handler t r fate said work).isSome = true := by
  cases hbegins : Errand.begins work with
  | false => rw [atOnce_unexecuted here hbegins hdropped, Option.isSome_some]
  | true => rw [atOnce_executed here hbegins hdropped rfl, Option.isSome_some]

theorem goes_of_dispatch {t : ThreadId} {reception : Reception}
    (h : s.dispatch handler t reception = some (s', notes)) :
    s.Goes handler (.dispatch t reception) s' notes := by
  simp only [dispatch] at h
  split at h
  · rename_i r rest here
    cases reception with
    | queued =>
        rw [step_keeps here] at h
        cases h
        exact .queues t r rest here
    | refused =>
        have hback : s.atOnce handler t r .rejected
            [Component.handler.warn s!"pool not accepting work: {(carrier s.nextId).rejection}"]
            (carrier s.nextId).discard = _ := atOnce_unexecuted here rfl rfl
        rw [hback] at h
        cases h
        exact .refuses t r rest _ here
    | alone =>
        have hback : s.atOnce handler t r .inline []
            (Work.execute (fun _ => []) {} (carrier s.nextId)).2.2 = _ :=
          atOnce_executed here rfl rfl rfl
        dsimp only at h
        rw [hback, execute_carrier] at h
        simp only [inlineRecords, Option.map_some, List.map_nil, List.append_nil] at h
        cases h
        exact .serves t r rest _ _ _ here rfl
  · exact nomatch h

theorem goes_of_work {place : Nat} (hstands : ∀ e ∈ s.errands, e.Stands)
    (h : s.work handler place = some (s', notes)) : s.Goes handler (.work place) s' notes := by
  obtain ⟨e, here, h⟩ := Option.bind_eq_some_iff.mp h
  cases hstands e (List.mem_of_getElem? here) with
  | waits id execution =>
      rw [execution, step_waiting] at h
      have hheed : s.heed handler { e with execution := { item := carrier id, phase := .acting 1 [] } }
          ((carrier id).begin 1) = s.call handler _ := rfl
      simp only [Option.bind_some, hheed] at h
      cases h
      exact .begins place e id _ _ _ here execution rfl
  | runs id execution =>
      rw [execution, step_running] at h
      obtain ⟨hub, hcomplete, heq⟩ := Option.map_eq_some_iff.mp h
      obtain ⟨r, kept, rfl⟩ := Option.map_eq_some_iff.mp hcomplete
      cases heq
      exact .ends place e id r here execution kept
  | ended id item gone =>
      obtain ⟨⟨registry, execution, work⟩, hstep, h⟩ := Option.bind_eq_some_iff.mp h
      obtain ⟨rfl, item', gone'⟩ := step_over item gone hstep
      cases h
      exact .lingers place e _ id here gone item' gone'

theorem goes_of_destroy {place : Nat} (hstands : ∀ e ∈ s.errands, e.Stands)
    (h : s.destroy place = some (s', notes)) : s.Goes handler (.destroy place) s' notes := by
  obtain ⟨e, here, h⟩ := Option.bind_eq_some_iff.mp h
  split at h
  · rename_i waiting
    cases hstands e (List.mem_of_getElem? here) with
    | waits id execution =>
        rw [execution] at h
        obtain ⟨hub, hcomplete, heq⟩ := Option.map_eq_some_iff.mp h
        obtain ⟨r, kept, rfl⟩ := Option.map_eq_some_iff.mp hcomplete
        cases heq
        have hid : e.id = id := congrArg (·.item.id) execution
        rw [hid]
        exact .destroys place e id r here execution kept
    | runs id execution => exact nomatch (congrArg (·.phase) execution).symm.trans waiting
    | ended id item gone =>
        simp only [Errand.owns, waiting] at gone
        exact nomatch gone
  · exact nomatch h

theorem goes_of_move {move : ServiceMove σ} (hstands : ∀ e ∈ s.errands, e.Stands)
    (h : s.move handler move = some (s', notes)) : s.Goes handler move s' notes := by
  cases move with
  | hub m =>
      simp only [Service.move] at h
      split at h
      · rename_i own
        obtain ⟨⟨hub, hubNotes⟩, hmove, heq⟩ := Option.map_eq_some_iff.mp h
        cases heq
        exact .hub m hub own (Events.State.goes_of_move hmove)
      · exact nomatch h
  | dispatch t reception => exact goes_of_dispatch h
  | work place => exact goes_of_work hstands h
  | destroy place => exact goes_of_destroy hstands h
  | stream connection stream =>
      cases h
      exact .streams connection stream

end Service

end PooledServer.Server
