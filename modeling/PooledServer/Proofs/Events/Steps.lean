import PooledServer.Proofs.Events.Tables
import PooledServer.Proofs.Events.Threads

/-!
# What the stages of an event server do

    `State.Carries` lists everything that carrying out a stage can come to, with the luck that it takes,
    the server that it leaves and the stages that follow; `State.Goes` does so for whole moves.  What
    holds of all runs is read off these lists. -/

namespace PooledServer.Events

open Net

/-- What the system knows when it has been told to end a watch, which may fail. -/
def Kernel.unwatchIf (k : Kernel) (luck : Luck) (d : Descriptor) : Kernel :=
  if luck.backend.isNone then k.unwatch d else k

/-- To end a watch changes no file. -/
theorem Kernel.file?_unwatchIf (k : Kernel) (luck : Luck) (d : Descriptor) :
    (k.unwatchIf luck d).file? = k.file? := by
  simp only [Kernel.unwatchIf]
  split <;> rfl

namespace State

/-- The socket of a connection that arrives under the number `d`. -/
def newSocket (s : State) (d : Descriptor) (peer : Endpoint) : Socket :=
  { descriptor := d, connection := s.stats.accepted, peer := some peer }

/-- The server after a connection has arrived under the number `d`. -/
def joined (s : State) (d : Descriptor) : State :=
  { s with
    stats := { s.stats with accepted := s.stats.accepted + 1 }
    kernel := s.kernel.openFile d (.connection s.stats.accepted) }

/-- The server with the empty and busy entry of a socket on loan. -/
def lent (s : State) (d : Descriptor) : State :=
  { s with table := s.table.insert d { isBusy := true } }

/-- What carrying out a stage comes to. -/
inductive Carries (s : State) (luck : Luck) : Stage → State → List Stage → Prop
  | hears (index : Nat) (e : Event) (ours : e.descriptor = s.listener) :
      s.Carries luck (.event index e) s [.accept]
  | ignores (index : Nat) (e : Event) : s.Carries luck (.event index e) s []
  | misses (index : Nat) (e : Event) (gone : s.kernel.file? e.descriptor = none)
      (other : e.descriptor ≠ s.listener) :
      s.Carries luck (.event index e) s [.forget e.descriptor]
  | hangsUp (index : Nat) (e : Event) (other : e.descriptor ≠ s.listener) :
      s.Carries luck (.event index e) s [.close e.descriptor]
  | readies (index : Nat) (e : Event) (other : e.descriptor ≠ s.listener) :
      s.Carries luck (.event index e) s [.unwatchReady index e.descriptor]
  | acceptsNone : s.Carries luck .accept s []
  | retries : s.Carries luck .accept s [.accept]
  | acceptFails :
      s.Carries luck .accept
        { s with stats := { s.stats with acceptErrors := s.stats.acceptErrors + 1 } } []
  | accepts (d : Descriptor) (peer : Endpoint) (nonneg : 0 ≤ d) (free : s.kernel.file? d = none)
      (other : d ≠ s.listener) :
      s.Carries luck .accept (s.joined d) [.track (s.newSocket d peer), .accept]
  | tracks (socket : Socket) (lock : luck.lock = true) :
      s.Carries luck (.track socket)
        ({ s with table := s.table.insert socket.descriptor { socket := some socket } }.dropSocket?
          (s.table.socket? socket.descriptor)) [.watch socket.descriptor]
  | losesNew (socket : Socket) (lock : luck.lock = false) :
      s.Carries luck (.track socket) (s.dropSocket socket) []
  | watches (d : Descriptor) (backend : luck.backend = none) :
      s.Carries luck (.watch d) { s with kernel := s.kernel.watch d } []
  | watchFails (d : Descriptor) (e : IoError) (backend : luck.backend = some e) :
      s.Carries luck (.watch d) s [.close d]
  | closeBarred (d : Descriptor) (lock : luck.lock = false) : s.Carries luck (.close d) s []
  | closesNothing (d : Descriptor) (lock : luck.lock = true) (absent : s.table.entry? d = none) :
      s.Carries luck (.close d) s []
  | spares (d : Descriptor) (entry : Entry) (lock : luck.lock = true)
      (present : s.table.entry? d = some entry) (busy : entry.isBusy = true) :
      s.Carries luck (.close d) s []
  | closes (d : Descriptor) (entry : Entry) (lock : luck.lock = true)
      (present : s.table.entry? d = some entry) (idle : entry.isBusy = false) :
      s.Carries luck (.close d) { s with table := s.table.erase d } [.unwatchClosed d entry.socket]
  | drops (d : Descriptor) (socket : Option Socket) :
      s.Carries luck (.unwatchClosed d socket)
        ({ s with kernel := s.kernel.unwatchIf luck d }.dropSocket? socket).countClosed []
  | forgets (d : Descriptor) (lock : luck.lock = true) :
      s.Carries luck (.forget d) { s with table := s.table.erase d }
        [.unwatchForgotten d (s.table.socket? d)]
  | forgetBarred (d : Descriptor) (lock : luck.lock = false) :
      s.Carries luck (.forget d) s [.unwatchForgotten d none]
  | leaves (d : Descriptor) (socket : Option Socket) :
      s.Carries luck (.unwatchForgotten d socket)
        { s with kernel := s.kernel.unwatchIf luck d } []
  | quiets (index : Nat) (d : Descriptor) (backend : luck.backend = none) :
      s.Carries luck (.unwatchReady index d) { s with kernel := s.kernel.unwatch d } [.lend index d]
  | quietFails (index : Nat) (d : Descriptor) (e : IoError) (backend : luck.backend = some e) :
      s.Carries luck (.unwatchReady index d) s [.lend index d]
  | lendBarred (index : Nat) (d : Descriptor) (lock : luck.lock = false) :
      s.Carries luck (.lend index d) s []
  | lendsNothing (index : Nat) (d : Descriptor) (lock : luck.lock = true)
      (absent : s.table.entry? d = none) : s.Carries luck (.lend index d) s []
  | skips (index : Nat) (d : Descriptor) (entry : Entry) (lock : luck.lock = true)
      (present : s.table.entry? d = some entry) (busy : entry.isBusy = true) :
      s.Carries luck (.lend index d)
        { s with stats := { s.stats with droppedBusy := s.stats.droppedBusy + 1 } } []
  | lendsEmpty (index : Nat) (d : Descriptor) (entry : Entry) (lock : luck.lock = true)
      (present : s.table.entry? d = some entry) (idle : entry.isBusy = false)
      (empty : entry.socket = none) : s.Carries luck (.lend index d) (s.lent d) []
  | lends (index : Nat) (d : Descriptor) (entry : Entry) (socket : Socket) (lock : luck.lock = true)
      (present : s.table.entry? d = some entry) (idle : entry.isBusy = false)
      (parked : entry.socket = some socket) :
      s.Carries luck (.lend index d)
        { s.lent d with stats := { s.stats with dispatched := s.stats.dispatched + 1 } }
        [.serve (.awaited socket index)]
  | keeps (r : Request) : s.Carries luck (.serve r) { s with kept := s.kept ++ [r] } []
  | finishes (r : Request) (isOpen : Bool) (pending : ByteArray) (panic : Option String) :
      s.Carries luck (.serve r) s
        (.comeBack { r.socket with isOpen, pending } ::
          (panic.map (Stage.panicked r.socket.descriptor)).toList)
  | tells (d : Descriptor) (message : String) : s.Carries luck (.panicked d message) s []
  | comesBack (socket : Socket) :
      s.Carries luck (.comeBack socket) s [.park socket (s.kernel.isOpen socket.descriptor)]
  | parkBarred (socket : Socket) (isValid : Bool) (lock : luck.lock = false) :
      s.Carries luck (.park socket isValid) (s.dropSocket socket) []
  | parks (socket : Socket) (isValid : Bool) (lock : luck.lock = true)
      (present : s.table.entry? socket.descriptor = some ⟨true, none⟩)
      (usable : (socket.isOpen && isValid) = true) :
      s.Carries luck (.park socket isValid)
        { s with table := s.table.insert socket.descriptor { socket := some socket } }
        [.rearm socket.descriptor]
  | retires (socket : Socket) (isValid : Bool) (lock : luck.lock = true)
      (present : s.table.entry? socket.descriptor = some ⟨true, none⟩)
      (useless : (socket.isOpen && isValid) = false) :
      s.Carries luck (.park socket isValid)
        { s with table := s.table.erase socket.descriptor } [.release socket isValid]
  | turnsAway (socket : Socket) (isValid : Bool) (lock : luck.lock = true)
      (other : s.table.entry? socket.descriptor ≠ some ⟨true, none⟩) :
      s.Carries luck (.park socket isValid) s [.release socket isValid]
  | releases (socket : Socket) :
      s.Carries luck (.release socket true) (s.dropSocket socket).countClosed []
  | abandons (socket : Socket) : s.Carries luck (.release socket false) s.countClosed []
  | rearms (d : Descriptor) (backend : luck.backend = none) :
      s.Carries luck (.rearm d)
        { s with
          kernel := s.kernel.watch d
          stats := { s.stats with rearmed := s.stats.rearmed + 1 } } []
  | rearmFails (d : Descriptor) (e : IoError) (backend : luck.backend = some e) :
      s.Carries luck (.rearm d) s [.close d]

variable {s s' s₁ : State} {luck : Luck} {stage : Stage} {next : List Stage} {notes : List Note}

/-! ## Every stage does one of these things -/

theorem carries_event {index : Nat} {e : Event} (h : s.onEvent index e = (s₁, next, notes)) :
    s.Carries luck (.event index e) s₁ next := by
  -- the listener is looked at first, then the number, then the readiness
  by_cases ours : e.descriptor = s.listener
  · simp only [onEvent, if_pos ours] at h
    cases h
    exact .hears index e ours
  · by_cases hnone : e.descriptor ≤ 0
    · simp only [onEvent, if_neg ours, if_pos hnone] at h
      cases h
      exact .ignores index e
    · cases hopen : s.kernel.isOpen e.descriptor with
      | false =>
          simp only [onEvent, if_neg ours, if_neg hnone, hopen, Bool.not_false, if_true] at h
          cases h
          exact .misses index e (Kernel.file?_eq_none (Int.le_of_lt (Int.not_le.mp hnone)) hopen) ours
      | true =>
          simp only [onEvent, if_neg ours, if_neg hnone, hopen, Bool.not_true, Bool.false_eq_true,
            if_false] at h
          cases hreadiness : e.readiness with
          | closed =>
              simp only [hreadiness] at h
              cases h
              exact .hangsUp index e ours
          | readable =>
              simp only [hreadiness] at h
              cases h
              exact .readies index e ours
          | ignore =>
              simp only [hreadiness] at h
              cases h
              exact .ignores index e

theorem carries_accept (hallows : s.allows .accept luck = true)
    (h : s.onAccept luck.arrival = (s₁, next, notes)) : s.Carries luck .accept s₁ next := by
  simp only [allows] at hallows
  cases harrival : luck.arrival with
  | none =>
      rw [harrival] at h
      cases h
      exact .acceptsNone
  | interrupted =>
      rw [harrival] at h
      cases h
      exact .retries
  | failed e =>
      rw [harrival] at h
      cases h
      exact .acceptFails
  | connection d peer blocking options =>
      rw [harrival] at h hallows
      cases h
      -- the kernel hands out a free number that is not negative
      simp only [Bool.and_eq_true, decide_eq_true_eq, Bool.not_eq_eq_eq_not, Bool.not_true] at hallows
      exact .accepts d peer hallows.1.1 (Kernel.file?_eq_none hallows.1.1 hallows.1.2)
        (by simpa using hallows.2)

theorem carries_track {socket : Socket} (h : s.onTrack socket luck.lock = (s₁, next, notes)) :
    s.Carries luck (.track socket) s₁ next := by
  simp only [onTrack] at h
  split at h
  · rename_i lock
    cases h
    exact .tracks socket lock
  · rename_i lock
    cases h
    exact .losesNew socket (Bool.eq_false_iff.mpr lock)

theorem carries_close {d : Descriptor} (h : s.onClose d luck.lock = (s₁, next, notes)) :
    s.Carries luck (.close d) s₁ next := by
  simp only [onClose] at h
  split at h
  · rename_i lock
    split at h
    · rename_i absent
      cases h
      exact .closesNothing d lock absent
    · rename_i entry present
      split at h
      · rename_i busy
        cases h
        exact .spares d entry lock present busy
      · rename_i idle
        cases h
        exact .closes d entry lock present (Bool.eq_false_iff.mpr idle)
  · rename_i lock
    cases h
    exact .closeBarred d (Bool.eq_false_iff.mpr lock)

theorem carries_forget {d : Descriptor} (h : s.onForget d luck.lock = (s₁, next, notes)) :
    s.Carries luck (.forget d) s₁ next := by
  simp only [onForget] at h
  split at h
  · rename_i lock
    cases h
    exact .forgets d lock
  · rename_i lock
    cases h
    exact .forgetBarred d (Bool.eq_false_iff.mpr lock)

theorem carries_lend {index : Nat} {d : Descriptor}
    (h : s.onLend index d luck.lock = (s₁, next, notes)) :
    s.Carries luck (.lend index d) s₁ next := by
  simp only [onLend] at h
  split at h
  · rename_i lock
    split at h
    · rename_i absent
      cases h
      exact .lendsNothing index d lock absent
    · rename_i entry present
      split at h
      · rename_i busy
        cases h
        exact .skips index d entry lock present busy
      · rename_i idle
        have idle := Bool.eq_false_iff.mpr idle
        cases hsocket : entry.socket with
        | none =>
            simp only [hsocket] at h
            cases h
            exact .lendsEmpty index d entry lock present idle hsocket
        | some socket =>
            simp only [hsocket] at h
            cases h
            exact .lends index d entry socket lock present idle hsocket
  · rename_i lock
    cases h
    exact .lendBarred index d (Bool.eq_false_iff.mpr lock)

theorem carries_serve {r : Request} (h : s.onServe r luck.handling = (s₁, next, notes)) :
    s.Carries luck (.serve r) s₁ next := by
  cases hhandling : luck.handling with
  | keeps =>
      rw [hhandling] at h
      cases h
      exact .keeps r
  | finishes isOpen pending panic =>
      rw [hhandling] at h
      cases h
      exact .finishes r isOpen pending panic

theorem carries_park {socket : Socket} {isValid : Bool}
    (h : s.onPark socket isValid luck.lock = (s₁, next, notes)) :
    s.Carries luck (.park socket isValid) s₁ next := by
  cases lock : luck.lock with
  | false =>
      simp only [onPark, lock, Bool.false_eq_true, if_false] at h
      cases h
      exact .parkBarred socket isValid lock
  | true =>
      simp only [onPark, lock, if_true] at h
      -- only an entry that is busy and empty waits for the socket
      by_cases present : s.table.entry? socket.descriptor = some ⟨true, none⟩
      · rw [present] at h
        cases husable : socket.isOpen && isValid with
        | true =>
            simp only [husable, if_true] at h
            cases h
            exact .parks socket isValid lock present husable
        | false =>
            simp only [husable, Bool.false_eq_true, if_false] at h
            cases h
            exact .retires socket isValid lock present husable
      · have hother : (s, [Stage.release socket isValid], ([] : List Note)) = (s₁, next, notes) := by
          rw [← h]
          split
          · rename_i hentry
            exact absurd hentry present
          · rfl
        cases hother
        exact .turnsAway socket isValid lock present

/-- Whatever a stage comes to is one of the outcomes. -/
theorem carries_of_run (hallows : s.allows stage luck = true)
    (h : stage.run s luck = (s₁, next, notes)) : s.Carries luck stage s₁ next := by
  cases stage with
  | event index e => exact carries_event h
  | accept => exact carries_accept hallows h
  | track socket => exact carries_track h
  | watch d =>
      cases hbackend : luck.backend with
      | none =>
          simp only [Stage.run, hbackend] at h
          cases h
          exact .watches d hbackend
      | some e =>
          simp only [Stage.run, hbackend] at h
          cases h
          exact .watchFails d e hbackend
  | close d => exact carries_close h
  | unwatchClosed d socket =>
      cases h
      exact .drops d socket
  | forget d => exact carries_forget h
  | unwatchForgotten d socket =>
      cases h
      exact .leaves d socket
  | unwatchReady index d =>
      cases hbackend : luck.backend with
      | none =>
          simp only [Stage.run, hbackend] at h
          cases h
          exact .quiets index d hbackend
      | some e =>
          simp only [Stage.run, hbackend] at h
          cases h
          exact .quietFails index d e hbackend
  | lend index d => exact carries_lend h
  | serve r => exact carries_serve h
  | panicked d message =>
      cases h
      exact .tells d message
  | comeBack socket =>
      cases h
      exact .comesBack socket
  | park socket isValid => exact carries_park h
  | release socket isValid =>
      cases isValid with
      | true =>
          cases h
          exact .releases socket
      | false =>
          cases h
          exact .abandons socket
  | rearm d =>
      cases hbackend : luck.backend with
      | none =>
          simp only [Stage.run, hbackend] at h
          cases h
          exact .rearms d hbackend
      | some e =>
          simp only [Stage.run, hbackend] at h
          cases h
          exact .rearmFails d e hbackend

/-- What a stage leaves alone. -/
theorem Carries.threads (h : s.Carries luck stage s₁ next) :
    s₁.threads = s.threads ∧ s₁.nextThread = s.nextThread ∧ s₁.listener = s.listener := by
  cases h with
  | tracks socket lock => cases s.table.socket? socket.descriptor <;> exact ⟨rfl, rfl, rfl⟩
  | drops d socket => cases socket <;> exact ⟨rfl, rfl, rfl⟩
  | _ => exact ⟨rfl, rfl, rfl⟩

/-! ## Moves -/

/-- What a move comes to. -/
inductive Goes (s : State) : Move → State → Prop
  | carries {t : ThreadId} {luck : Luck} {stage : Stage} {rest next : List Stage} {s₁ : State}
      (here : s.agenda? t = some (stage :: rest)) (done : s.Carries luck stage s₁ next) :
      s.Goes (.step t luck) (s₁.setAgenda t (next ++ rest))
  | receives (events : List Event) (idle : s.agenda? 0 = some []) :
      s.Goes (.receive events) (s.setAgenda 0 (batch events))
  | completes (place : Nat) (r : Request) (isOpen : Bool) (pending : ByteArray)
      (kept : s.kept[place]? = some r) :
      s.Goes (.complete place isOpen pending)
        ({ s with kept := s.kept.eraseIdx place }.launch [.comeBack { r.socket with isOpen, pending }])
  | steals (d : Descriptor) : s.Goes (.steal d) { s with kernel := s.kernel.close d }
  | opens (d : Descriptor) (number : Nat) (free : s.kernel.file? d = none) :
      s.Goes (.openOther d number) { s with kernel := s.kernel.openFile d (.other number) }

/-- A thread that goes on carries out its next stage. -/
theorem exists_run_of_step {t : ThreadId} (h : s.step t luck = some (s', notes)) :
    ∃ stage rest s₁ next, s.agenda? t = some (stage :: rest) ∧ stage.run s luck = (s₁, next, notes) ∧
      s.Carries luck stage s₁ next ∧ s' = s₁.setAgenda t (next ++ rest) := by
  simp only [step] at h
  split at h
  · rename_i stage rest here
    split at h
    · rename_i hallows
      obtain ⟨rfl, rfl⟩ := Prod.mk.inj (Option.some.inj h)
      exact ⟨stage, rest, _, _, here, rfl, carries_of_run hallows rfl, rfl⟩
    · exact nomatch h
  · exact nomatch h

/-- A step carries out the next stage of its thread. -/
theorem goes_of_step {t : ThreadId} (h : s.step t luck = some (s', notes)) :
    s.Goes (.step t luck) s' := by
  obtain ⟨stage, rest, s₁, next, here, -, done, rfl⟩ := exists_run_of_step h
  exact .carries here done

/-- Whatever a move comes to is one of the outcomes. -/
theorem goes_of_move {move : Move} (h : s.move move = some (s', notes)) : s.Goes move s' := by
  cases move with
  | step t luck => exact goes_of_step h
  | receive events =>
      obtain ⟨s'', hreceive, heq⟩ := Option.map_eq_some_iff.mp h
      obtain ⟨rfl, rfl⟩ := Prod.mk.inj heq
      simp only [receive] at hreceive
      split at hreceive
      · rename_i idle
        cases hreceive
        exact .receives events idle
      · exact nomatch hreceive
  | complete place isOpen pending =>
      obtain ⟨s'', hcomplete, heq⟩ := Option.map_eq_some_iff.mp h
      obtain ⟨rfl, rfl⟩ := Prod.mk.inj heq
      obtain ⟨r, kept, rfl⟩ := Option.map_eq_some_iff.mp hcomplete
      exact .completes place r isOpen pending kept
  | steal d =>
      obtain ⟨rfl, rfl⟩ := Prod.mk.inj (Option.some.inj h)
      exact .steals d
  | openOther d number =>
      by_cases hfree : 0 < d ∧ !s.kernel.isOpen d ∧ d ≠ s.listener
      · simp only [State.move, if_pos hfree] at h
        obtain ⟨hpositive, hclosed, -⟩ := hfree
        obtain ⟨rfl, rfl⟩ := Prod.mk.inj (Option.some.inj h)
        refine .opens d number (Kernel.file?_eq_none (Int.le_of_lt hpositive) ?_)
        simpa using hclosed
      · simp only [State.move, if_neg hfree] at h
        exact nomatch h

end State

end PooledServer.Events
