import PooledServer.Proofs.Events.Serial
import PooledServer.Proofs.Events.Waiting

/-!
# The statistics balance

    If every operation runs to its end before another begins and the lock works, then between operations
    every connection that was accepted is tracked or counted as closed, and every request that was
    dispatched is in flight, or its completion began the watch again or closed the connection
    (`State.statistics_balance`).  Watches may fail to begin and to end at every call.

    Five stages change a counter, and often not the one that changes the table.  Between the two something
    is still to be counted, a connection or a completion or both, and which depends on the one stage that
    is at work (`Table.Owes`).  Carrying it out pays a debt or passes it on (`Backed.works`). -/

namespace PooledServer.Events

open Net

namespace Table

variable {t : Table} {d : Descriptor} {e : Entry}

/-- How many connections of the table are in flight. -/
def busyCount (t : Table) : Nat := t.countP (·.2.isBusy)

/-! ## Counting entries -/

theorem busyCount_cons (c : Descriptor) (new : Entry) :
    Table.busyCount ((c, new) :: t) = t.busyCount + new.isBusy.toNat := by
  simp only [busyCount]
  rw [List.countP_cons]
  cases new.isBusy <;> rfl

theorem length_erase (hd : (t.map Prod.fst).Nodup) (h : t.entry? d = some e) :
    (t.erase d).length + 1 = t.length := (perm_erase hd h).length_eq

theorem busyCount_erase (hd : (t.map Prod.fst).Nodup) (h : t.entry? d = some e) :
    (t.erase d).busyCount + e.isBusy.toNat = t.busyCount := by
  rw [← busyCount_cons d e]
  exact (perm_erase hd h).countP_eq _

theorem length_insert (hd : (t.map Prod.fst).Nodup) (h : t.entry? d = some e) (new : Entry) :
    (t.insert d new).length = t.length := length_erase hd h

theorem busyCount_insert (hd : (t.map Prod.fst).Nodup) (h : t.entry? d = some e) (new : Entry) :
    Table.busyCount (t.insert d new) + e.isBusy.toNat = t.busyCount + new.isBusy.toNat := by
  rw [← busyCount_erase hd h]
  show Table.busyCount ((d, new) :: t.erase d) + e.isBusy.toNat = _
  rw [busyCount_cons, add_right_comm]

end Table

namespace Stage

/-- The socket whose completion a stage belongs to, after a stage that belonged to that of `back`: a
    completion begins when a socket comes back, and ends where other work begins. -/
def returning (back : Option Socket) : Stage → Option Socket
  | .comeBack socket => some socket
  | stage => if stage.subject?.isSome then back else none

/-- The stage itself, if it is at work on a number. -/
def work (stage : Stage) : Multiset Stage := if stage.subject?.isSome then {stage} else 0

theorem work_of_subject {stage : Stage} {d : Descriptor} (h : stage.subject? = some d) :
    stage.work = {stage} := by
  rw [work, h]
  rfl

theorem work_of_none {stage : Stage} (h : stage.subject? = none) : stage.work = 0 := by
  rw [work, h]
  rfl

end Stage

namespace State

/-- The rule that an operation begins only when no other is under way, the lock works, and the numbers
    of connections are closed by dropping their sockets only. -/
def wholly (s : State) : Move → Bool
  | .step t luck =>
    match s.agenda? t with
    | some (stage :: _) => luck.lock && (stage.subject?.isSome || s.isQuiet)
    | _ => false
  | .receive _ | .complete .. => s.isQuiet
  | move => s.spares move

/-- The socket whose completion a move belongs to, after a move that belonged to that of `back`. -/
def returning (s : State) (back : Option Socket) : Move → Option Socket
  | .step t _ =>
    match s.agenda? t with
    | some (stage :: _) => stage.returning back
    | _ => none
  | .receive _ | .complete .. => none
  | .steal _ | .openOther .. => back

/-- The number of the socket stands for its connection. -/
def connects (s : State) (socket : Socket) : Bool :=
  s.kernel.file? socket.descriptor = some (.connection socket.connection)

/-- One if the connection of the socket that comes back is closed between `s` and `s'`, and else zero. -/
def hangUps (s s' : State) (back : Option Socket) : Nat :=
  (back.any fun socket => s.connects socket && !s'.connects socket).toNat

/-- How many completions end in closing the connection during these moves.  A connection is closed once,
    so a completion counts once at most. -/
def closings (s : State) (back : Option Socket) : List Move → Nat
  | [] => 0
  | move :: rest =>
    match s.move move with
    | some (s', _) => s.hangUps s' (s.returning back move) + s'.closings (s.returning back move) rest
    | none => 0

/-- The stages of all threads that are at work. -/
def work (s : State) : Multiset Stage := s.gather Stage.work

end State

/-! ## What is still to be counted -/

/-- What is still to be counted while a stage is at work, in connections and completions. -/
inductive Table.Owes (t : Table) : Option Socket → Stage → Nat → Nat → Prop
  | track (socket : Socket) : t.Owes none (.track socket) 1 0
  | watch (d : Descriptor) : t.Owes none (.watch d) 0 0
  | close (d : Descriptor) : t.Owes none (.close d) 0 0
  | unwatchClosed (d : Descriptor) (socket : Option Socket) :
      t.Owes none (.unwatchClosed d socket) 1 0
  | forget (d : Descriptor) : t.Owes none (.forget d) 0 0
  | unwatchForgotten (d : Descriptor) (socket : Option Socket) :
      t.Owes none (.unwatchForgotten d socket) 0 0
  | unwatchReady (index : Nat) (d : Descriptor) : t.Owes none (.unwatchReady index d) 0 0
  | lend (index : Nat) (d : Descriptor) : t.Owes none (.lend index d) 0 0
  | comeBack (socket : Socket) : t.Owes none (.comeBack socket) 0 0
  | park (socket : Socket) (isValid : Bool) : t.Owes (some socket) (.park socket isValid) 0 0
  | release (socket : Socket) (isValid : Bool) : t.Owes (some socket) (.release socket isValid) 1 1
  | rearm (socket : Socket) (parked : t.entry? socket.descriptor = some { socket := some socket }) :
      t.Owes (some socket) (.rearm socket.descriptor) 0 1
  | closeAgain (socket : Socket)
      (parked : t.entry? socket.descriptor = some { socket := some socket }) :
      t.Owes (some socket) (.close socket.descriptor) 0 1
  | unwatchAgain (socket : Socket) :
      t.Owes (some socket) (.unwatchClosed socket.descriptor (some socket)) 1 1

namespace Stats

/-- The counters, when so many connections and so many completions are still to be counted. -/
structure Tallied (stats : Stats) (table : Table) (closings connections completions : Nat) : Prop where
  accepted : stats.accepted = table.length + stats.closed + connections
  dispatched : stats.dispatched = table.busyCount + stats.rearmed + closings + completions

/-- The counters balance but for what the stages at work, of which there is one at most, still owe. -/
inductive Accounts (stats : Stats) (table : Table) (back : Option Socket) (closings : Nat) :
    Multiset Stage → Prop
  | settled (tally : stats.Tallied table closings 0 0) : stats.Accounts table back closings 0
  | pending {stage : Stage} {i j : Nat} (owes : table.Owes back stage i j)
      (tally : stats.Tallied table closings i j) : stats.Accounts table back closings {stage}

variable {stats : Stats} {table : Table} {back : Option Socket} {k i j : Nat} {stage : Stage}
  {works : Multiset Stage} {d : Descriptor} {e : Entry}

/-- An entry is taken out of the table, and its connection is still to be counted. -/
theorem Tallied.erase (htally : stats.Tallied table k i j) (hd : (table.map Prod.fst).Nodup)
    (h : table.entry? d = some e) :
    stats.Tallied (table.erase d) k (i + 1) (j + e.isBusy.toNat) := by
  have hlength := Table.length_erase hd h
  have hbusy := Table.busyCount_erase hd h
  obtain ⟨haccepted, hdispatched⟩ := htally
  constructor
  · omega
  · omega

/-- An entry takes the place of another.  If it is busy and the other is not, a request has been handed
    out, and if the other was, a completion is still to be counted. -/
theorem Tallied.insert (htally : stats.Tallied table k i j) (hd : (table.map Prod.fst).Nodup)
    (h : table.entry? d = some e) (new : Entry) :
    stats.accepted = (table.insert d new).length + stats.closed + i ∧
      stats.dispatched + new.isBusy.toNat =
        Table.busyCount (table.insert d new) + stats.rearmed + k + (j + e.isBusy.toNat) := by
  have hlength := Table.length_insert hd h new
  have hbusy := Table.busyCount_insert hd h new
  obtain ⟨haccepted, hdispatched⟩ := htally
  constructor
  · omega
  · omega

/-- A connection is counted as closed, and with it the completion that closed it, if one did. -/
theorem Tallied.closes (htally : stats.Tallied table k 1 j) :
    Stats.Tallied { stats with closed := stats.closed + 1 } table (k + j) 0 0 := by
  obtain ⟨haccepted, hdispatched⟩ := htally
  constructor
  · show stats.accepted = table.length + (stats.closed + 1) + 0
    omega
  · show stats.dispatched = table.busyCount + stats.rearmed + (k + j) + 0
    omega

theorem Accounts.of_nothing (h : stats.Accounts table back k works) (hnone : works = 0) :
    stats.Tallied table k 0 0 := by
  cases h with
  | settled tally => exact tally
  | pending owes tally => exact absurd hnone (Multiset.singleton_ne_zero _)

theorem Accounts.of_mem (h : stats.Accounts table back k works) (hmem : stage ∈ works) :
    works = {stage} ∧ ∃ i j, table.Owes back stage i j ∧ stats.Tallied table k i j := by
  cases h with
  | settled tally => exact absurd hmem (Multiset.notMem_zero stage)
  | pending owes tally =>
      rw [Multiset.mem_singleton.mp hmem]
      exact ⟨rfl, _, _, owes, tally⟩

/-- The work goes on with a stage, and others that are not yet at work. -/
theorem Accounts.goesOn {others : List Stage} (howes : table.Owes back stage i j)
    (htally : stats.Tallied table k i j) (hothers : ∀ x ∈ others, x.subject? = none) :
    stats.Accounts table back k ((stage :: others).map Stage.work).sum := by
  have hnone : (others.map Stage.work).sum = 0 := by
    refine List.sum_eq_zero fun c hc => ?_
    obtain ⟨x, hx, rfl⟩ := List.mem_map.mp hc
    exact Stage.work_of_none (hothers x hx)
  have hstage : stage.work = {stage} := by cases howes <;> rfl
  rw [List.map_cons, List.sum_cons, hnone, add_zero, hstage]
  exact .pending howes htally

/-- The work goes on with one stage. -/
theorem Accounts.passes (howes : table.Owes back stage i j) (htally : stats.Tallied table k i j) :
    stats.Accounts table back k ([stage].map Stage.work).sum :=
  .goesOn howes htally fun _ hx => by cases hx

end Stats

namespace State

variable {s s' s₁ : State} {t : ThreadId} {luck : Luck} {stage : Stage} {next rest : List Stage}
  {listener d : Descriptor} {e : Entry} {move : Move} {moves : List Move} {socket : Socket}
  {back : Option Socket} {k i j : Nat}

/-! ## What a completion closes -/

theorem hangUps_of_files (h : s₁.kernel.file? = s.kernel.file?) (back : Option Socket) :
    s.hangUps s₁ back = 0 := by
  have hsame : s₁.connects = s.connects := by
    funext socket
    simp only [connects]
    rw [h]
  cases back with
  | none => rfl
  | some socket =>
      simp only [hangUps, Option.any_some]
      rw [hsame, Bool.and_not_self]
      rfl

theorem Sound.hangUps_of_dropped (hs : s.Sound) (hheld : socket.handle ∈ s.held)
    (files : s₁.kernel.file? = Function.update s.kernel.file? socket.descriptor none) :
    s.hangUps s₁ (some socket) = 1 := by
  have hbefore : s.connects socket = true := decide_eq_true (hs.owned.standing _ hheld).2
  have hafter : s₁.connects socket = false := by
    simp only [connects]
    rw [files, Function.update_self]
    rfl
  simp only [hangUps, Option.any_some]
  rw [hbefore, hafter]
  rfl

/-- A number changes that is no connection's. -/
theorem hangUps_of_elsewhere {file : Option File} (was : ∀ n, s.kernel.file? d ≠ some (.connection n))
    (files : s₁.kernel.file? = Function.update s.kernel.file? d file) (back : Option Socket) :
    s.hangUps s₁ back = 0 := by
  cases back with
  | none => rfl
  | some socket =>
      simp only [hangUps, Option.any_some, connects]
      rw [files]
      by_cases hd : socket.descriptor = d
      · rw [hd, decide_eq_false (was _)]
        rfl
      · rw [Function.update_of_ne hd, Bool.and_not_self]
        rfl

/-! ## What a stage pays and what it passes on -/

theorem accounts_track (hb : s.Backed) (hs : s.Sound)
    (here : s.agenda? t = some (.track socket :: rest)) (h : s.Carries luck (.track socket) s₁ next)
    (hlock : luck.lock = true) (htally : s.stats.Tallied s.table k 1 0) :
    s₁.stats.Accounts s₁.table none k (next.map Stage.work).sum := by
  cases h with
  | losesNew _ lock => exact nomatch hlock.symm.trans lock
  | tracks _ lock =>
      rw [hs.socket?_of_track here]
      have hfresh : s.table.erase socket.descriptor = s.table :=
        Table.erase_eq_self hs.table.distinct (hb.entry?_of_track hs here)
      have hinsert : s.table.insert socket.descriptor { socket := some socket } =
          (socket.descriptor, { socket := some socket }) :: s.table := congrArg (_ :: ·) hfresh
      obtain ⟨haccepted, hdispatched⟩ := htally
      refine .passes (.watch _) ⟨?_, ?_⟩
      · show s.stats.accepted = (s.table.insert _ _).length + s.stats.closed + 0
        rw [hinsert, List.length_cons]
        omega
      · show s.stats.dispatched = Table.busyCount (s.table.insert _ _) + s.stats.rearmed + k + 0
        rw [hinsert, Table.busyCount_cons]
        exact hdispatched

theorem accounts_close (hs : s.Sound) (h : s.Carries luck (.close d) s₁ next)
    (hlock : luck.lock = true) (htally : s.stats.Tallied s.table k 0 0) :
    s₁.stats.Accounts s₁.table none k (next.map Stage.work).sum := by
  cases h with
  | closeBarred _ lock => exact nomatch hlock.symm.trans lock
  | closesNothing | spares => exact .settled htally
  | closes _ entry lock present idle =>
      have hleft := htally.erase hs.table.distinct present
      rw [idle] at hleft
      exact .passes (.unwatchClosed d entry.socket) hleft

theorem accounts_unwatchClosed {parked : Option Socket}
    (h : s.Carries luck (.unwatchClosed d parked) s₁ next) (htally : s.stats.Tallied s.table k 1 0) :
    s₁.stats.Accounts s₁.table none k (next.map Stage.work).sum := by
  cases h with
  | drops _ _ => cases parked <;> exact .settled htally.closes

theorem accounts_forget (hb : s.Backed) (hs : s.Sound)
    (here : s.agenda? t = some (.forget d :: rest)) (h : s.Carries luck (.forget d) s₁ next)
    (hlock : luck.lock = true) (htally : s.stats.Tallied s.table k 0 0) :
    s₁.stats.Accounts s₁.table none k (next.map Stage.work).sum := by
  cases h with
  | forgetBarred _ lock => exact nomatch hlock.symm.trans lock
  | forgets _ lock =>
      rw [Table.erase_eq_self hs.table.distinct (hb.entry?_of_forget hs here)]
      exact .passes (.unwatchForgotten d _) htally

theorem accounts_lend {index : Nat} (hb : s.Backed) (hs : s.Sound) (hl : s.Lending)
    (h : s.Carries luck (.lend index d) s₁ next) (hlock : luck.lock = true)
    (htally : s.stats.Tallied s.table k 0 0) :
    s₁.stats.Accounts s₁.table none k (next.map Stage.work).sum := by
  cases h with
  | lendBarred _ _ lock => exact nomatch hlock.symm.trans lock
  | lendsNothing => exact .settled htally
  | skips _ _ entry lock present busy =>
      obtain ⟨haccepted, hdispatched⟩ := htally
      exact .settled ⟨haccepted, hdispatched⟩
  | lendsEmpty _ _ entry lock present idle empty =>
      obtain ⟨socket, hsocket⟩ := hb.exists_socket hl present idle
      exact nomatch empty.symm.trans hsocket
  | lends _ _ entry socket lock present idle parked =>
      obtain ⟨haccepted, hdispatched⟩ := htally.insert hs.table.distinct present { isBusy := true }
      rw [idle] at hdispatched
      exact .settled ⟨haccepted, hdispatched⟩

theorem accounts_park {isValid : Bool} (hs : s.Sound) (hl : s.Lending)
    (here : s.agenda? t = some (.park socket isValid :: rest))
    (h : s.Carries luck (.park socket isValid) s₁ next) (hlock : luck.lock = true)
    (htally : s.stats.Tallied s.table k 0 0) :
    s₁.stats.Accounts s₁.table (some socket) k (next.map Stage.work).sum := by
  cases h with
  | parkBarred _ _ lock => exact nomatch hlock.symm.trans lock
  | parks _ _ lock present usable =>
      obtain ⟨haccepted, hdispatched⟩ :=
        htally.insert hs.table.distinct present { socket := some socket }
      exact .passes (.rearm socket (entry?_put s.table)) ⟨haccepted, hdispatched⟩
  | retires _ _ lock present useless =>
      exact .passes (.release socket isValid) (htally.erase hs.table.distinct present)
  -- a socket that was dispatched is awaited, so it is not given up without its entry
  | turnsAway _ _ lock other =>
      exact absurd (hl.awaited_here here rfl) other

theorem accounts_release {isValid : Bool} (hs : s.Sound)
    (here : s.agenda? t = some (.release socket isValid :: rest))
    (h : s.Carries luck (.release socket isValid) s₁ next) (htally : s.stats.Tallied s.table k 1 1) :
    s₁.stats.Accounts s₁.table (some socket) (k + s.hangUps s₁ (some socket))
      (next.map Stage.work).sum := by
  have hfit : (Stage.release socket isValid).Fit s.held :=
    hs.fits _ (mem_threads_of_agenda? here) _ (List.mem_cons_self ..)
  cases h with
  | abandons _ => exact nomatch hfit
  | releases _ =>
      -- the connection is open until its socket is dropped here, so here the completion ends it
      have hheld : socket.handle ∈ s.held := hs.mem_held here (Multiset.mem_singleton_self _)
      rw [hs.hangUps_of_dropped hheld Kernel.file?_close]
      exact .settled htally.closes

theorem accounts_rearm (h : s.Carries luck (.rearm socket.descriptor) s₁ next)
    (parked : s.table.entry? socket.descriptor = some { socket := some socket })
    (htally : s.stats.Tallied s.table k 0 1) :
    s₁.stats.Accounts s₁.table (some socket) k (next.map Stage.work).sum := by
  cases h with
  | rearms _ backend =>
      obtain ⟨haccepted, hdispatched⟩ := htally
      refine .settled ⟨haccepted, ?_⟩
      show s.stats.dispatched = s.table.busyCount + (s.stats.rearmed + 1) + k + 0
      omega
  | rearmFails _ e backend => exact .passes (.closeAgain socket parked) htally

theorem accounts_closeAgain (hs : s.Sound) (h : s.Carries luck (.close socket.descriptor) s₁ next)
    (hlock : luck.lock = true)
    (parked : s.table.entry? socket.descriptor = some { socket := some socket })
    (htally : s.stats.Tallied s.table k 0 1) :
    s₁.stats.Accounts s₁.table (some socket) k (next.map Stage.work).sum := by
  cases h with
  | closeBarred _ lock => exact nomatch hlock.symm.trans lock
  | closesNothing _ lock absent => exact nomatch absent.symm.trans parked
  -- the socket has just been parked, so the close finds an entry, and not a busy one
  | spares _ entry lock present busy =>
      cases Option.some.inj (present.symm.trans parked)
      exact nomatch busy
  | closes _ entry lock present idle =>
      cases Option.some.inj (present.symm.trans parked)
      exact .passes (.unwatchAgain socket) (htally.erase hs.table.distinct present)

theorem accounts_unwatchAgain (hs : s.Sound)
    (here : s.agenda? t = some (.unwatchClosed socket.descriptor (some socket) :: rest))
    (h : s.Carries luck (.unwatchClosed socket.descriptor (some socket)) s₁ next)
    (htally : s.stats.Tallied s.table k 1 1) :
    s₁.stats.Accounts s₁.table (some socket) (k + s.hangUps s₁ (some socket))
      (next.map Stage.work).sum := by
  cases h with
  | drops _ _ =>
      have hheld : socket.handle ∈ s.held := hs.mem_held here (Multiset.mem_singleton_self _)
      have hsame := s.kernel.file?_unwatchIf luck socket.descriptor
      rw [hs.hangUps_of_dropped hheld (Kernel.file?_close.trans
        (congrArg (Function.update · socket.descriptor none) hsame))]
      exact .settled htally.closes

/-- **A STAGE AT WORK PAYS WHAT IT OWES OR PASSES IT ON**. -/
theorem Backed.works (hb : s.Backed) (hs : s.Sound) (hl : s.Lending)
    (here : s.agenda? t = some (stage :: rest)) (h : s.Carries luck stage s₁ next)
    (hlock : luck.lock = true) (howes : s.table.Owes back stage i j)
    (htally : s.stats.Tallied s.table k i j) :
    s₁.stats.Accounts s₁.table (stage.returning back) (k + s.hangUps s₁ (stage.returning back))
      (next.map Stage.work).sum := by
  -- a stage that leaves all files alone closes no connection
  have hquiet : ∀ {works : Multiset Stage} {back : Option Socket}, s₁.kernel.file? = s.kernel.file? →
      s₁.stats.Accounts s₁.table back k works →
      s₁.stats.Accounts s₁.table back (k + s.hangUps s₁ back) works := by
    intro works back files haccounts
    rw [hangUps_of_files files]
    exact haccounts
  cases howes with
  | track socket => exact accounts_track hb hs here h hlock htally
  | watch d =>
      cases h with
      | watches _ backend => exact hquiet rfl (.settled htally)
      | watchFails _ e backend => exact hquiet rfl (.passes (.close d) htally)
  | close d => exact accounts_close hs h hlock htally
  | unwatchClosed d parked => exact accounts_unwatchClosed h htally
  | forget d => exact accounts_forget hb hs here h hlock htally
  | unwatchForgotten d parked =>
      cases h with
      | leaves _ _ => exact hquiet (s.kernel.file?_unwatchIf luck d) (.settled htally)
  | unwatchReady index d =>
      cases h with
      | quiets | quietFails => exact hquiet rfl (.passes (.lend index d) htally)
  | lend index d => exact accounts_lend hb hs hl h hlock htally
  | comeBack socket =>
      cases h with
      | comesBack _ => exact hquiet rfl (.passes (.park socket _) htally)
  | park socket isValid =>
      refine hquiet ?_ (accounts_park hs hl here h hlock htally)
      cases h with
      | parkBarred _ _ lock => exact nomatch hlock.symm.trans lock
      | _ => rfl
  | release socket isValid => exact accounts_release hs here h htally
  | rearm socket parked =>
      refine hquiet ?_ (accounts_rearm h parked htally)
      cases h <;> rfl
  | closeAgain socket parked =>
      refine hquiet ?_ (accounts_closeAgain hs h hlock parked htally)
      cases h <;> rfl
  | unwatchAgain socket => exact accounts_unwatchAgain hs here h htally

/-- **WORK BEGINS WITH NOTHING LEFT TO COUNT**: an accepted connection is counted at once, and still to
    be put into the table. -/
theorem accounts_begin (htally : s.stats.Tallied s.table k 0 0) (h : s.Carries luck stage s₁ next)
    (hstage : stage.subject? = none) : s₁.stats.Accounts s₁.table none k (next.map Stage.work).sum := by
  cases h with
  | hears | ignores | acceptsNone | retries | keeps | tells => exact .settled htally
  | acceptFails =>
      obtain ⟨haccepted, hdispatched⟩ := htally
      exact .settled ⟨haccepted, hdispatched⟩
  | misses index e gone other => exact .passes (.forget _) htally
  | hangsUp index e other => exact .passes (.close _) htally
  | readies index e other => exact .passes (.unwatchReady index _) htally
  | accepts c peer nonneg free other =>
      obtain ⟨haccepted, hdispatched⟩ := htally
      refine .goesOn (.track _) ⟨?_, hdispatched⟩ fun x hx => by rw [List.mem_singleton.mp hx]; rfl
      exact congrArg (· + 1) haccepted
  | finishes r isOpen pending panic => exact .goesOn (.comeBack _) htally subject_of_panicked
  | _ => exact nomatch hstage

/-! ## Moves -/

theorem work_eq_zero_of_quiet (hquiet : s.isQuiet = true) : s.work = 0 := by
  refine Multiset.eq_zero_of_forall_notMem fun stage hmem => ?_
  obtain ⟨th, hth, x, hx, hstage⟩ := mem_gather.mp hmem
  have hnone := List.all_eq_true.mp (List.all_eq_true.mp hquiet th hth) x hx
  rw [Stage.work, if_neg] at hstage
  · exact Multiset.notMem_zero stage hstage
  · rw [Option.isNone_iff_eq_none.mp hnone]
    exact Bool.false_ne_true

/-- When the only stage at work is carried out, those that follow it are all the work there is. -/
theorem Sound.work_next (hs : s.Sound) (here : s.agenda? t = some (stage :: rest))
    (hthreads : s₁.threads = s.threads) (hwork : s.work = stage.work) :
    (s₁.setAgenda t (next ++ rest)).work = (next.map Stage.work).sum := by
  obtain ⟨c, hbefore, hafter⟩ := hs.numbered.exists_gather here hthreads next Stage.work
  have hnone : c = 0 := left_eq_add.mp (hwork.symm.trans hbefore)
  rw [work, hafter, hnone, add_zero]

theorem accounts_carries (ha : s.stats.Accounts s.table back k s.work) (hb : s.Backed) (hs : s.Sound)
    (hl : s.Lending) (here : s.agenda? t = some (stage :: rest)) (h : s.Carries luck stage s₁ next)
    (hlock : luck.lock = true) (hpause : stage.subject?.isSome = true ∨ s.isQuiet = true) :
    s₁.stats.Accounts s₁.table (stage.returning back) (k + s.hangUps s₁ (stage.returning back))
      (s₁.setAgenda t (next ++ rest)).work := by
  cases hsubject : stage.subject? with
  | none =>
      have hnone : s.work = 0 := by
        rcases hpause with hwork | hquiet
        · rw [hsubject] at hwork
          cases hwork
        · exact work_eq_zero_of_quiet hquiet
      have hback : stage.returning back = none := by
        cases stage with
        | event | accept | serve | panicked => rfl
        | _ => cases hsubject
      rw [hs.work_next here h.threads.1 (hnone.trans (Stage.work_of_none hsubject).symm), hback]
      exact accounts_begin (ha.of_nothing hnone) h hsubject
  | some d =>
      have hmine := Stage.work_of_subject hsubject
      have hmem : stage ∈ s.work := by
        refine mem_gather.mpr ⟨_, mem_threads_of_agenda? here, stage, List.mem_cons_self .., ?_⟩
        rw [hmine]
        exact Multiset.mem_singleton_self stage
      obtain ⟨hwork, i, j, howes, htally⟩ := ha.of_mem hmem
      rw [hs.work_next here h.threads.1 (hwork.trans hmine.symm)]
      exact hb.works hs hl here h hlock howes htally

/-- **THE ACCOUNTS ARE KEPT BY EVERY MOVE**. -/
theorem accounts_goes (ha : s.stats.Accounts s.table back k s.work) (hb : s.Backed) (hs : s.Sound)
    (hl : s.Lending) (hrule : s.wholly move = true) (h : s.Goes move s') :
    s'.stats.Accounts s'.table (s.returning back move) (k + s.hangUps s' (s.returning back move))
      s'.work := by
  cases h with
  | @carries t luck stage rest next s₁ here done =>
      simp only [wholly, here] at hrule
      obtain ⟨hlock, hpause⟩ := Bool.and_eq_true_iff.mp hrule
      have hback : s.returning back (.step t luck) = stage.returning back := by
        simp only [returning, here]
      rw [hback]
      exact accounts_carries ha hb hs hl here done hlock (Bool.or_eq_true_iff.mp hpause)
  | receives events idle =>
      have hwork : (s.setAgenda 0 (batch events)).work = 0 :=
        (hs.numbered.gather_batch idle events fun _ _ => rfl).trans (work_eq_zero_of_quiet hrule)
      rw [hwork]
      exact .settled (ha.of_nothing (work_eq_zero_of_quiet hrule))
  | completes place r isOpen pending kept =>
      have hnone := work_eq_zero_of_quiet hrule
      have hwork : (s.finished place { r.socket with isOpen, pending }).work =
          ([Stage.comeBack { r.socket with isOpen, pending }].map Stage.work).sum := by
        rw [finished, work, gather_launch]
        show s.work + _ = _
        rw [hnone, zero_add]
      refine Eq.mpr (congrArg _ hwork) ?_
      exact .passes (.comeBack _) (ha.of_nothing hnone)
  | steals d =>
      rw [hangUps_of_elsewhere (file?_of_spares hrule) Kernel.file?_close]
      exact ha
  | opens d number free =>
      have hother : ∀ n, s.kernel.file? d ≠ some (.connection n) := fun n h => by
        rw [free] at h
        cases h
      rw [hangUps_of_elsewhere hother Kernel.file?_openFile]
      exact ha

/-! ## Runs -/

/-- What is true of a server whose operations run to their ends. -/
structure Orderly (s : State) (back : Option Socket) (closings : Nat) : Prop where
  sound : s.Sound
  lending : s.Lending
  backed : s.Backed
  accounts : s.stats.Accounts s.table back closings s.work

theorem orderly_new (listener : Descriptor) : (State.new listener).Orderly none 0 :=
  ⟨sound_new listener, lending_new listener, backed_new listener, .settled ⟨rfl, rfl⟩⟩

theorem Orderly.goes (ho : s.Orderly back k) (hrule : s.wholly move = true) (h : s.Goes move s') :
    s'.Orderly (s.returning back move) (k + s.hangUps s' (s.returning back move)) := by
  refine ⟨ho.sound.goes (spares_of_rule hrule fun _ => rfl) h, ho.lending.goes ho.sound h, ?_,
    accounts_goes ho.accounts ho.backed ho.sound ho.lending hrule h⟩
  refine ho.backed.goes ho.sound ho.lending h ?_
  rintro t luck rfl
  simp only [wholly] at hrule
  split at hrule
  · exact (Bool.and_eq_true_iff.mp hrule).1
  · cases hrule

/-- The completions that close connections add up along a run. -/
theorem Orderly.run (ho : s.Orderly back k) (hrun : s.run wholly moves = some s') :
    ∃ back', s'.Orderly back' (k + s.closings back moves) := by
  -- the closings of the first move go over to those that are counted already
  induction moves generalizing s back k with
  | nil =>
      cases hrun
      exact ⟨back, ho⟩
  | cons move rest ih =>
      simp only [State.run] at hrun
      split at hrun
      · rename_i hrule
        obtain ⟨⟨s₁, notes⟩, hmove, hrest⟩ := Option.bind_eq_some_iff.mp hrun
        obtain ⟨back', hend⟩ := ih (ho.goes hrule (goes_of_move hmove)) hrest
        refine ⟨back', ?_⟩
        simp only [closings, hmove]
        rw [← add_assoc]
        exact hend
      · cases hrun

/-- **THE STATISTICS BALANCE**: between operations every connection that was accepted is tracked or
    counted as closed, and every request that was dispatched is in flight, was counted when its
    connection was watched again, or had its connection closed by its completion. -/
theorem statistics_balance (hrun : (State.new listener).run wholly moves = some s)
    (hquiet : s.isQuiet = true) :
    s.stats.accepted = s.trackedCount + s.stats.closed ∧
      s.stats.dispatched = s.table.busyCount + s.stats.rearmed +
        (State.new listener).closings none moves := by
  obtain ⟨back, horderly⟩ := (orderly_new listener).run hrun
  rw [zero_add] at horderly
  obtain ⟨haccepted, hdispatched⟩ :=
    horderly.accounts.of_nothing (work_eq_zero_of_quiet hquiet)
  exact ⟨haccepted, hdispatched⟩

/-- The third client of `clientsJoin` is ready once more; the request for it is finished too, but the
    watch cannot be begun again, and the connection is closed. -/
def watchLost : List Move :=
  [.receive [⟨5, .readable⟩], .step 0 {}, .step 0 {}, .step 0 {}, .step 0 {}, .complete 1 true .empty,
    .step 2 {}, .step 2 {}, .step 2 { backend := some (.system 28) }, .step 2 {}, .step 2 {}]

/-- A server with one connection in flight, after another could not be watched again. -/
def lossyServer : State :=
  ((State.new 3).run wholly (clientsJoin ++ requestsMeet ++ watchLost)).getD (State.new 3)

theorem statistics_balance_watchLost :
    (State.new 3).run wholly (clientsJoin ++ requestsMeet ++ watchLost) = some lossyServer ∧
    lossyServer.isQuiet = true ∧
    lossyServer.stats.rearmed = 1 ∧ lossyServer.stats.closed = 2 ∧
    (State.new 3).closings none (clientsJoin ++ requestsMeet ++ watchLost) = 1 ∧
    lossyServer.stats.accepted = lossyServer.trackedCount + lossyServer.stats.closed ∧
    lossyServer.stats.dispatched = lossyServer.table.busyCount + lossyServer.stats.rearmed +
      (State.new 3).closings none (clientsJoin ++ requestsMeet ++ watchLost) := by
  have hrun : (State.new 3).run wholly (clientsJoin ++ requestsMeet ++ watchLost) =
      some lossyServer := (Option.getD_of_ne_none (by decide) _).symm
  have hquiet : lossyServer.isQuiet = true := by decide
  exact ⟨hrun, hquiet, by decide, by decide, by decide, statistics_balance hrun hquiet⟩

end State

end PooledServer.Events
