import PooledServer.Proofs.Events.Ownership

/-!
# Sockets are passed on, never lost

    Carrying out a stage passes sockets on between the table, the requests and the stages that follow,
    or drops one, which closes its number.  That nothing else happens rests on four facts about the
    stages that threads have before them (`State.Sound`):

    * a socket that comes back stands for an open number, so it is not abandoned;
    * a number is forgotten only if no socket has it, so no socket is forgotten;
    * connections are accepted and numbers forgotten by the event loop alone, which is thread 0;
    * the loop forgets a number before it does anything else, so none gets a socket meanwhile. -/

namespace PooledServer.Events

open Net

namespace Stage

/-- A stage of the event loop alone. -/
def isLoops : Stage → Bool
  | .event .. | .accept | .forget _ => true
  | _ => false

def isForget : Stage → Bool
  | .forget _ => true
  | _ => false

/-- The socket that a stage gives up without closing its number. -/
def abandoned? : Stage → Option Socket
  | .unwatchForgotten _ socket => socket
  | .release socket false => some socket
  | _ => none

/-- What is true of a stage while the server holds `held`. -/
def Fit (held : Multiset Handle) : Stage → Prop
  | .park _ isValid | .release _ isValid => isValid = true
  | .forget d => ∀ x ∈ held, x.1 ≠ d
  | .unwatchForgotten _ socket => socket = none
  | _ => True

variable {stage : Stage} {held held' : Multiset Handle}

theorem isForget_eq_false (h : stage.isLoops = false) : stage.isForget = false := by
  cases stage <;> first | rfl | exact h

/-- A stage that fits gives no socket up. -/
theorem Fit.abandoned? (h : stage.Fit held) : stage.abandoned? = none := by
  cases stage with
  | unwatchForgotten d socket => exact h
  | release socket isValid =>
      cases isValid with
      | true => rfl
      | false => exact nomatch h
  | _ => rfl

theorem Fit.mono (h : stage.Fit held) (hheld : ∀ x ∈ held', x ∈ held) : stage.Fit held' := by
  cases stage with
  | forget d => exact fun x hx => h x (hheld x hx)
  | _ => exact h

theorem Fit.of_isForget_eq_false (h : stage.Fit held) (hforget : stage.isForget = false) :
    stage.Fit held' := by
  cases stage with
  | forget d => exact nomatch hforget
  | _ => exact h

end Stage

theorem load_nil : load [] = 0 := rfl

/-! ## The sockets in the table -/

namespace Table

variable {t : Table} {d : Descriptor} {e : Entry} {socket : Socket}

theorem handles_erase (ht : t.Sound) :
    ↑((t.socket? d).map Socket.handle).toList + (t.erase d).handles = t.handles := by
  have hperm := (t.sockets_erase (d := d) ht.distinct).map Socket.handle
  rw [List.map_append] at hperm
  refine Eq.trans ?_ (Multiset.coe_eq_coe.mpr hperm)
  rw [← Multiset.coe_add]
  cases t.socket? d <;> rfl

theorem handles_insert (ht : t.Sound) :
    ↑((t.socket? d).map Socket.handle).toList + (t.insert d e).handles =
      t.handles + ↑(e.socket.map Socket.handle).toList := by
  have hinsert : (t.insert d e).handles =
      ↑(e.socket.map Socket.handle).toList + (t.erase d).handles := by
    simp only [handles]
    rw [sockets_insert, List.map_append, ← Multiset.coe_add]
    cases e.socket <;> rfl
  rw [hinsert, ← handles_erase (d := d) ht]
  abel

theorem mem_handles (h : t.socket? d = some socket) : socket.handle ∈ t.handles := by
  obtain ⟨e, hentry, hsocket⟩ := entry?_of_socket? h
  have hmem : socket ∈ t.sockets := List.mem_filterMap.mpr ⟨(d, e), mem_of_entry hentry, hsocket⟩
  exact Multiset.mem_coe.mpr (List.mem_map_of_mem hmem)

end Table

namespace State

/-- What is true of an event server whose connections nobody else closes. -/
structure Sound (s : State) : Prop where
  numbered : s.Numbered
  table : s.table.Sound
  owned : s.Owned
  loops : ∀ th ∈ s.threads, th.id ≠ 0 → ∀ stage ∈ th.agenda, stage.isLoops = false
  first : ∀ th ∈ s.threads, ∀ stage ∈ th.agenda.tail, stage.isForget = false
  fits : ∀ th ∈ s.threads, ∀ stage ∈ th.agenda, stage.Fit s.held

variable {s s' s₁ : State} {t : ThreadId} {luck : Luck} {stage : Stage} {next rest : List Stage}
  {d : Descriptor} {e : Entry} {socket : Socket} {x : Handle}

/-! ## The stage at hand -/

theorem Numbered.exists_rest (hs : s.Numbered) (here : s.agenda? t = some (stage :: rest))
    (hthreads : s₁.threads = s.threads) (next : List Stage) :
    ∃ c, s.held = s.stored + stage.handles + c ∧
      (s₁.setAgenda t (next ++ rest)).held = s₁.stored + load next + c := by
  -- what the other threads hold, and this one later, is `c` before and after
  obtain ⟨c, hbefore, hafter⟩ := hs.exists_gather here hthreads next Stage.handles
  refine ⟨c, ?_, ?_⟩
  · show s.stored + s.gather Stage.handles = _
    rw [hbefore, add_assoc]
  · show s₁.stored + (s₁.setAgenda t (next ++ rest)).gather Stage.handles = _
    rw [hafter, add_assoc]
    rfl

theorem Sound.mem_held (hs : s.Sound) (here : s.agenda? t = some (stage :: rest))
    (hx : x ∈ stage.handles) : x ∈ s.held := by
  obtain ⟨c, hheld, -⟩ := hs.numbered.exists_rest here rfl []
  rw [hheld]
  exact Multiset.mem_add.mpr (Or.inl (Multiset.mem_add.mpr (Or.inr hx)))

theorem mem_held_of_socket? (h : s.table.socket? d = some socket) : socket.handle ∈ s.held :=
  Multiset.mem_add.mpr (Or.inl (Multiset.mem_add.mpr (Or.inl (Table.mem_handles h))))

theorem Sound.descriptor_of_socket? (hs : s.Sound) (h : s.table.socket? d = some socket) :
    socket.descriptor = d := by
  obtain ⟨e, hentry, hsocket⟩ := Table.entry?_of_socket? h
  exact (hs.table.own d e socket hentry hsocket).1

/-- The number of a new connection has no socket in the table. -/
theorem Sound.socket?_of_track (hs : s.Sound)
    (here : s.agenda? t = some (.track socket :: rest)) :
    s.table.socket? socket.descriptor = none := by
  cases hother : s.table.socket? socket.descriptor with
  | none => rfl
  | some other =>
      obtain ⟨c, hheld, -⟩ := hs.numbered.exists_rest here rfl []
      rw [add_assoc] at hheld
      refine absurd (hs.descriptor_of_socket? hother) ?_
      refine hs.owned.apart (x := other.handle) (y := socket.handle) hheld ?_ ?_
      · exact Multiset.mem_add.mpr (Or.inl (Table.mem_handles hother))
      · exact Multiset.mem_add.mpr (Or.inl (Multiset.mem_singleton_self _))

/-! ## What becomes of the sockets -/

/-- A stage that drops the one socket it holds. -/
theorem shift_drop (hstored : s₁.stored = s.stored) (hstage : stage.handles = {socket.handle})
    (files : s₁.kernel.file? = Function.update s.kernel.file? socket.descriptor none)
    (count : s₁.stats.accepted = s.stats.accepted) :
    Shift s s₁ (s.stored + stage.handles) (s₁.stored + load []) := by
  refine .closes socket.handle ?_ files count
  rw [hstored, hstage, load_nil, add_zero]

/-- A stage that passes sockets between the table and the stages that follow. -/
theorem shift_table (htable : s₁.table.handles + load next = s.table.handles + stage.handles)
    (hkept : s₁.kept = s.kept) (files : s₁.kernel.file? = s.kernel.file?)
    (count : s₁.stats.accepted = s.stats.accepted) :
    Shift s s₁ (s.stored + stage.handles) (s₁.stored + load next) := by
  refine .passes ?_ files count
  simp only [stored]
  rw [hkept, add_right_comm, htable, add_right_comm]

/-- A stage that takes an entry out of the table, and passes on what was parked in it. -/
theorem shift_erase (ht : s.table.Sound) (htable : s₁.table = s.table.erase d)
    (hload : load next = ↑((s.table.socket? d).map Socket.handle).toList + stage.handles)
    (hkept : s₁.kept = s.kept) (files : s₁.kernel.file? = s.kernel.file?)
    (count : s₁.stats.accepted = s.stats.accepted) :
    Shift s s₁ (s.stored + stage.handles) (s₁.stored + load next) := by
  refine shift_table ?_ hkept files count
  rw [htable, hload, ← Table.handles_erase (d := d) ht]
  abel

/-- A stage that puts an entry into the table, and passes on what was parked in its place. -/
theorem shift_insert (ht : s.table.Sound) (htable : s₁.table = s.table.insert d e)
    (hload : ↑(e.socket.map Socket.handle).toList + load next =
      ↑((s.table.socket? d).map Socket.handle).toList + stage.handles)
    (hkept : s₁.kept = s.kept) (files : s₁.kernel.file? = s.kernel.file?)
    (count : s₁.stats.accepted = s.stats.accepted) :
    Shift s s₁ (s.stored + stage.handles) (s₁.stored + load next) := by
  refine shift_table ?_ hkept files count
  have hput := Table.handles_insert (d := d) (e := e) ht
  rw [← htable] at hput
  refine add_left_cancel (a := ↑((s.table.socket? d).map Socket.handle).toList) ?_
  rw [← add_assoc, hput, add_assoc, hload]
  abel

/-- A stage that gives no socket up passes it on, or drops it and closes its number. -/
theorem Carries.shift (ht : s.table.Sound) (h : s.Carries luck stage s₁ next)
    (hkeeps : stage.abandoned? = none) :
    Shift s s₁ (s.stored + stage.handles) (s₁.stored + load next) := by
  cases h with
  | accepts d peer nonneg free =>
      refine .joins d nonneg free ?_ Kernel.file?_openFile rfl
      show s.stored + ({(d, s.stats.accepted)} + 0) = s.stored + 0 + {(d, s.stats.accepted)}
      abel
  | tracks socket lock =>
      cases hother : s.table.socket? socket.descriptor with
      | none =>
          refine shift_insert ht rfl ?_ rfl rfl rfl
          rw [hother]
          exact add_comm _ _
      | some other =>
          -- what was parked in the place of the new socket goes
          have hput := Table.handles_insert (d := socket.descriptor) (e := { socket := some socket }) ht
          rw [hother] at hput
          refine .closes other.handle ?_ Kernel.file?_close rfl
          simp only [stored, dropSocket?, dropSocket]
          show s.table.handles + _ + {socket.handle} =
            Table.handles (s.table.insert socket.descriptor _) + _ + 0 + {other.handle}
          rw [add_right_comm, ← Multiset.coe_singleton socket.handle]
          refine Eq.trans (congrArg (· + _) hput.symm) ?_
          rw [add_zero, add_comm _ (Table.handles _), add_right_comm]
          rfl
  | losesNew socket lock => exact shift_drop rfl rfl Kernel.file?_close rfl
  | closes d entry lock present idle =>
      refine shift_erase ht rfl ?_ rfl rfl rfl
      rw [Table.socket?_eq present]
      rfl
  | drops d socket =>
      have hsame := s.kernel.file?_unwatchIf luck d
      cases socket with
      | none => exact .passes rfl hsame rfl
      | some socket =>
          refine shift_drop rfl rfl ?_ rfl
          exact Kernel.file?_close.trans (congrArg (Function.update · socket.descriptor none) hsame)
  | forgets d lock => exact shift_erase ht rfl rfl rfl rfl rfl
  | leaves d socket =>
      cases hkeeps
      exact .passes rfl (s.kernel.file?_unwatchIf luck d) rfl
  | lendsEmpty index d entry lock present idle empty =>
      refine shift_insert ht rfl ?_ rfl rfl rfl
      rw [Table.socket?_eq present, empty]
      rfl
  | lends index d entry socket lock present idle parked =>
      refine shift_insert ht rfl ?_ rfl rfl rfl
      rw [Table.socket?_eq present, parked]
      exact add_comm _ _
  | keeps r =>
      refine .passes ?_ rfl rfl
      show s.table.handles + ↑((s.kept ++ [r]).map fun r => r.socket.handle) + 0 =
        s.table.handles + ↑(s.kept.map fun r => r.socket.handle) + {r.socket.handle}
      rw [List.map_append, ← Multiset.coe_add, add_zero, add_assoc]
      rfl
  | finishes r isOpen pending panic => cases panic <;> exact .passes rfl rfl rfl
  | parkBarred socket isValid lock => exact shift_drop rfl rfl Kernel.file?_close rfl
  | parks socket isValid lock present usable =>
      refine shift_insert ht rfl ?_ rfl rfl rfl
      rw [Table.socket?_eq present]
      exact add_comm _ _
  | retires socket isValid lock present useless =>
      refine shift_erase ht rfl ?_ rfl rfl rfl
      rw [Table.socket?_eq present]
      exact add_comm _ _
  | releases socket => exact shift_drop rfl rfl Kernel.file?_close rfl
  | abandons socket => cases hkeeps
  | _ => exact .passes rfl rfl rfl

/-- **NO STAGE LOSES A SOCKET**: a socket that comes back stands for an open number, and none is
    forgotten. -/
theorem Sound.shift (hs : s.Sound) (here : s.agenda? t = some (stage :: rest))
    (h : s.Carries luck stage s₁ next) :
    Shift s s₁ (s.stored + stage.handles) (s₁.stored + load next) := by
  have hfit : stage.Fit s.held :=
    hs.fits _ (mem_threads_of_agenda? here) stage (List.mem_cons_self ..)
  exact h.shift hs.table hfit.abandoned?

/-! ## What comes next -/

theorem Carries.isLoops_eq_false (h : s.Carries luck stage s₁ next) (hloops : stage.isLoops = false) :
    next.all (!·.isLoops) = true := by
  cases h with
  | finishes r isOpen pending panic => cases panic <;> rfl
  | _ => first | rfl | exact nomatch hloops

theorem Carries.isForget_tail (h : s.Carries luck stage s₁ next) :
    next.tail.all (!·.isForget) = true := by
  cases h with
  | finishes r isOpen pending panic => cases panic <;> rfl
  | _ => rfl

/-- Only the loop gets connections, and it does not forget any number meanwhile. -/
theorem Carries.of_grows (h : s.Carries luck stage s₁ next)
    (hgrows : s₁.stats.accepted = s.stats.accepted + 1) :
    stage = .accept ∧ next.all (!·.isForget) = true := by
  cases h with
  | accepts d peer nonneg free => exact ⟨rfl, rfl⟩
  | drops d socket => cases socket <;> exact absurd hgrows (Nat.ne_of_lt (Nat.lt_succ_self _))
  | tracks socket lock =>
      cases hother : s.table.socket? socket.descriptor <;> rw [hother] at hgrows <;>
        exact absurd hgrows (Nat.ne_of_lt (Nat.lt_succ_self _))
  | _ => exact absurd hgrows (Nat.ne_of_lt (Nat.lt_succ_self _))

theorem Carries.table_sound (ht : s.table.Sound) (h : s.Carries luck stage s₁ next) :
    s₁.table.Sound := by
  have hput : ∀ socket : Socket,
      (s.table.insert socket.descriptor { socket := some socket }).Sound := by
    intro socket
    refine ht.insert ?_
    intro other hother
    cases hother
    exact ⟨rfl, rfl⟩
  cases h with
  | tracks socket lock => cases s.table.socket? socket.descriptor <;> exact hput socket
  | closes d entry lock present idle => exact ht.erase
  | drops d socket => cases socket <;> exact ht
  | forgets d lock => exact ht.erase
  | lendsEmpty index d entry lock present idle empty => exact ht.insert fun _ h => nomatch h
  | lends index d entry socket lock present idle parked =>
      exact ht.insert fun _ h => nomatch h
  | parks socket isValid lock present usable => exact hput socket
  | retires socket isValid lock present useless => exact ht.erase
  | _ => exact ht

/-- The stages that follow fit what the server held before. -/
theorem Sound.fits_next (hs : s.Sound) (here : s.agenda? t = some (stage :: rest))
    (h : s.Carries luck stage s₁ next) : next.Forall (Stage.Fit s.held) := by
  have hfit : stage.Fit s.held :=
    hs.fits _ (mem_threads_of_agenda? here) stage (List.mem_cons_self ..)
  cases h with
  | misses index e gone =>
      show ∀ x ∈ s.held, x.1 ≠ e.descriptor
      -- a socket keeps its number open, and this one was found closed
      rintro x hx heq
      have hfile := (hs.owned.standing x hx).2
      rw [heq, gone] at hfile
      exact nomatch hfile
  | accepts d peer nonneg free => exact ⟨trivial, trivial⟩
  | forgets d lock =>
      show s.table.socket? d = none
      -- the loop came here because no socket had the number
      cases hsocket : s.table.socket? d with
      | none => rfl
      | some socket =>
          exact absurd (hs.descriptor_of_socket? hsocket) (hfit _ (mem_held_of_socket? hsocket))
  | forgetBarred d lock => exact rfl
  | finishes r isOpen pending panic =>
      cases panic with
      | none => exact trivial
      | some message => exact ⟨trivial, trivial⟩
  | comesBack socket =>
      -- the socket that comes back was held all along, so its number is still open
      obtain ⟨hnonneg, hfile⟩ :=
        hs.owned.standing socket.handle (hs.mem_held here (Multiset.mem_singleton_self _))
      show (decide (0 ≤ socket.handle.1) && (s.kernel.file? socket.handle.1).isSome) = true
      rw [decide_eq_true hnonneg, hfile]
      rfl
  | retires socket isValid lock present useless => exact hfit
  | turnsAway socket isValid lock other => exact hfit
  | _ => exact trivial

/-! ## Every move keeps a server sound -/

theorem of_mem_tail_append {α : Type*} {x : α} {l l' : List α} (h : x ∈ (l ++ l').tail) :
    x ∈ l.tail ∨ x ∈ l' := by
  cases l with
  | nil => exact Or.inr (List.mem_of_mem_tail h)
  | cons y l => exact List.mem_append.mp h

/-- The threads after a stage: its own with the stages that follow, and the others. -/
theorem Carries.of_mem_threads (h : s.Carries luck stage s₁ next) {th : Thread}
    (hth : th ∈ (s₁.setAgenda t (next ++ rest)).threads) :
    th = ⟨t, next ++ rest⟩ ∨ th.id ≠ t ∧ th ∈ s.threads := by
  rw [← h.threads.1]
  exact of_mem_setAgenda hth

theorem Carries.numbered (hs : s.Numbered) (h : s.Carries luck stage s₁ next) : s₁.Numbered := by
  obtain ⟨hthreads, hcount, -⟩ := h.threads
  constructor
  · rw [hthreads]
    exact hs.distinct
  · rw [hthreads, hcount]
    exact hs.below

theorem Sound.change_held (hs : s.Sound) (here : s.agenda? t = some (stage :: rest))
    (h : s.Carries luck stage s₁ next) :
    Change s (s₁.setAgenda t (next ++ rest)) s.held (s₁.setAgenda t (next ++ rest)).held := by
  obtain ⟨c, hheld, hheld'⟩ := hs.numbered.exists_rest here h.threads.1 next
  rw [hheld, hheld']
  exact ((hs.shift here h).frame t (next ++ rest) c).change

/-- The stages of all threads fit what the server held before. -/
theorem Sound.fits_before (hs : s.Sound) (here : s.agenda? t = some (stage :: rest))
    (h : s.Carries luck stage s₁ next) {th : Thread}
    (hth : th ∈ (s₁.setAgenda t (next ++ rest)).threads) : ∀ x ∈ th.agenda, x.Fit s.held := by
  intro x hx
  rcases h.of_mem_threads hth with rfl | ⟨-, hold⟩
  · rcases List.mem_append.mp hx with hnew | hrest
    · exact List.forall_iff_forall_mem.mp (hs.fits_next here h) x hnew
    · exact hs.fits _ (mem_threads_of_agenda? here) x (List.mem_cons_of_mem _ hrest)
  · exact hs.fits th hold x hx

/-- While a connection gets its socket, no thread is about to forget a number. -/
theorem Sound.isForget_of_grows (hs : s.Sound) (here : s.agenda? t = some (stage :: rest))
    (h : s.Carries luck stage s₁ next) (hgrows : s₁.stats.accepted = s.stats.accepted + 1)
    {th : Thread} (hth : th ∈ (s₁.setAgenda t (next ++ rest)).threads) :
    ∀ x ∈ th.agenda, x.isForget = false := by
  intro x hx
  obtain ⟨rfl, hnext⟩ := h.of_grows hgrows
  have hmine := mem_threads_of_agenda? here
  -- only thread 0 accepts, and what it would forget comes first
  have hloop : t = 0 := by
    by_contra hne
    exact nomatch hs.loops _ hmine hne .accept (List.mem_cons_self ..)
  rcases h.of_mem_threads hth with rfl | ⟨hother, hold⟩
  · rcases List.mem_append.mp hx with hnew | hrest
    · simpa using List.all_eq_true.mp hnext x hnew
    · exact hs.first _ hmine x hrest
  · rw [hloop] at hother
    exact Stage.isForget_eq_false (hs.loops th hold hother x hx)

/-- **EVERY STAGE KEEPS A SERVER SOUND**. -/
theorem Sound.carries (hs : s.Sound) (here : s.agenda? t = some (stage :: rest))
    (h : s.Carries luck stage s₁ next) : (s₁.setAgenda t (next ++ rest)).Sound := by
  have hmine := mem_threads_of_agenda? here
  have hchange := hs.change_held here h
  refine ⟨?_, (h.table_sound hs.table : s₁.table.Sound), hs.owned.change hchange, ?_, ?_, ?_⟩
  · exact (h.numbered hs.numbered).setAgenda
  · intro th hth hne x hx
    rcases h.of_mem_threads hth with rfl | ⟨-, hold⟩
    · rcases List.mem_append.mp hx with hnew | hrest
      · have hall := h.isLoops_eq_false (hs.loops _ hmine hne stage (List.mem_cons_self ..))
        simpa using List.all_eq_true.mp hall x hnew
      · exact hs.loops _ hmine hne x (List.mem_cons_of_mem _ hrest)
    · exact hs.loops th hold hne x hx
  · intro th hth x hx
    rcases h.of_mem_threads hth with rfl | ⟨-, hold⟩
    · rcases of_mem_tail_append hx with hnew | hrest
      · simpa using List.all_eq_true.mp h.isForget_tail x hnew
      · exact hs.first _ hmine x hrest
    · exact hs.first th hold x hx
  · intro th hth x hx
    -- a new socket can break only what a stage knows of a number that it forgets
    rcases hchange.grows with hshrinks | hgrows
    · exact (hs.fits_before here h hth x hx).mono hshrinks
    · exact (hs.fits_before here h hth x hx).of_isForget_eq_false
        (hs.isForget_of_grows here h hgrows hth x hx)

end State

end PooledServer.Events
