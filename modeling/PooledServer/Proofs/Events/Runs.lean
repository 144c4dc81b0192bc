import PooledServer.Events.Create
import PooledServer.Proofs.Events.Custody

/-!
# Runs of an event server

    A run is any sequence of moves that keep to a rule.  Under the rule that nobody else closes the
    number of a connection (`State.spares`), a server is sound from its creation on, whatever events
    come, whichever locks and calls fail, and however the threads interleave. -/

namespace PooledServer.Events

open Net

namespace State

/-- The server after a sequence of moves that keep to `rule`. -/
def run (s : State) (rule : State → Move → Bool) : List Move → Option State
  | [] => some s
  | move :: rest =>
    if rule s move then (s.move move).bind fun (s', _) => s'.run rule rest
    else none

/-- The rule that the number of a connection is closed by dropping its socket only. -/
def spares (s : State) : Move → Bool
  | .steal d => !(s.kernel.file? d matches some (.connection _))
  | _ => true

variable {s s' : State} {listener : Descriptor} {rule : State → Move → Bool} {move : Move}
  {moves : List Move}

/-- A rule spares connections if it allows no more descriptors to be closed. -/
theorem spares_of_rule (h : rule s move = true) (hsteal : ∀ d, rule s (.steal d) = s.spares (.steal d)) :
    s.spares move = true := by
  cases move with
  | steal d => exact (hsteal d).symm.trans h
  | _ => rfl

/-- A property that every move within the rule keeps holds at the end of a run. -/
theorem run_keeps_moves {P : State → Prop}
    (hmove : ∀ s move s' notes, P s → rule s move = true → s.move move = some (s', notes) → P s')
    (h : P s) (hrun : s.run rule moves = some s') : P s' := by
  -- the moves are taken from the front, so the induction is on them with the server generalized
  induction moves generalizing s with
  | nil =>
      cases hrun
      exact h
  | cons move rest ih =>
      simp only [run] at hrun
      split at hrun
      · rename_i hrule
        obtain ⟨⟨s₁, notes⟩, hgoes, hrest⟩ := Option.bind_eq_some_iff.mp hrun
        exact ih (hmove s move s₁ notes h hrule hgoes) hrest
      · exact nomatch hrun

theorem run_keeps {P : State → Prop}
    (hmove : ∀ s move s', P s → rule s move = true → s.Goes move s' → P s') (h : P s)
    (hrun : s.run rule moves = some s') : P s' :=
  run_keeps_moves (fun s move s' _ hs hrule h => hmove s move s' hs hrule (goes_of_move h)) h hrun

theorem listener_of_run (hrun : (State.new listener).run rule moves = some s) :
    s.listener = listener := by
  refine run_keeps (P := fun s => s.listener = listener) ?_ rfl hrun
  intro s move s' hs _ h
  cases h with
  | carries here done => exact done.threads.2.2.trans hs
  | _ => exact hs

/-! ## The beginning -/

theorem sound_new (listener : Descriptor) : (State.new listener).Sound := by
  have hfile : (State.new listener).kernel.file? =
      Function.update ({} : Kernel).file? listener (some .listener) := Kernel.file?_openFile
  have hno : ∀ d n, (State.new listener).kernel.file? d ≠ some (.connection n) := by
    intro d n h
    rw [hfile] at h
    by_cases hd : d = listener
    · rw [hd, Function.update_self] at h
      exact nomatch h
    · rw [Function.update_of_ne hd] at h
      exact nomatch h
  refine ⟨⟨List.nodup_singleton 0, ?_⟩, Table.sound_nil, ⟨Multiset.nodup_zero, ?_, ?_, ?_⟩, ?_, ?_, ?_⟩
  · intro th hth
    rw [List.mem_singleton.mp hth]
    exact Nat.one_pos
  · exact fun x hx => nomatch hx
  · exact fun x hx => nomatch hx
  · exact fun d n h => absurd h (hno d n)
  · intro th hth hne
    rw [List.mem_singleton.mp hth] at hne
    exact absurd rfl hne
  · intro th hth x hx
    rw [List.mem_singleton.mp hth] at hx
    exact nomatch hx
  · intro th hth x hx
    rw [List.mem_singleton.mp hth] at hx
    exact nomatch hx

/-! ## Moves -/

/-- A batch adds nothing to a sum to which events count nothing. -/
theorem Numbered.gather_batch {M : Type*} [AddCommMonoid M] (hs : s.Numbered) (idle : s.agenda? 0 = some [])
    (events : List Event) {f : Stage → M} (hf : ∀ index e, f (.event index e) = 0) :
    (s.setAgenda 0 (batch events)).gather f = s.gather f := by
  rw [hs.gather_of_idle idle, List.sum_eq_zero, zero_add]
  intro x hx
  obtain ⟨stage, hstage, rfl⟩ := List.mem_map.mp hx
  obtain ⟨⟨e, index⟩, -, rfl⟩ := List.mem_map.mp hstage
  exact hf index e

theorem Numbered.held_batch (hs : s.Numbered) (idle : s.agenda? 0 = some []) (events : List Event) :
    (s.setAgenda 0 (batch events)).held = s.held := by
  show s.stored + (s.setAgenda 0 (batch events)).gather Stage.handles = _
  rw [hs.gather_batch idle events fun _ _ => rfl]
  rfl

theorem Sound.receives (hs : s.Sound) {events : List Event} (idle : s.agenda? 0 = some []) :
    (s.setAgenda 0 (batch events)).Sound := by
  have hheld := hs.numbered.held_batch idle events
  -- what comes is events only: nothing among them is to be forgotten
  have hevent : ∀ x ∈ batch events, ∃ index e, x = .event index e := by
    intro x hx
    obtain ⟨⟨e, index⟩, -, rfl⟩ := List.mem_map.mp hx
    exact ⟨index, e, rfl⟩
  refine ⟨hs.numbered.setAgenda, hs.table, hs.owned.change (.passes hheld rfl rfl), ?_, ?_, ?_⟩
  · intro th hth hne x hx
    rcases of_mem_setAgenda hth with rfl | ⟨-, hold⟩
    · exact absurd rfl hne
    · exact hs.loops th hold hne x hx
  · intro th hth x hx
    rcases of_mem_setAgenda hth with rfl | ⟨-, hold⟩
    · obtain ⟨index, e, rfl⟩ := hevent x (List.mem_of_mem_tail hx)
      rfl
    · exact hs.first th hold x hx
  · intro th hth x hx
    rw [hheld]
    rcases of_mem_setAgenda hth with rfl | ⟨-, hold⟩
    · obtain ⟨index, e, rfl⟩ := hevent x hx
      trivial
    · exact hs.fits th hold x hx

/-- A kept request and those that are left when it is taken out. -/
theorem perm_of_kept {place : Nat} {r : Request} (kept : s.kept[place]? = some r) :
    (r :: s.kept.eraseIdx place).Perm s.kept := by
  obtain ⟨hlt, hget⟩ := List.getElem?_eq_some_iff.mp kept
  rw [← hget]
  exact List.getElem_cons_eraseIdx_perm hlt

/-- The socket of a kept request that is finished turns up with a new thread. -/
theorem held_completed {place : Nat} {r : Request} (kept : s.kept[place]? = some r) (isOpen : Bool)
    (pending : ByteArray) :
    ({ s with kept := s.kept.eraseIdx place }.launch
      [.comeBack { r.socket with isOpen, pending }]).held = s.held := by
  have hkept : (↑((s.kept.eraseIdx place).map (·.socket.handle)) + {r.socket.handle} :
      Multiset Handle) = ↑(s.kept.map (·.socket.handle)) := by
    rw [add_comm]
    exact Multiset.coe_eq_coe.mpr ((perm_of_kept kept).map fun r : Request => r.socket.handle)
  simp only [held]
  rw [gather_launch]
  show s.table.handles + ↑((s.kept.eraseIdx place).map (·.socket.handle)) +
    (s.gather Stage.handles + ({r.socket.handle} + 0)) =
    s.table.handles + ↑(s.kept.map (·.socket.handle)) + s.gather Stage.handles
  rw [← hkept]
  abel

theorem Sound.completes (hs : s.Sound) {place : Nat} {r : Request} {isOpen : Bool}
    {pending : ByteArray} (kept : s.kept[place]? = some r) :
    ({ s with kept := s.kept.eraseIdx place }.launch
      [.comeBack { r.socket with isOpen, pending }]).Sound := by
  have hheld := held_completed kept isOpen pending
  have hnumbered : State.Numbered { s with kept := s.kept.eraseIdx place } :=
    ⟨hs.numbered.distinct, hs.numbered.below⟩
  refine ⟨hnumbered.launch, hs.table, hs.owned.change (.passes hheld rfl rfl), ?_, ?_, ?_⟩
  · intro th hth hne x hx
    rcases List.mem_append.mp hth with hold | hnew
    · exact hs.loops th hold hne x hx
    · rw [List.mem_singleton.mp hnew] at hx
      rw [List.mem_singleton.mp hx]
      rfl
  · intro th hth x hx
    rcases List.mem_append.mp hth with hold | hnew
    · exact hs.first th hold x hx
    · rw [List.mem_singleton.mp hnew] at hx
      cases hx
  · intro th hth x hx
    rw [hheld]
    rcases List.mem_append.mp hth with hold | hnew
    · exact hs.fits th hold x hx
    · rw [List.mem_singleton.mp hnew] at hx
      rw [List.mem_singleton.mp hx]
      trivial

/-- A number changes that is no connection's. -/
theorem Sound.elsewhere (hs : s.Sound) {kernel : Kernel} {d : Descriptor} {file : Option File}
    (files : kernel.file? = Function.update s.kernel.file? d file)
    (was : ∀ n, s.kernel.file? d ≠ some (.connection n))
    (is : ∀ n, file ≠ some (.connection n)) : State.Sound { s with kernel } :=
  ⟨⟨hs.numbered.distinct, hs.numbered.below⟩, hs.table,
    hs.owned.change (.elsewhere d file rfl files was is rfl), hs.loops, hs.first, hs.fits⟩

/-- A number that is stolen within the rule is no connection's. -/
theorem file?_of_spares {d : Descriptor} (hrule : s.spares (.steal d) = true) (n : Nat) :
    s.kernel.file? d ≠ some (.connection n) := by
  intro hfile
  simp [spares, hfile] at hrule

/-- **EVERY MOVE THAT SPARES CONNECTIONS KEEPS A SERVER SOUND**. -/
theorem Sound.goes (hs : s.Sound) (hrule : s.spares move = true) (h : s.Goes move s') :
    s'.Sound := by
  cases h with
  | carries here done => exact hs.carries here done
  | receives events idle => exact hs.receives idle
  | completes place r isOpen pending kept => exact hs.completes kept
  | steals d =>
      exact hs.elsewhere Kernel.file?_close (file?_of_spares hrule) fun _ h => nomatch h
  | opens d number free =>
      refine hs.elsewhere Kernel.file?_openFile ?_ (fun _ h => nomatch h)
      intro n hfile
      exact nomatch free.symm.trans hfile

theorem sound_of_run (hrun : (State.new listener).run spares moves = some s) : s.Sound :=
  run_keeps (fun _ _ _ hs hrule h => hs.goes hrule h) (sound_new listener) hrun

end State

end PooledServer.Events
