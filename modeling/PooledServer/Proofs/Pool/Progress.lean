import PooledServer.Proofs.Pool.Runs

/-!
# Somebody can go on

    While an order is being carried out and no task stands at a closed gate, some thread has a step: the
    order's own, or that of a worker whose progress the order waits for.  Two kinds of waiting need an
    argument.  A stop that waits for the queue to drain leaves items in it, and either a worker is on
    its way to them or all workers would have to wait at a queue with items, which the queue never
    lets happen.  An execution that waits for a shared task waits for a worker who is inside it. -/

namespace PooledServer.Pool

open Work (Item Execution Phase Note Fate TaskId)

/-- A thread that carries out an order may have to wait here. -/
def OrderPoint.mayWait : OrderPoint → Bool
  | .draining | .joining _ => true
  | .begun _ | .asking | .hiring _ | .growing _ | .measuring | .closing _ | .dismissing .. => false

namespace State

/-- The luck of thread `t` when every primitive works. -/
def goodLuck (s : State) (t : ThreadId) : Luck := { toLuck := s.monitor.goodLuck t }

/-- Thread `t` can take a step if every primitive works. -/
def CanGo (s : State) (t : ThreadId) : Prop := (s.step t (s.goodLuck t)).isSome

/-- No task stands at a closed gate. -/
def Unblocked (s : State) : Prop :=
  ∀ t id e, s.activity? t = some (.worker id (.executing e)) → ¬ e.IsBlocked s.registry

variable {s : State} {t : ThreadId} {notes : List Note}

theorem Asking.asked_eq (h : s.Asking) {a : Activity} (here : s.activity? t = some a) :
    s.monitor.asked t = a.asks := by
  rw [h.asked, here]
  rfl

/-! ## At the queue -/

theorem ask_isSome {r : Queue.Request Item} {a : Activity} (h : s.monitor.asked t = none) :
    (s.ask t r a).isSome := by
  simp only [ask]
  rw [Queue.Monitor.call_eq_some h]
  rfl

/-- A thread inside the queue that does not wait has its turn. -/
theorem turn_isSome (h : s.Asking) {c : Queue.Caller Item} (hc : s.monitor.caller? t = some c)
    (hs : ∀ q, c.stage ≠ .waiting q) : (s.turn t (s.goodLuck t)).isSome := by
  simp only [turn]
  rw [Option.isSome_map]
  exact Queue.Monitor.step_isSome h.sound.free hc hs

/-- Who asks for something that needs no waiting, or asks at a closed queue, has its turn. -/
theorem turn_isSome_of_asked (h : s.Asking) {r : Queue.Request Item}
    (hasked : s.monitor.asked t = some r)
    (hr : r.awaits = none ∨ s.monitor.contents.running = false) :
    (s.turn t (s.goodLuck t)).isSome := by
  obtain ⟨c, hc, rfl⟩ := Option.map_eq_some_iff.mp hasked
  refine turn_isSome h hc fun q hq => ?_
  -- whoever waits has asked for something to wait for, at an open queue
  obtain ⟨hmem, -⟩ := Queue.Monitor.mem_of_caller? hc
  rcases hr with hnone | hclosed
  · exact nomatch hnone.symm.trans (h.sound.attentive.placed c hmem q hq)
  · exact nomatch hclosed.symm.trans (h.sound.attentive.atOpen c hmem q hq)

/-- A thread that has its turn at the queue has a step. -/
theorem Asking.canGo_of_turn (h : s.Asking) {a : Activity} (here : s.activity? t = some a)
    (hhosted : ∀ e, a ≠ .execution e) (hturn : (s.turn t (s.goodLuck t)).isSome) : s.CanGo t := by
  have hasked := h.asked_eq here
  -- where nothing is asked there is no turn
  have hno : a.asks ≠ none := by
    intro hnone
    rw [turn_eq_none rfl rfl (hasked.trans hnone)] at hturn
    cases hturn
  simp only [CanGo, step]
  rw [here]
  cases a with
  | worker id p =>
      cases p with
      | taking => exact Option.isSome_map.trans hturn
      | executing e =>
          obtain ⟨item, phase⟩ := e
          cases phase with
          | offering count child inQueue rest =>
              cases inQueue with
              | true => exact Option.isSome_map.trans hturn
              | false => exact absurd rfl hno
          | _ => exact absurd rfl hno
      | _ => exact absurd rfl hno
  | request => exact absurd rfl hno
  | submission item inQueue =>
      cases inQueue with
      | true => exact Option.isSome_map.trans hturn
      | false => exact absurd rfl hno
  | execution e => exact absurd rfl (hhosted e)
  | finished result => exact absurd rfl hno
  | order p =>
      obtain ⟨⟨s₁, answer, notes₁⟩, hsome⟩ := Option.isSome_iff_exists.mp hturn
      obtain ⟨r, monitor, rfl, hcases⟩ := turn_cases rfl rfl hsome
      -- a measurement or a drain that is answered goes on with the next request
      have hafter : ∀ {r' : Queue.Request Item} {b : Activity} {ans}, answer = some ans →
          (State.ask { s with monitor } t r' b).isSome := by
        rintro r' b ans rfl
        rcases hcases with ⟨-, hnone, -⟩ | ⟨ans', hanswered, -⟩
        · cases hnone
        · refine ask_isSome ?_
          show monitor.asked t = none
          rw [hanswered.asked, Function.update_self]
      cases p with
      | asking => exact Option.isSome_map.trans hturn
      | closing failure => exact Option.isSome_map.trans hturn
      | measuring =>
          simp only [orderStep, hsome, Option.bind_some]
          cases answer with
          | none => rfl
          | some ans => exact Option.isSome_map.trans (hafter rfl)
      | draining =>
          simp only [orderStep, hsome, Option.bind_some]
          cases answer with
          | none => rfl
          | some ans => exact Option.isSome_map.trans (hafter rfl)
      | _ => exact absurd rfl hno

/-- In a run nobody executes anything outside a worker. -/
theorem canGo_of_turn (h : s.Sane notes) {a : Activity} (here : s.activity? t = some a)
    (hturn : (s.turn t (s.goodLuck t)).isSome) : s.CanGo t :=
  h.asking.canGo_of_turn here (fun e he => h.calm.threads t (.execution e) (he ▸ here)) hturn

/-! ## Workers -/

/-- A worker inside a task that is not blocked goes on. -/
theorem canGo_of_inside (h : s.Sane notes) (hfree : s.Unblocked) {id : Nat} {e : Execution}
    (here : s.activity? t = some (.worker id (.executing e))) (hin : e.phase.isInside = true) :
    s.CanGo t := by
  obtain ⟨hitem, -⟩ := h.calm.threads t _ here
  have hblocked := hfree t id e here
  have hasked := h.asking.asked_eq here
  obtain ⟨item, phase⟩ := e
  cases phase with
  | acting count rest =>
      have hstep : (Execution.step s.registry ⟨item, .acting count rest⟩).isSome = true :=
        Execution.step_isSome hitem (fun _ h => by cases h) (fun _ _ _ _ h => by cases h) hblocked
          (fun hawaits => by cases hawaits.1)
      simp only [CanGo, step]
      rw [here]
      exact Option.isSome_map.trans hstep
  | offering count child inQueue rest =>
      -- an addition never waits, and before it comes to the queue only the pool's flag is read
      cases inQueue with
      | true => exact canGo_of_turn h here (turn_isSome_of_asked h.asking hasked (Or.inl rfl))
      | false =>
          simp only [CanGo, step]
          rw [here]
          simp only [workerStep, executionStep]
          split
          · rfl
          · exact Option.isSome_map.trans (ask_isSome hasked)
  | _ => cases hin

/-- A worker that executes goes on, or the worker whose shared task it waits for does. -/
theorem exists_canGo_of_executing (h : s.Sane notes) (hfree : s.Unblocked) {id : Nat} {e : Execution}
    (here : s.activity? t = some (.worker id (.executing e))) : ∃ u, s.CanGo u := by
  by_cases hin : e.phase.isInside = true
  · exact ⟨t, canGo_of_inside h hfree here hin⟩
  · by_cases hawaits : e.AwaitsTask s.registry
    -- the shared task is in use: the thread that is inside it has a step
    · obtain ⟨-, task, htask, hbusy, -⟩ := hawaits
      obtain ⟨u, a, hu, id', e', rfl, hinside⟩ := h.calm.busy task htask hbusy
      exact ⟨u, canGo_of_inside h hfree hu hinside.2.2⟩
    · refine ⟨t, ?_⟩
      obtain ⟨hitem, -⟩ := h.calm.threads t _ here
      have hblocked := hfree t id e here
      simp only [CanGo, step]
      rw [here]
      obtain ⟨item, phase⟩ := e
      cases phase with
      | concluded ended => rfl
      | acting count rest => exact absurd rfl hin
      | offering count child inQueue rest => exact absurd rfl hin
      | ready =>
          have hstep : (Execution.step s.registry ⟨item, .ready⟩).isSome = true :=
            Execution.step_isSome hitem (fun _ h => by cases h) (fun _ _ _ _ h => by cases h) hblocked
              hawaits
          exact Option.isSome_map.trans hstep
      | ran outcome => rfl
      | hooked outcome => rfl

/-- A worker that has not ended goes on, or another one does, unless it waits for an item. -/
theorem exists_canGo_of_worker (h : s.Sane notes) (hfree : s.Unblocked) {id : Nat} {p : WorkerPoint}
    (here : s.activity? t = some (.worker id p)) (hended : p ≠ .ended)
    (htaking : p = .taking → ∃ u, s.CanGo u) : ∃ u, s.CanGo u := by
  have hgo : ∀ {result : State × List Note}, s.step t (s.goodLuck t) = some result →
      ∃ u, s.CanGo u := by
    intro result hresult
    refine ⟨t, ?_⟩
    simp only [CanGo]
    rw [hresult]
    rfl
  have hstep : s.step t (s.goodLuck t) = s.workerStep t (s.goodLuck t) id p := by
    simp only [step]
    rw [here]
  cases p with
  | starting task => exact hgo hstep
  | checking =>
      refine ⟨t, ?_⟩
      simp only [CanGo]
      rw [hstep]
      simp only [workerStep]
      split
      · rfl
      · exact Option.isSome_map.trans (ask_isSome (h.asking.asked_eq here))
  | taking => exact htaking rfl
  | holding item => exact hgo hstep
  | executing e => exact exists_canGo_of_executing h hfree here
  | counting task => exact hgo hstep
  | leaving => exact hgo hstep
  | ending escaped => exact hgo hstep
  | ended => exact absurd rfl hended

/-- At a closed queue every worker that has not ended goes on. -/
theorem exists_canGo_of_closed (h : s.Sane notes) (hfree : s.Unblocked)
    (hclosed : s.monitor.contents.running = false) {id : Nat} {p : WorkerPoint}
    (here : s.activity? t = some (.worker id p)) (hended : p ≠ .ended) : ∃ u, s.CanGo u := by
  refine exists_canGo_of_worker h hfree here hended ?_
  rintro rfl
  exact ⟨t, canGo_of_turn h here
    (turn_isSome_of_asked h.asking (h.asking.asked_eq here) (Or.inr hclosed))⟩

/-- At a running queue with items some worker goes on. -/
theorem exists_canGo_of_items (h : s.Sane notes) (hfree : s.Unblocked)
    (hopen : s.monitor.contents.running = true) (hitems : s.monitor.contents.items ≠ [])
    (hworkers : s.workers ≠ []) : ∃ u, s.CanGo u := by
  obtain ⟨w, hw⟩ := List.exists_mem_of_ne_nil _ hworkers
  obtain ⟨p, here⟩ := h.placed.staffed w hw
  refine exists_canGo_of_worker h hfree here ?_ ?_
  · rintro rfl
    cases (h.orderly.out _ _ _ here rfl).symm.trans hopen
  · rintro rfl
    obtain ⟨c, hc, hrequest⟩ := Option.map_eq_some_iff.mp (h.asking.asked_eq here)
    obtain ⟨hmem, -⟩ := Queue.Monitor.mem_of_caller? hc
    have hattentive := h.asking.sound.attentive
    by_cases hwaits : ∃ q, c.stage = .waiting q
    · -- the worker waits for an item, so a taker that was signalled is on its way
      obtain ⟨q, hq⟩ := hwaits
      have hplaced := hattentive.placed c hmem q hq
      rw [hrequest] at hplaced
      obtain rfl : Queue.Condition.notEmpty = q := Option.some.inj hplaced
      obtain ⟨d, hd, htake, hstage⟩ := hattentive.served hitems c hmem hq
      have hcaller : s.monitor.caller? d.thread = some d := hattentive.caller?_of_mem hd
      have hasked : s.monitor.asked d.thread = some (.take true) := by
        simp only [Queue.Monitor.asked]
        rw [hcaller, ← htake]
        rfl
      obtain ⟨a, ha, -⟩ := Option.bind_eq_some_iff.mp ((h.asking.asked d.thread).symm.trans hasked)
      refine ⟨d.thread, canGo_of_turn h ha (turn_isSome h.asking hcaller fun q hq => ?_)⟩
      cases hstage.symm.trans hq
    · exact ⟨w.thread, canGo_of_turn h here
        (turn_isSome h.asking hc fun q hq => hwaits ⟨q, hq⟩)⟩

/-! ## Orders -/

theorem orderStep_isSome_of_begun {order : Order} {luck : Luck} (hasked : s.monitor.asked t = none) :
    (s.orderStep t luck (.begun order)).isSome := by
  cases order with
  | start =>
      simp only [orderStep]
      split
      · rfl
      · exact Option.isSome_map.trans (ask_isSome hasked)
  | grow count =>
      simp only [orderStep]
      split
      · rfl
      · split <;> rfl
  | stop measures =>
      simp only [orderStep]
      split
      · rfl
      · split
        · exact Option.isSome_map.trans (ask_isSome (s := { s with running := false }) hasked)
        · exact Option.isSome_map.trans (ask_isSome (s := { s with running := false }) hasked)

/-- An order that waits for nobody goes on. -/
theorem Asking.canGo_of_order (h : s.Asking) {p : OrderPoint}
    (here : s.activity? t = some (.order p)) (hp : p.mayWait = false) : s.CanGo t := by
  have hasked : s.monitor.asked t = p.asks := h.asked_eq here
  have hgo : (s.orderStep t (s.goodLuck t) p).isSome → s.CanGo t := by
    intro hsome
    simp only [CanGo, step]
    rw [here]
    exact hsome
  -- what it asks of the queue is answered at once
  have hturn : ∀ {r : Queue.Request Item}, p.asks = some r → r.awaits = none → s.CanGo t :=
    fun hr hawaits => h.canGo_of_turn here (fun _ heq => by cases heq)
      (turn_isSome_of_asked h (hasked.trans hr) (Or.inl hawaits))
  cases p with
  | begun order => exact hgo (orderStep_isSome_of_begun hasked)
  | asking => exact hturn rfl rfl
  | hiring left =>
      refine hgo ?_
      cases left with
      | zero => rfl
      | succ left => rfl
  | growing left =>
      refine hgo ?_
      cases left with
      | zero => rfl
      | succ left =>
          simp only [orderStep]
          rcases s.hire_cases (s.goodLuck t) with ⟨notes, hhire, -⟩ | ⟨notes, e, hhire, -⟩
          · rw [hhire]
            simp only
            split <;> rfl
          · rw [hhire]
            rfl
  | measuring => exact hturn rfl rfl
  | closing failure => exact hturn rfl rfl
  | dismissing left failure =>
      refine hgo ?_
      cases left with
      | nil => rfl
      | cons id left => rfl
  | draining | joining => cases hp

/-- Who joins goes on once the thread of the first worker has ended. -/
theorem canGo_of_joining {failure : Option PoolError}
    (here : s.activity? t = some (.order (.joining failure)))
    (hover : ∀ w rest, s.workers = w :: rest → s.isOver w.thread = true) : s.CanGo t := by
  simp only [CanGo, step]
  rw [here]
  cases hw : s.workers with
  | nil =>
      simp only [orderStep, hw]
      rfl
  | cons w rest =>
      simp only [orderStep, hw]
      rw [if_pos (hover w rest hw)]
      rfl

theorem isOver_of_ended {id : Nat} (h : s.activity? t = some (.worker id .ended)) :
    s.isOver t = true := by
  simp only [isOver]
  rw [h]

/-- A stop that waits for the queue to drain waits at a running queue with items. -/
theorem exists_canGo_of_draining (h : s.Sane notes) (hfree : s.Unblocked)
    (here : s.activity? t = some (.order .draining)) (hworkers : s.workers ≠ []) :
    ∃ u, s.CanGo u := by
  have hasked : s.monitor.asked t = some .shutDownWhenDrained := h.asking.asked_eq here
  obtain ⟨c, hc, hrequest⟩ := Option.map_eq_some_iff.mp hasked
  obtain ⟨hmem, -⟩ := Queue.Monitor.mem_of_caller? hc
  have hattentive := h.asking.sound.attentive
  by_cases hwaits : ∃ q, c.stage = .waiting q
  -- whoever waits for the drain does so because of items that are left
  · obtain ⟨q, hq⟩ := hwaits
    have hplaced := hattentive.placed c hmem q hq
    rw [hrequest] at hplaced
    obtain rfl : Queue.Condition.drained = q := Option.some.inj hplaced
    exact exists_canGo_of_items h hfree (h.orderly.fits t _ here).2
      (hattentive.atItems c hmem hq) hworkers
  · exact ⟨t, canGo_of_turn h here (turn_isSome h.asking hc fun q hq => hwaits ⟨q, hq⟩)⟩

/-- **NO DEADLOCK**: while an order is being carried out and no task is blocked, some thread has a step.
    A stop that drains the queue needs a worker for that. -/
theorem exists_canGo_of_order (h : s.Sane notes) (hfree : s.Unblocked) {p : OrderPoint}
    (here : s.activity? t = some (.order p)) (hworkers : p = .draining → s.workers ≠ []) :
    ∃ u, s.CanGo u := by
  cases hp : p.mayWait with
  | false => exact ⟨t, h.asking.canGo_of_order here hp⟩
  | true =>
      cases p with
      | draining => exact exists_canGo_of_draining h hfree here (hworkers rfl)
      | joining failure =>
          by_cases hover : ∀ w rest, s.workers = w :: rest → s.isOver w.thread = true
          · exact ⟨t, canGo_of_joining here hover⟩
          · -- the first worker has not ended, so it goes on: the queue is closed by now
            simp only [not_forall] at hover
            obtain ⟨w, rest, hw, hover⟩ := hover
            obtain ⟨q, hq⟩ := h.placed.staffed w (hw ▸ List.mem_cons_self ..)
            refine exists_canGo_of_closed h hfree (h.orderly.fits t _ here).2.1 hq ?_
            rintro rfl
            exact hover (isOver_of_ended hq)
      | _ => cases hp

end State

end PooledServer.Pool
