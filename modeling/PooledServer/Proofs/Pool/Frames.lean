import PooledServer.Proofs.Pool.Steps

/-!
# What steps leave alone

    Workers and submissions move only themselves: they start and end no thread, they do not touch the
    pool's flag, and they never close or open the queue (`State.Frame`).  So the orders of the pool's
    owner are the only steps that change who is there.

    Two invariants hold of every thread's step: numbers are given once (`State.Placed`), and each thread
    has asked the queue for what its place says (`State.Asking`). -/

namespace PooledServer.Pool

open Work (Item Execution Phase Note Fate TaskId)

namespace State

variable {s s' s₁ : State} {t : ThreadId} {said : List (Fate × TaskId)}

/-! ## Frames -/

/-- What the steps of workers and submissions leave alone. -/
structure Frame (s s₁ : State) : Prop where
  threads : s₁.threads = s.threads
  nextThread : s₁.nextThread = s.nextThread
  nextWorker : s₁.nextWorker = s.nextWorker
  running : s₁.running = s.running
  guarded : s₁.guarded = s.guarded
  opened : s₁.monitor.contents.running = s.monitor.contents.running
  workers : ∃ f : Worker → Worker, s₁.workers = s.workers.map f ∧
    ∀ w, (f w).id = w.id ∧ (f w).thread = w.thread ∧ (f w).stop = w.stop

/-- A step that does nothing leaves everything alone. -/
theorem Frame.refl (s : State) : s.Frame s :=
  ⟨rfl, rfl, rfl, rfl, rfl, rfl, id, (List.map_id _).symm, fun _ => ⟨rfl, rfl, rfl⟩⟩

/-- The queue may change in whatever way does not open or close it. -/
theorem frame_monitor {monitor : Queue.Monitor Item}
    (h : monitor.contents.running = s.monitor.contents.running) : s.Frame { s with monitor } :=
  ⟨rfl, rfl, rfl, rfl, rfl, h, id, (List.map_id _).symm, fun _ => ⟨rfl, rfl, rfl⟩⟩

/-- A worker may count and come to life, but not change its number or its orders. -/
theorem frame_updateWorker (s : State) (id : Nat) {f : Worker → Worker}
    (hf : ∀ w, (f w).id = w.id ∧ (f w).thread = w.thread ∧ (f w).stop = w.stop) :
    s.Frame (s.updateWorker id f) := by
  refine ⟨rfl, rfl, rfl, rfl, rfl, rfl, _, rfl, fun w => ?_⟩
  split
  · exact hf w
  · exact ⟨rfl, rfl, rfl⟩

/-- An addition opens or closes nothing. -/
theorem opened_of_add {m m' : Queue.Monitor Item} {item : Item} {answer : Queue.Answer Item}
    (h : m.Answered t (.add item) m' answer) : m'.contents.running = m.contents.running := by
  rcases h.add with ⟨-, -, hc⟩ | ⟨-, -, hc⟩ <;> rw [hc]

/-- Nor does a take. -/
theorem opened_of_take {m m' : Queue.Monitor Item} {answer : Queue.Answer Item}
    (h : m.Answered t (.take true) m' answer) : m'.contents.running = m.contents.running := by
  rcases h.take with ⟨item, -, -, hr, hr'⟩ | ⟨-, -, hc⟩
  · rw [hr, hr']
  · rw [hc]

/-- Nor does a question that is only asked. -/
theorem opened_of_call {m m' : Queue.Monitor Item} {r : Queue.Request Item}
    (h : m.call t r = some m') : m'.contents.running = m.contents.running :=
  congrArg _ (Queue.Monitor.asked_call h).2

/-- An item that is executed adds to the queue at most. -/
theorem Executes.frame {item : Item} {phase phase' : Phase}
    (h : s.Executes t item phase s₁ phase' said) : s.Frame s₁ := by
  cases h with
  | proceeds stepped => exact ⟨rfl, rfl, rfl, rfl, rfl, rfl, (Frame.refl s).workers⟩
  | barred count child rest closed => exact .refl s
  | offers count child rest monitor welcome called => exact frame_monitor (opened_of_call called)
  | accepted count child rest monitor answered => exact frame_monitor (opened_of_add answered)
  | refused count child rest monitor answered => exact frame_monitor (opened_of_add answered)

/-- A worker changes its own record and asks the queue. -/
theorem Works.frame {id : Nat} {p q : WorkerPoint} (h : s.Works t id p s₁ q said) : s.Frame s₁ := by
  cases h with
  | starts | counts | ends => exact frame_updateWorker s id fun _ => ⟨rfl, rfl, rfl⟩
  | comes monitor called => exact frame_monitor (opened_of_call called)
  | waits monitor waited => exact frame_monitor (congrArg _ waited.contents)
  | takes monitor item answered => exact frame_monitor (opened_of_take answered)
  | sentAway monitor answered => exact frame_monitor (opened_of_take answered)
  | executes item step => exact step.frame
  | quits | stamps | returns | escapes | leaves => exact .refl s

/-- A submission asks the queue. -/
theorem Submits.frame {item : Item} {inQueue : Bool} {b : Activity}
    (h : s.Submits t item inQueue s₁ b said) : s.Frame s₁ := by
  cases h with
  | barred closed => exact .refl s
  | comes monitor welcome called => exact frame_monitor (opened_of_call called)
  | accepted monitor answered => exact frame_monitor (opened_of_add answered)
  | refused monitor answered => exact frame_monitor (opened_of_add answered)

/-- Within a frame every thread is where it was. -/
theorem Frame.activity? (h : s.Frame s₁) : s₁.activity? = s.activity? := by
  funext u
  simp only [State.activity?]
  rw [h.threads]

/-- Within a frame numbers stay as they were given. -/
theorem Frame.placed (h : s.Frame s₁) (hs : s.Placed) : s₁.Placed := by
  obtain ⟨f, hworkers, hf⟩ := h.workers
  exact hs.of_eq h.threads h.nextThread h.nextWorker hworkers fun w => ⟨(hf w).1, (hf w).2.1⟩

/-- Within a frame nobody is hired or leaves. -/
theorem Frame.workers_eq_nil_iff (h : s.Frame s₁) : s₁.workers = [] ↔ s.workers = [] := by
  obtain ⟨f, hworkers, -⟩ := h.workers
  rw [hworkers]
  exact List.map_eq_nil_iff

/-! ## Numbers are given once -/

/-- A thread with an order is no worker, -/
theorem Orders.worker? {p : OrderPoint} {b : Activity} (h : s.Orders t p s₁ b) : b.worker? = none := by
  cases h <;> rfl

/-- and neither is one that submits. -/
theorem Submits.worker? {item : Item} {inQueue : Bool} {b : Activity}
    (h : s.Submits t item inQueue s₁ b said) : b.worker? = none := by
  cases h <;> rfl

/-- The pool that an order leaves is in order, and the order's thread is still at its place. -/
theorem Orders.placed {p : OrderPoint} {b : Activity} (h : s.Orders t p s₁ b) (hs : s.Placed)
    (here : s.activity? t = some (.order p)) :
    s₁.Placed ∧ s₁.activity? t = some (.order p) := by
  -- most steps of an order change neither threads nor workers
  have hsame : ∀ {s₂ : State}, s₂.threads = s.threads → s₂.nextThread = s.nextThread →
      s.nextWorker ≤ s₂.nextWorker → s₂.workers = s.workers →
      s₂.Placed ∧ s₂.activity? t = some (.order p) := by
    intro s₂ hthreads hnext hworker hworkers
    have hactivity : s₂.activity? = s.activity? := by
      funext u
      simp only [State.activity?]
      rw [hthreads]
    refine ⟨⟨hthreads ▸ hs.distinct, ?_, hworkers ▸ hs.enrolled, ?_, ?_, ?_⟩, hactivity ▸ here⟩
    · rw [hthreads, hnext]
      exact hs.numbered
    · rw [hworkers]
      exact fun w hw => Nat.lt_of_lt_of_le (hs.recent w hw) hworker
    · rw [hworkers, hactivity]
      exact hs.staffed
    · rw [hworkers, hactivity]
      exact hs.known
  -- hiring adds a worker with its thread, whose number is new
  have hnew : ∀ {s₂ : State}, s₂.threads = s.enlarged.threads →
      s₂.nextThread = s.enlarged.nextThread → s₂.nextWorker = s.enlarged.nextWorker →
      s₂.workers = s.enlarged.workers → s₂.Placed ∧ s₂.activity? t = some (.order p) := by
    intro s₂ hthreads hnext hworker hworkers
    refine ⟨hs.enlarged.of_eq (f := id) hthreads hnext hworker (by rw [hworkers, List.map_id])
      fun _ => ⟨rfl, rfl⟩, ?_⟩
    have hactivity : s₂.activity? t = s.enlarged.activity? t := by
      simp only [State.activity?]
      rw [hthreads]
    exact hactivity.trans (activity?_launch_of_some (s := s) hs here)
  cases h with
  | hires left => exact hnew rfl rfl rfl rfl
  | growsBy left size => exact hnew rfl rfl rfl rfl
  | outgrows left message => exact hnew rfl rfl rfl rfl
  | givesUp => exact hsame rfl rfl (Nat.le_succ _) rfl
  | stunted => exact hsame rfl rfl (Nat.le_succ _) rfl
  | dismisses id left failure =>
      refine ⟨hs.of_eq rfl rfl rfl rfl fun w => ?_, here⟩
      split <;> exact ⟨rfl, rfl⟩
  | joins failure w rest first gone =>
      refine ⟨hs.dropFirst first, ?_⟩
      obtain ⟨q, hq⟩ := hs.staffed w (first ▸ List.mem_cons_self ..)
      -- the thread that is joined is a worker's, so it is not the order's own
      have hne : t ≠ w.thread := by
        rintro rfl
        cases here.symm.trans hq
      rw [activity?_dropFirst, Function.update_of_ne hne]
      exact here
  | _ => exact hsame rfl rfl (Nat.le_refl _) rfl

/-- What an order does to threads: a new worker's thread begins, or one that has ended is joined. -/
theorem Orders.others {p : OrderPoint} {b : Activity} (h : s.Orders t p s₁ b) (hs : s.Placed)
    (u : ThreadId) :
    s₁.activity? u = s.activity? u ∨
    (s.activity? u = none ∧ ∃ id task, s₁.activity? u = some (.worker id (.starting task))) ∨
    (∃ id, s.activity? u = some (.worker id .ended)) ∧ s₁.activity? u = none := by
  have hnew : s.enlarged.activity? u = s.activity? u ∨
      (s.activity? u = none ∧
        ∃ id task, s.enlarged.activity? u = some (.worker id (.starting task))) ∨
      (∃ id, s.activity? u = some (.worker id .ended)) ∧ s.enlarged.activity? u = none := by
    rw [activity?_enlarged hs]
    by_cases hu : u = s.nextThread
    · subst hu
      exact Or.inr (Or.inl ⟨hs.activity?_nextThread, _, _, Function.update_self ..⟩)
    · exact Or.inl (Function.update_of_ne hu ..)
  cases h with
  | hires left => exact hnew
  | growsBy left size => exact hnew
  | outgrows left message => exact hnew
  | joins failure w rest first gone =>
      rw [activity?_dropFirst]
      by_cases hu : u = w.thread
      · subst hu
        obtain ⟨q, hq⟩ := hs.staffed w (first ▸ List.mem_cons_self ..)
        simp only [isOver] at gone
        rw [hq] at gone
        cases q with
        | ended => exact Or.inr (Or.inr ⟨⟨_, hq⟩, Function.update_self ..⟩)
        | _ => exact nomatch gone
      · exact Or.inl (Function.update_of_ne hu ..)
  | _ => exact Or.inl rfl

/-- Every step gives numbers once. -/
theorem Placed.stepped (hs : s.Placed) (h : s.Stepped t s' said) : s'.Placed := by
  cases h with
  | works here step =>
      rw [← step.frame.activity?] at here
      exact (step.frame.placed hs).place here rfl
  | submits here step =>
      have hrole := step.worker?
      rw [← step.frame.activity?] at here
      exact (step.frame.placed hs).place here hrole
  | orders here step =>
      obtain ⟨hs₁, here₁⟩ := step.placed hs here
      exact hs₁.place here₁ step.worker?

/-! ## Threads and their requests -/

/-- A thread that moves has asked for what its new place says. -/
theorem Asking.place {a b : Activity} (hq : s.Asking) (here : s₁.activity? t = some a)
    (hothers : ∀ u, u ≠ t → (s₁.activity? u).bind Activity.asks = (s.activity? u).bind Activity.asks)
    (hasked : s₁.monitor.asked = Function.update s.monitor.asked t b.asks)
    (hsound : s₁.monitor.Sound) : (s₁.place t b).Asking := by
  refine ⟨fun u => ?_, hsound⟩
  show s₁.monitor.asked u = _
  rw [hasked, activity?_place here]
  by_cases hu : u = t
  · subst hu
    rw [Function.update_self, Function.update_self]
    rfl
  · rw [Function.update_of_ne hu, Function.update_of_ne hu, hq.asked, hothers u hu]

/-- A question that stays as it is changes no question. -/
theorem asked_stays {m : Queue.Monitor Item} {r : Option (Queue.Request Item)} (h : m.asked t = r) :
    m.asked = Function.update m.asked t r := by
  rw [← h, Function.update_eq_self]

/-- An item asks for what its phase says, before a step and after it. -/
theorem Executes.asked {item : Item} {phase phase' : Phase}
    (h : s.Executes t item phase s₁ phase' said) (hsound : s.monitor.Sound)
    (hasked : s.monitor.asked t = phaseAsks phase) :
    s₁.monitor.asked = Function.update s.monitor.asked t (phaseAsks phase') ∧ s₁.monitor.Sound := by
  cases h with
  | proceeds stepped => cases stepped <;> exact ⟨asked_stays hasked, hsound⟩
  | barred count child rest closed => exact ⟨asked_stays hasked, hsound⟩
  | offers count child rest monitor welcome called =>
      exact ⟨(Queue.Monitor.asked_call called).1, hsound.call called⟩
  | accepted count child rest monitor answered => exact ⟨answered.asked, answered.sound hsound⟩
  | refused count child rest monitor answered => exact ⟨answered.asked, answered.sound hsound⟩

/-- A worker asks for what its place says, before a step and after it. -/
theorem Works.asked {id : Nat} {p q : WorkerPoint} (h : s.Works t id p s₁ q said)
    (hsound : s.monitor.Sound) (hasked : s.monitor.asked t = p.asks) :
    s₁.monitor.asked = Function.update s.monitor.asked t q.asks ∧ s₁.monitor.Sound := by
  cases h with
  | comes monitor called => exact ⟨(Queue.Monitor.asked_call called).1, hsound.call called⟩
  | waits monitor waited =>
      exact ⟨waited.asked.trans (asked_stays hasked), waited.sound hsound⟩
  | takes monitor item answered => exact ⟨answered.asked, answered.sound hsound⟩
  | sentAway monitor answered => exact ⟨answered.asked, answered.sound hsound⟩
  | executes item step => exact step.asked hsound hasked
  | _ => exact ⟨asked_stays hasked, hsound⟩

/-- A submission asks for what its place says, before a step and after it. -/
theorem Submits.asked {item : Item} {inQueue : Bool} {b : Activity}
    (h : s.Submits t item inQueue s₁ b said) (hsound : s.monitor.Sound)
    (hasked : s.monitor.asked t = (Activity.submission item inQueue).asks) :
    s₁.monitor.asked = Function.update s.monitor.asked t b.asks ∧ s₁.monitor.Sound := by
  cases h with
  | barred closed => exact ⟨asked_stays hasked, hsound⟩
  | comes monitor welcome called =>
      exact ⟨(Queue.Monitor.asked_call called).1, hsound.call called⟩
  | accepted monitor answered => exact ⟨answered.asked, answered.sound hsound⟩
  | refused monitor answered => exact ⟨answered.asked, answered.sound hsound⟩

/-- An order asks for what its place says, before a step and after it. -/
theorem Orders.asked {p : OrderPoint} {b : Activity} (h : s.Orders t p s₁ b)
    (hsound : s.monitor.Sound) (hasked : s.monitor.asked t = p.asks) :
    s₁.monitor.asked = Function.update s.monitor.asked t b.asks ∧ s₁.monitor.Sound := by
  cases h with
  | inquires monitor closed called =>
      exact ⟨(Queue.Monitor.asked_call called).1, hsound.call called⟩
  | measures stop monitor due called =>
      exact ⟨(Queue.Monitor.asked_call called).1, hsound.call called⟩
  | drains stop monitor due called =>
      exact ⟨(Queue.Monitor.asked_call called).1, hsound.call called⟩
  | givesUp left failure monitor called =>
      exact ⟨(Queue.Monitor.asked_call called).1, hsound.call called⟩
  | mayStart monitor answered => exact ⟨answered.asked, answered.sound hsound⟩
  | mayNot monitor answered => exact ⟨answered.asked, answered.sound hsound⟩
  | closes failure monitor answer answered => exact ⟨answered.asked, answered.sound hsound⟩
  | waits monitor waited =>
      exact ⟨waited.asked.trans (asked_stays hasked), waited.sound hsound⟩
  | measured between monitor count answered called =>
      refine ⟨?_, (answered.sound hsound).call called⟩
      rw [(Queue.Monitor.asked_call called).1, answered.asked, Function.update_idem]
      rfl
  | drained between monitor answer answered called =>
      refine ⟨?_, (answered.sound hsound).call called⟩
      rw [(Queue.Monitor.asked_call called).1, answered.asked, Function.update_idem]
      rfl
  | _ => exact ⟨asked_stays hasked, hsound⟩

/-- An order changes nobody else's question: threads that begin or end ask for nothing. -/
theorem Orders.asks_others {p : OrderPoint} {b : Activity} (h : s.Orders t p s₁ b) (hs : s.Placed)
    (u : ThreadId) : (s₁.activity? u).bind Activity.asks = (s.activity? u).bind Activity.asks := by
  rcases h.others hs u with hu | ⟨hu, id, task, hu₁⟩ | ⟨⟨id, hu⟩, hu₁⟩
  · rw [hu]
  · rw [hu, hu₁]
    rfl
  · rw [hu, hu₁]
    rfl

/-- Every step keeps what threads have asked for in line with their places. -/
theorem Asking.stepped (hs : s.Placed) (hq : s.Asking) (h : s.Stepped t s' said) : s'.Asking := by
  have hasked : ∀ {a : Activity}, s.activity? t = some a → s.monitor.asked t = a.asks := by
    intro a here
    rw [hq.asked, here]
    rfl
  cases h with
  | works here step =>
      have hframe := step.frame
      obtain ⟨hstep, hsound⟩ := step.asked hq.sound (hasked here)
      exact hq.place (hframe.activity? ▸ here) (fun u _ => by rw [hframe.activity?]) hstep hsound
  | submits here step =>
      have hframe := step.frame
      obtain ⟨hstep, hsound⟩ := step.asked hq.sound (hasked here)
      exact hq.place (hframe.activity? ▸ here) (fun u _ => by rw [hframe.activity?]) hstep hsound
  | orders here step =>
      obtain ⟨hstep, hsound⟩ := step.asked hq.sound (hasked here)
      exact hq.place (step.placed hs here).2 (fun u _ => step.asks_others hs u) hstep hsound

end State

end PooledServer.Pool
