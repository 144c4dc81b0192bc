import PooledServer.Proofs.Pool.Rounds
import PooledServer.Proofs.Pool.Survival

/-!
# One worker and all that goes on around it

    A worker's loop runs on a thread of its own while other threads add to its queue, take from it, shut
    it down or ask the worker to stop.  None of them touches what is the worker's: its place, its count,
    and what it has asked the queue for (`State.Follows`).  So whatever they do, the worker's own steps
    are those of its loop, and they make up whole rounds.

    The stop flag is read only between two rounds.  A worker that is asked to stop while it is inside a
    take may get one more item; anywhere else it gets none, because it has to come by the flag first. -/

namespace PooledServer.Pool

open Work (Item Note Execution Phase TaskId)

/-- The thread is neither a worker's nor that of an order. -/
def Activity.isClient : Activity → Bool
  | .request | .submission .. | .execution _ | .finished _ => true
  | .worker .. | .order _ => false

/-! ## What can happen -/

/-- What can happen around a worker. -/
inductive Happening where
  | move (move : Move)
  /-- Worker `id` is asked to stop. -/
  | dismiss (id : Nat)

namespace Happening

/-- The primitives work, and the pool's owner gives no orders. -/
def isSmooth : Happening → Bool
  | .move (.step _ luck) => luck.lock && luck.wait
  | .move (.order _) => false
  | .move _ | .dismiss _ => true

/-- The step is thread `t`'s own. -/
def isStepOf (t : ThreadId) : Happening → Bool
  | .move (.step u _) => decide (u = t)
  | .move _ | .dismiss _ => false

end Happening

namespace State

/-- One thing that happens, and what it leaves behind. -/
def happen (s : State) : Happening → Option (State × List Note)
  | .move move => s.move move
  | .dismiss id => some (s.updateWorker id fun w => { w with stop := true }, [])

/-- One thing after the other happens: what thread `t` itself has left behind, without the log. -/
def watch (s : State) (t : ThreadId) : List Happening → Option (State × List Note)
  | [] => some (s, [])
  | happening :: rest =>
    if happening.isSmooth then
      (s.happen happening).bind fun (s, notes) =>
        (s.watch t rest).map fun (last, later) =>
          (last, (if happening.isStepOf t then Note.deeds notes else []) ++ later)
    else none

/-- The number of items that worker `id` has counted. -/
def executedBy (s : State) (id : Nat) : Nat := ((s.worker? id).map (·.executed)).getD 0

/-- Worker `id` has been asked to stop. -/
def isDismissed (s : State) (id : Nat) : Bool := (s.worker? id).any (·.stop)

variable {s s' s₁ : State} {t u : ThreadId} {id : Nat} {p q : WorkerPoint} {luck : Luck}
  {notes : List Note}

theorem worker?_updateWorker (s : State) (id : Nat) {f : Worker → Worker} (hf : ∀ w, (f w).id = w.id)
    (v : Nat) :
    (s.updateWorker id f).worker? v = (s.worker? v).map fun w => if w.id = id then f w else w :=
  Keyed.find?_map (f := Worker.id) (l := s.workers) (Keyed.key_map_at hf) v

/-- The worker that is changed is the one with the number. -/
theorem worker?_updateWorker_self (s : State) (id : Nat) {f : Worker → Worker}
    (hf : ∀ w, (f w).id = w.id) : (s.updateWorker id f).worker? id = (s.worker? id).map f := by
  rw [worker?_updateWorker s id hf]
  cases h : s.worker? id with
  | none => rfl
  | some w =>
      have hid : w.id = id := (Keyed.mem_of_find? (f := Worker.id) h).2
      simp only [Option.map_some, hid, if_true]

/-! ## What a worker has for itself -/

/-- Worker `id` is at `p` on thread `t`, and all other threads are clients. -/
structure Engages (s : State) (t : ThreadId) (id : Nat) (p : WorkerPoint) : Prop where
  numbered : ∀ th ∈ s.threads, th.id < s.nextThread
  enrolled : (s.worker? id).isSome = true
  here : s.activity? t = some (.worker id p)
  clients : ∀ u a, u ≠ t → s.activity? u = some a → a.isClient = true
  sound : s.monitor.Sound
  asked : s.monitor.asked t = p.asks

/-- A worker that begins among clients. -/
theorem engages_launch (hnumbered : ∀ th ∈ s.threads, th.id < s.nextThread)
    (henrolled : (s.worker? id).isSome = true)
    (hclients : ∀ u a, s.activity? u = some a → a.isClient = true) (hsound : s.monitor.Sound)
    (hasked : s.monitor.asked s.nextThread = none) (task : TaskId) :
    (s.launch (.worker id (.starting task))).Engages s.nextThread id (.starting task) := by
  have hactivity := activity?_launch_of_free (a := .worker id (.starting task))
    (activity?_nextThread hnumbered)
  refine ⟨numbered_launch hnumbered, henrolled, ?_, ?_, hsound, hasked⟩
  · rw [hactivity, Function.update_self]
  · intro u a hu ha
    rw [hactivity, Function.update_of_ne hu] at ha
    exact hclients u a ha

/-- A step of worker `id` from `p` to `q`, with the pool before and after. -/
structure Goes (s : State) (id : Nat) (p : WorkerPoint) (s' : State) (q : WorkerPoint)
    (deeds : List Note) : Prop where
  acts : p.Acts id deeds q
  executed : s'.executedBy id = s.executedBy id + p.countsNow.toNat
  dismissed : s'.isDismissed id = s.isDismissed id
  closed : s.monitor.contents.running = false → s'.monitor.contents.running = false
  passes : p = .checking → q = .taking → s.isDismissed id = false
  served : p = .taking →
    q = .taking ∨ (∃ item, q = .holding item ∧ s.monitor.contents.running = true) ∨
      q = .leaving ∧ s.monitor.contents.running = false

/-- What happens while worker `id` is at `p`: it is the worker's step to `q`, or none of its business. -/
structure Follows (s : State) (t : ThreadId) (id : Nat) (p : WorkerPoint) (s' : State)
    (q : WorkerPoint) (deeds : List Note) : Prop where
  engages : s'.Engages t id q
  dismissed : s.isDismissed id = true → s'.isDismissed id = true
  closed : s.monitor.contents.running = false → s'.monitor.contents.running = false
  own : (q = p ∧ deeds = [] ∧ s'.executedBy id = s.executedBy id) ∨ s.Goes id p s' q deeds

/-! ## The worker's own steps -/

/-- A step that changes no worker, and none of those that read the flag or the queue. -/
theorem Goes.of_workers {deeds : List Note} (hacts : p.Acts id deeds q)
    (hworkers : s'.workers = s.workers) (hcounts : p.countsNow = false)
    (hclosed : s.monitor.contents.running = false → s'.monitor.contents.running = false)
    (hpasses : p = .checking → q = .taking → s.isDismissed id = false)
    (hserved : p = .taking →
      q = .taking ∨ (∃ item, q = .holding item ∧ s.monitor.contents.running = true) ∨
        q = .leaving ∧ s.monitor.contents.running = false) :
    s.Goes id p s' q deeds := by
  refine ⟨hacts, ?_, ?_, hclosed, hpasses, hserved⟩
  · simp only [executedBy, worker?]
    rw [hworkers, hcounts]
    rfl
  · simp only [isDismissed, worker?]
    rw [hworkers]

/-- A step that changes the worker's own record, but not whether it is asked to stop. -/
theorem Goes.of_update {f : Worker → Worker} {deeds : List Note} (h : (s.worker? id).isSome = true)
    (hacts : p.Acts id deeds q) (hf : ∀ w, (f w).id = w.id ∧ (f w).stop = w.stop ∧
      (f w).executed = w.executed + p.countsNow.toNat)
    (hapart : p.isApart = true) :
    s.Goes id p ((s.updateWorker id f).place t (.worker id q)) q deeds := by
  obtain ⟨w, hw⟩ := Option.isSome_iff_exists.mp h
  have hself : ((s.updateWorker id f).place t (.worker id q)).worker? id = some (f w) := by
    refine (worker?_updateWorker_self s id fun w => (hf w).1).trans ?_
    rw [hw]
    rfl
  obtain ⟨hchecking, htaking⟩ := WorkerPoint.ne_of_isApart hapart
  refine ⟨hacts, ?_, ?_, fun hclosed => hclosed, fun hp => absurd hp hchecking,
    fun hp => absurd hp htaking⟩
  · simp only [executedBy]
    rw [hself, hw]
    exact (hf w).2.2
  · simp only [isDismissed]
    rw [hself, hw]
    exact (hf w).2.1

/-- The worker moves to another place. -/
theorem Engages.place (h : s.Engages t id p) (hthreads : s₁.threads = s.threads)
    (hnext : s₁.nextThread = s.nextThread) (henrolled : (s₁.worker? id).isSome = true)
    (hsound : s₁.monitor.Sound) (hasked : s₁.monitor.asked t = q.asks) :
    (s₁.place t (.worker id q)).Engages t id q := by
  have hactivity : s₁.activity? = s.activity? := by
    funext v
    simp only [activity?]
    rw [hthreads]
  have hplace : (s₁.place t (.worker id q)).activity? =
      Function.update s.activity? t (some (.worker id q)) := by
    rw [activity?_place (hactivity ▸ h.here), hactivity]
  have hnumbered : ∀ th ∈ s₁.threads, th.id < s₁.nextThread := by
    rw [hthreads, hnext]
    exact h.numbered
  refine ⟨numbered_place hnumbered, henrolled, ?_, ?_, hsound, hasked⟩
  · rw [hplace, Function.update_self]
  · intro v a hv ha
    rw [hplace, Function.update_of_ne hv] at ha
    exact h.clients v a hv ha

/-- The execution itself goes on: all its phases but `offering` are left to it. -/
theorem acts_of_execution {item : Item} {phase : Phase} {here : Execution → Activity}
    (hasked : s.monitor.asked t = none)
    (h : (Execution.step s.registry ⟨item, phase⟩).map (fun r =>
      ({ s with registry := r.1 }.place t (here r.2.1), r.2.2)) = some (s', notes)) :
    ∃ count phase' monitor registry,
      s' = { s with monitor, registry }.place t (here ⟨item, phase'⟩) ∧
      item.Acts (fun _ => []) count phase (Note.deeds notes) phase' ∧
      s.monitor.Touched t monitor ∧ monitor.asked t = phaseAsks phase' := by
  obtain ⟨⟨registry, e', notes'⟩, hstep, heq⟩ := Option.map_eq_some_iff.mp h
  obtain ⟨rfl, rfl⟩ := Prod.mk.inj heq
  obtain ⟨phase', rfl, hstepped⟩ := Execution.stepped hstep
  obtain ⟨count, phase'', hsame, hacts⟩ := Execution.acts (fun _ => []) hstep
  obtain ⟨-, rfl⟩ := Execution.mk.inj hsame
  have hsilent : phase.hookNotes (fun _ => []) = [] := by cases phase <;> rfl
  rw [hsilent, List.nil_append] at hacts
  refine ⟨count, phase', s.monitor, registry, rfl, ?_, .refl t _, ?_⟩
  · rw [hacts.deeds]
    exact hacts
  · rw [hasked]
    generalize Note.fates notes' = said at hstepped
    cases hstepped <;> rfl

/-- A step inside an execution, as the queue and the shared tasks see it and as the item goes on. -/
theorem acts_of_executionStep (hlock : luck.lock = true) (hwait : luck.wait = true) {e : Execution}
    (hasked : s.monitor.asked t = phaseAsks e.phase) {here : Execution → Activity}
    (h : s.executionStep t luck e here = some (s', notes)) :
    ∃ count phase monitor registry, s' = { s with monitor, registry }.place t (here { e with phase }) ∧
      e.item.Acts (fun _ => []) count e.phase (Note.deeds notes) phase ∧
      s.monitor.Touched t monitor ∧ monitor.asked t = phaseAsks phase := by
  obtain ⟨item, phase⟩ := e
  cases phase with
  | offering count child inQueue rest =>
      cases inQueue with
      | false =>
          simp only [executionStep] at h
          split at h
          · cases h
            have hhears : item.Acts (fun _ => []) count _ _ (.acting count rest) :=
              .hears child false rest false
            exact ⟨count, .acting count rest, s.monitor, s.registry, rfl, hhears.deeds ▸ hhears,
              .refl t _, hasked⟩
          · obtain ⟨s₁, hask, heq⟩ := Option.map_eq_some_iff.mp h
            obtain ⟨rfl, rfl⟩ := Prod.mk.inj heq
            obtain ⟨monitor, hcall, rfl⟩ := ask_cases hask
            refine ⟨count, .offering count child true rest, monitor, s.registry, rfl,
              .asks child rest, Queue.Monitor.touched_of_call hcall, ?_⟩
            rw [(Queue.Monitor.asked_call hcall).1, Function.update_self]
            rfl
      | true =>
          obtain ⟨⟨s₁, answer, notes₁⟩, hturn, heq⟩ := Option.map_eq_some_iff.mp h
          obtain ⟨r, monitor, rfl, hcases⟩ := turn_deeds hlock hwait hturn
          rcases hcases with ⟨hwaited, -, -⟩ | ⟨a, hanswered, rfl, hnotes⟩
          · obtain rfl := Option.some.inj (hwaited.asked_self.symm.trans hasked)
            obtain ⟨c, hc⟩ := hwaited.reason
            cases hc
          · obtain rfl := Option.some.inj (hanswered.asked_self.symm.trans hasked)
            have hasks : monitor.asked t = none := by rw [hanswered.asked, Function.update_self]
            have hhears (accepted : Bool) :
                item.Acts (fun _ => []) count _ (child.answered accepted) (.acting count rest) :=
              .hears child true rest accepted
            rcases hanswered.add with ⟨rfl, -⟩ | ⟨rfl, -⟩
            · obtain ⟨rfl, rfl⟩ := Prod.mk.inj heq
              refine ⟨count, .acting count rest, monitor, s.registry, rfl, ?_, hanswered.touched,
                hasks⟩
              rw [Note.deeds_append, hnotes]
              exact hhears true
            · obtain ⟨rfl, rfl⟩ := Prod.mk.inj heq
              refine ⟨count, .acting count rest, monitor, s.registry, rfl, ?_, hanswered.touched,
                hasks⟩
              rw [Note.deeds_append, hnotes]
              show item.Acts _ count _ (Note.deeds (child.answered false)) _
              rw [(hhears false).deeds]
              exact hhears false
  | ready => exact acts_of_execution hasked h
  | acting count rest => exact acts_of_execution hasked h
  | ran outcome => exact acts_of_execution hasked h
  | hooked outcome => exact acts_of_execution hasked h
  | concluded ended => exact acts_of_execution hasked h

/-- The worker goes on from where it reads neither the flag nor the queue. -/
theorem Engages.moves (h : s.Engages t id p) {deeds : List Note} (hacts : p.Acts id deeds q)
    (hcounts : p.countsNow = false) (hapart : p.isApart = true) (hbefore : p.asks = none)
    (hafter : q.asks = none) :
    (s.place t (.worker id q)).Engages t id q ∧ s.Goes id p (s.place t (.worker id q)) q deeds := by
  obtain ⟨hchecking, htaking⟩ := WorkerPoint.ne_of_isApart hapart
  exact ⟨h.place rfl rfl h.enrolled h.sound (h.asked.trans (hbefore.trans hafter.symm)),
    .of_workers hacts rfl hcounts (fun hclosed => hclosed) (fun hp => absurd hp hchecking)
      fun hp => absurd hp htaking⟩

/-- The same with a change of its own record. -/
theorem Engages.updates (h : s.Engages t id p) {f : Worker → Worker} {deeds : List Note}
    (hacts : p.Acts id deeds q) (hf : ∀ w, (f w).id = w.id ∧ (f w).stop = w.stop ∧
      (f w).executed = w.executed + p.countsNow.toNat)
    (hapart : p.isApart = true) (hbefore : p.asks = none) (hafter : q.asks = none) :
    ((s.updateWorker id f).place t (.worker id q)).Engages t id q ∧
      s.Goes id p ((s.updateWorker id f).place t (.worker id q)) q deeds := by
  refine ⟨h.place rfl rfl ?_ h.sound (h.asked.trans (hbefore.trans hafter.symm)),
    .of_update h.enrolled hacts hf hapart⟩
  rw [worker?_updateWorker_self s id fun w => (hf w).1, Option.isSome_map]
  exact h.enrolled

/-- The worker looks at its stop flag. -/
theorem Engages.checks (h : s.Engages t id .checking)
    (hstep : s.workerStep t luck id .checking = some (s', notes)) :
    ∃ q, s'.Engages t id q ∧ s.Goes id .checking s' q (Note.deeds notes) := by
  simp only [workerStep] at hstep
  split at hstep
  · cases hstep
    exact ⟨.leaving, h.place rfl rfl h.enrolled h.sound h.asked,
      .of_workers .quits rfl rfl (fun hclosed => hclosed) (fun _ hq => by cases hq)
        fun hp => by cases hp⟩
  · rename_i hgoes
    obtain ⟨s₁, hask, heq⟩ := Option.map_eq_some_iff.mp hstep
    obtain ⟨rfl, rfl⟩ := Prod.mk.inj heq
    obtain ⟨monitor, hcall, rfl⟩ := ask_cases hask
    have htouched := Queue.Monitor.touched_of_call hcall
    refine ⟨.taking, h.place rfl rfl h.enrolled (htouched.sound h.sound) ?_,
      .of_workers .comes rfl rfl htouched.closed (fun _ _ => Bool.not_eq_true _ ▸ hgoes)
        fun hp => by cases hp⟩
    show monitor.asked t = _
    rw [(Queue.Monitor.asked_call hcall).1, Function.update_self]
    rfl

/-- The worker has its turn at the queue. -/
theorem Engages.takes (h : s.Engages t id .taking) (hlock : luck.lock = true)
    (hwait : luck.wait = true) (hstep : s.workerStep t luck id .taking = some (s', notes)) :
    ∃ q, s'.Engages t id q ∧ s.Goes id .taking s' q (Note.deeds notes) := by
  obtain ⟨⟨s₁, answer, notes₁⟩, hturn, heq⟩ := Option.map_eq_some_iff.mp hstep
  obtain ⟨r, monitor, rfl, hcases⟩ := turn_deeds hlock hwait hturn
  rcases hcases with ⟨hwaited, rfl, hnotes⟩ | ⟨a, hanswered, rfl, hnotes⟩
  · obtain ⟨rfl, rfl⟩ := Prod.mk.inj heq
    refine ⟨.taking, ⟨h.numbered, h.enrolled, h.here, h.clients, hwaited.sound h.sound, ?_⟩, ?_⟩
    · exact (congrFun hwaited.asked t).trans h.asked
    · rw [hnotes]
      exact .of_workers .waits rfl rfl hwaited.touched.closed (fun hp => by cases hp)
        fun _ => Or.inl rfl
  · obtain rfl := Option.some.inj (hanswered.asked_self.symm.trans h.asked)
    have hasks : monitor.asked t = none := by rw [hanswered.asked, Function.update_self]
    have hsound := hanswered.sound h.sound
    have hclosed := hanswered.touched.closed
    rcases hanswered.take with ⟨item, rfl, -, hopen, -⟩ | ⟨rfl, hshut, -⟩
    · obtain ⟨rfl, rfl⟩ := Prod.mk.inj heq
      refine ⟨.holding item, h.place rfl rfl h.enrolled hsound hasks, ?_⟩
      rw [hnotes]
      exact .of_workers (.takes item) rfl rfl hclosed (fun hp => by cases hp)
        fun _ => Or.inr (Or.inl ⟨item, rfl, hopen⟩)
    · obtain ⟨rfl, rfl⟩ := Prod.mk.inj heq
      refine ⟨.leaving, h.place rfl rfl h.enrolled hsound hasks, ?_⟩
      rw [hnotes]
      exact .of_workers .sentAway rfl rfl hclosed (fun hp => by cases hp)
        fun _ => Or.inr (Or.inr ⟨rfl, hshut⟩)

/-- The worker goes on with its item. -/
theorem Engages.executes {item : Item} {phase : Phase} (h : s.Engages t id (.executing ⟨item, phase⟩))
    (hlock : luck.lock = true) (hwait : luck.wait = true)
    (hstep : s.executionStep t luck ⟨item, phase⟩ (fun e => .worker id (.executing e)) =
      some (s', notes)) :
    ∃ q, s'.Engages t id q ∧ s.Goes id (.executing ⟨item, phase⟩) s' q (Note.deeds notes) := by
  obtain ⟨count, phase', monitor, registry, rfl, hacts, htouched, hasked⟩ :=
    acts_of_executionStep hlock hwait h.asked hstep
  exact ⟨_, h.place rfl rfl h.enrolled (htouched.sound h.sound) hasked,
    .of_workers (.executes item hacts) rfl rfl htouched.closed (fun hp => by cases hp)
      fun hp => by cases hp⟩

/-- **THE WORKER'S OWN STEP** is one of its loop. -/
theorem Engages.step (h : s.Engages t id p) (hlock : luck.lock = true) (hwait : luck.wait = true)
    (hstep : s.step t luck = some (s', notes)) :
    ∃ q, s'.Engages t id q ∧ s.Goes id p s' q (Note.deeds notes) := by
  simp only [State.step] at hstep
  rw [h.here] at hstep
  simp only at hstep
  cases p with
  | starting task =>
      cases hstep
      exact ⟨.checking, h.updates (.starts task) (fun w => ⟨rfl, rfl, rfl⟩) rfl rfl rfl⟩
  | checking => exact h.checks hstep
  | taking => exact h.takes hlock hwait hstep
  | holding item =>
      cases hstep
      exact ⟨_, h.moves (.stamps item) rfl rfl rfl rfl⟩
  | executing e =>
      obtain ⟨item, phase⟩ := e
      cases phase with
      | concluded ended =>
          cases ended with
          | returned outcome =>
              cases outcome with
              | completed =>
                  cases hstep
                  exact ⟨_, h.moves (.returns item _) rfl rfl rfl rfl⟩
              | panicked message =>
                  cases hstep
                  exact ⟨_, h.moves (.returns item _) rfl rfl rfl rfl⟩
          | escaped message =>
              cases hstep
              exact ⟨_, h.moves (.escapes item message) rfl rfl rfl rfl⟩
      | ready => exact h.executes hlock hwait hstep
      | acting count rest => exact h.executes hlock hwait hstep
      | offering count child inQueue rest => exact h.executes hlock hwait hstep
      | ran outcome => exact h.executes hlock hwait hstep
      | hooked outcome => exact h.executes hlock hwait hstep
  | counting task =>
      cases hstep
      exact ⟨.checking, h.updates (.counts task) (fun w => ⟨rfl, rfl, rfl⟩) rfl rfl rfl⟩
  | leaving =>
      cases hstep
      exact ⟨_, h.moves .leaves rfl rfl rfl rfl⟩
  | ending escaped =>
      cases escaped with
      | none =>
          cases hstep
          exact ⟨.ended, h.updates (.ends none) (fun w => ⟨rfl, rfl, rfl⟩) rfl rfl rfl⟩
      | some message =>
          cases hstep
          exact ⟨.ended, h.updates (.ends _) (fun w => ⟨rfl, rfl, rfl⟩) rfl rfl rfl⟩
  | ended => cases hstep

/-! ## What others do -/

theorem touched_of_turn (hlock : luck.lock = true) (hwait : luck.wait = true)
    {answer : Option (Queue.Answer Item)} (h : s.turn u luck = some (s', answer, notes)) :
    ∃ monitor, s' = { s with monitor } ∧ s.monitor.Touched u monitor := by
  obtain ⟨r, monitor, rfl, ⟨hwaited, -⟩ | ⟨a, hanswered, -⟩⟩ := turn_deeds hlock hwait h
  · exact ⟨monitor, rfl, hwaited.touched⟩
  · exact ⟨monitor, rfl, hanswered.touched⟩

/-- A client touches the queue and the shared tasks, and moves itself. -/
def Aside (s : State) (u : ThreadId) (s' : State) : Prop :=
  ∃ monitor registry, s.monitor.Touched u monitor ∧
    (s' = { s with monitor, registry } ∨
      ∃ a : Activity, a.isClient = true ∧ s' = { s with monitor, registry }.place u a)

theorem aside_of_ask {r : Queue.Request Item} {a : Activity} (ha : a.isClient = true)
    (h : s.ask u r a = some s') : s.Aside u s' := by
  obtain ⟨monitor, hcall, rfl⟩ := ask_cases h
  exact ⟨monitor, s.registry, Queue.Monitor.touched_of_call hcall, Or.inr ⟨a, ha, rfl⟩⟩

theorem aside_of_place {a : Activity} (ha : a.isClient = true) : s.Aside u (s.place u a) :=
  ⟨s.monitor, s.registry, .refl u _, Or.inr ⟨a, ha, rfl⟩⟩

/-- A turn after which the client waits on, or goes to another place. -/
theorem aside_of_turn (hlock : luck.lock = true) (hwait : luck.wait = true)
    {answer : Option (Queue.Answer Item)} (hturn : s.turn u luck = some (s₁, answer, notes))
    (hnext : s' = s₁ ∨ ∃ a : Activity, a.isClient = true ∧ s' = s₁.place u a) : s.Aside u s' := by
  obtain ⟨monitor, rfl, htouched⟩ := touched_of_turn hlock hwait hturn
  exact ⟨monitor, s.registry, htouched, hnext⟩

/-- A client that executes an item of its own. -/
theorem aside_of_execution (hlock : luck.lock = true) (hwait : luck.wait = true) {item : Item}
    {phase : Phase} (hover : ∀ ended, phase ≠ .concluded ended)
    (h : s.executionStep u luck ⟨item, phase⟩ (fun e => .execution e) = some (s', notes)) :
    s.Aside u s' := by
  have hproceeds : ∀ {s'}, (Execution.step s.registry ⟨item, phase⟩).map (fun r =>
      (State.place { s with registry := r.1 } u (.execution r.2.1), r.2.2)) = some (s', notes) →
      s.Aside u s' := by
    intro s' h
    obtain ⟨⟨registry, e', notes'⟩, -, heq⟩ := Option.map_eq_some_iff.mp h
    obtain ⟨rfl, -⟩ := Prod.mk.inj heq
    exact ⟨s.monitor, registry, .refl u _, Or.inr ⟨_, rfl, rfl⟩⟩
  cases phase with
  | offering count child inQueue rest =>
      cases inQueue with
      | false =>
          simp only [executionStep] at h
          split at h
          · cases h
            exact aside_of_place rfl
          · obtain ⟨s₁, hask, heq⟩ := Option.map_eq_some_iff.mp h
            obtain ⟨rfl, -⟩ := Prod.mk.inj heq
            exact aside_of_ask rfl hask
      | true =>
          obtain ⟨⟨s₁, answer, notes₁⟩, hturn, heq⟩ := Option.map_eq_some_iff.mp h
          refine aside_of_turn hlock hwait hturn ?_
          cases answer with
          | none => exact Or.inl (Prod.mk.inj heq).1.symm
          | some answer => exact Or.inr ⟨_, rfl, (Prod.mk.inj heq).1.symm⟩
  | ready => exact hproceeds h
  | acting count rest => exact hproceeds h
  | ran outcome => exact hproceeds h
  | hooked outcome => exact hproceeds h
  | concluded ended => exact absurd rfl (hover ended)

/-- **A CLIENT'S STEP** leaves every other thread and all workers alone. -/
theorem aside_of_step (hlock : luck.lock = true) (hwait : luck.wait = true) {a : Activity}
    (here : s.activity? u = some a) (hclient : a.isClient = true)
    (h : s.step u luck = some (s', notes)) : s.Aside u s' := by
  simp only [State.step] at h
  rw [here] at h
  simp only at h
  cases a with
  | worker id p => cases hclient
  | order p => cases hclient
  | finished result => cases h
  | request =>
      obtain ⟨⟨s₁, answer, notes₁⟩, hturn, heq⟩ := Option.map_eq_some_iff.mp h
      refine aside_of_turn hlock hwait hturn ?_
      cases answer with
      | none => exact Or.inl (Prod.mk.inj heq).1.symm
      | some answer => exact Or.inr ⟨_, rfl, (Prod.mk.inj heq).1.symm⟩
  | submission item inQueue =>
      cases inQueue with
      | false =>
          simp only at h
          split at h
          · obtain ⟨s₁, hask, heq⟩ := Option.map_eq_some_iff.mp h
            obtain ⟨rfl, -⟩ := Prod.mk.inj heq
            exact aside_of_ask rfl hask
          · cases h
            exact aside_of_place rfl
      | true =>
          obtain ⟨⟨s₁, answer, notes₁⟩, hturn, heq⟩ := Option.map_eq_some_iff.mp h
          refine aside_of_turn hlock hwait hturn ?_
          cases answer with
          | none => exact Or.inl (Prod.mk.inj heq).1.symm
          | some answer => exact Or.inr ⟨_, rfl, (Prod.mk.inj heq).1.symm⟩
  | execution e =>
      obtain ⟨item, phase⟩ := e
      cases phase with
      | concluded ended =>
          cases h
          exact aside_of_place rfl
      | ready => exact aside_of_execution hlock hwait (fun _ heq => by cases heq) h
      | acting count rest => exact aside_of_execution hlock hwait (fun _ heq => by cases heq) h
      | offering count child inQueue rest =>
          exact aside_of_execution hlock hwait (fun _ heq => by cases heq) h
      | ran outcome => exact aside_of_execution hlock hwait (fun _ heq => by cases heq) h
      | hooked outcome => exact aside_of_execution hlock hwait (fun _ heq => by cases heq) h

/-- What is none of the worker's business. -/
theorem Engages.follows (h : s.Engages t id p) (hnumbered : ∀ th ∈ s'.threads, th.id < s'.nextThread)
    (hworkers : s'.workers = s.workers) (here : s'.activity? t = s.activity? t)
    (hclients : ∀ u a, u ≠ t → s'.activity? u = some a → a.isClient = true)
    (hsound : s'.monitor.Sound) (hasked : s'.monitor.asked t = s.monitor.asked t)
    (hclosed : s.monitor.contents.running = false → s'.monitor.contents.running = false) :
    s.Follows t id p s' p [] := by
  have hworker : s'.worker? id = s.worker? id := by
    simp only [worker?]
    rw [hworkers]
  refine ⟨⟨hnumbered, hworker ▸ h.enrolled, here.trans h.here, hclients, hsound,
    hasked.trans h.asked⟩, ?_, hclosed, Or.inl ⟨rfl, rfl, ?_⟩⟩
  · simp only [isDismissed]
    rw [hworker]
    exact fun hstop => hstop
  · simp only [executedBy]
    rw [hworker]

theorem Engages.aside (h : s.Engages t id p) (hut : u ≠ t) (here : ∃ a, s.activity? u = some a)
    (haside : s.Aside u s') : s.Follows t id p s' p [] := by
  obtain ⟨monitor, registry, htouched, rfl | ⟨a, ha, rfl⟩⟩ := haside
  · exact h.follows h.numbered rfl rfl h.clients (htouched.sound h.sound)
      (htouched.asked t (Ne.symm hut)) htouched.closed
  · obtain ⟨b, hb⟩ := here
    have hplace : (State.place { s with monitor, registry } u a).activity? =
        Function.update s.activity? u (some a) :=
      activity?_place (s := { s with monitor, registry }) hb
    refine h.follows (numbered_place (s := { s with monitor, registry }) h.numbered) rfl ?_ ?_
      (htouched.sound h.sound) (htouched.asked t (Ne.symm hut)) htouched.closed
    · rw [hplace, Function.update_of_ne (Ne.symm hut)]
    · intro v c hv hc
      rw [hplace] at hc
      by_cases hvu : v = u
      · subst hvu
        rw [Function.update_self] at hc
        exact Option.some.inj hc ▸ ha
      · rw [Function.update_of_ne hvu] at hc
        exact h.clients v c hv hc

/-- A new client begins, and may come to the queue at once. -/
theorem Engages.launch (h : s.Engages t id p) {a : Activity} (ha : a.isClient = true)
    {monitor : Queue.Monitor Item} (htouched : s.monitor.Touched s.nextThread monitor) :
    s.Follows t id p { s.launch a with monitor } p [] := by
  have hne : t ≠ s.nextThread := Nat.ne_of_lt (h.numbered _ (mem_threads_of_activity? h.here))
  have hactivity : State.activity? { s.launch a with monitor } =
      Function.update s.activity? s.nextThread (some a) :=
    activity?_launch_of_free (activity?_nextThread h.numbered)
  refine h.follows (numbered_launch (a := a) h.numbered) rfl ?_ ?_ (htouched.sound h.sound)
    (htouched.asked t hne) htouched.closed
  · rw [hactivity, Function.update_of_ne hne]
  · intro v c hv hc
    rw [hactivity] at hc
    by_cases hvn : v = s.nextThread
    · subst hvn
      rw [Function.update_self] at hc
      exact Option.some.inj hc ▸ ha
    · rw [Function.update_of_ne hvn] at hc
      exact h.clients v c hv hc

/-- Some worker, perhaps this one, is asked to stop. -/
theorem Engages.dismissing (h : s.Engages t id p) (v : Nat) :
    s.Follows t id p (s.updateWorker v fun w => { w with stop := true }) p [] := by
  have hself := worker?_updateWorker s v (f := fun w => { w with stop := true }) (fun _ => rfl) id
  refine ⟨⟨h.numbered, ?_, h.here, h.clients, h.sound, h.asked⟩, ?_, fun hclosed => hclosed,
    Or.inl ⟨rfl, rfl, ?_⟩⟩
  · rw [hself, Option.isSome_map]
    exact h.enrolled
  · simp only [isDismissed]
    rw [hself]
    cases s.worker? id with
    | none => exact fun hstop => hstop
    | some w =>
        simp only [Option.map_some, Option.any_some]
        split
        · exact fun _ => rfl
        · exact fun hstop => hstop
  · simp only [executedBy]
    rw [hself]
    cases s.worker? id with
    | none => rfl
    | some w =>
        simp only [Option.map_some]
        split <;> rfl

/-! ## Whatever happens -/

/-- **WHATEVER HAPPENS** is a step of the worker's loop or none of its business. -/
theorem Engages.happens (h : s.Engages t id p) {happening : Happening}
    (hsmooth : happening.isSmooth = true) (hhappens : s.happen happening = some (s', notes)) :
    ∃ q, s.Follows t id p s' q (if happening.isStepOf t then Note.deeds notes else []) := by
  cases happening with
  | dismiss v =>
      obtain ⟨rfl, -⟩ := Prod.mk.inj (Option.some.inj hhappens)
      exact ⟨p, h.dismissing v⟩
  | move move =>
      cases move with
      | step u luck =>
          obtain ⟨hlock, hwait⟩ := Bool.and_eq_true_iff.mp hsmooth
          by_cases hut : u = t
          · subst hut
            obtain ⟨q, hengages, hgoes⟩ := h.step hlock hwait hhappens
            simp only [Happening.isStepOf, decide_true, if_true]
            exact ⟨q, hengages, fun hstop => hgoes.dismissed ▸ hstop, hgoes.closed, Or.inr hgoes⟩
          · simp only [Happening.isStepOf, hut, decide_false]
            cases here : s.activity? u with
            | none =>
                simp only [happen, State.move, State.step] at hhappens
                rw [here] at hhappens
                cases hhappens
            | some a =>
                have haside := aside_of_step hlock hwait here (h.clients u a hut here) hhappens
                exact ⟨p, h.aside hut ⟨a, here⟩ haside⟩
      | wakeUp u =>
          obtain ⟨monitor, hwake, heq⟩ := Option.map_eq_some_iff.mp hhappens
          obtain ⟨rfl, -⟩ := Prod.mk.inj heq
          -- being woken is no step, not even for the worker itself
          obtain ⟨hasked, -⟩ := Queue.Monitor.asked_wakeUp hwake
          have htouched := Queue.Monitor.touched_of_wakeUp hwake u
          exact ⟨p, h.follows h.numbered rfl rfl h.clients (htouched.sound h.sound)
            (congrFun hasked t) htouched.closed⟩
      | request r =>
          obtain ⟨rfl, -⟩ := Prod.mk.inj (Option.some.inj hhappens)
          refine ⟨p, ?_⟩
          simp only [State.request]
          split
          · rename_i monitor hcall
            exact h.launch rfl (Queue.Monitor.touched_of_call hcall)
          · exact h.launch rfl (.refl _ _)
      | make job =>
          obtain ⟨rfl, -⟩ := Prod.mk.inj (Option.some.inj hhappens)
          exact ⟨p, h.follows h.numbered rfl rfl h.clients h.sound rfl fun hclosed => hclosed⟩
      | submit item =>
          obtain ⟨rfl, -⟩ := Prod.mk.inj (Option.some.inj hhappens)
          exact ⟨p, h.launch rfl (.refl _ _)⟩
      | execute item =>
          obtain ⟨rfl, -⟩ := Prod.mk.inj (Option.some.inj hhappens)
          exact ⟨p, h.launch rfl (.refl _ _)⟩
      | order order => cases hsmooth
      | openGate gate =>
          obtain ⟨rfl, -⟩ := Prod.mk.inj (Option.some.inj hhappens)
          exact ⟨p, h.follows h.numbered rfl rfl h.clients h.sound rfl fun hclosed => hclosed⟩

/-- What every happening keeps is kept for good. -/
theorem watch_keeps {P : State → WorkerPoint → List Note → Prop} {happenings : List Happening}
    {deeds : List Note}
    (hkeeps : ∀ s p notes s' q new, P s p notes → s.Follows t id p s' q new → P s' q (notes ++ new))
    (notes : List Note) (h : s.Engages t id p) (hstart : P s p notes)
    (hwatch : s.watch t happenings = some (s', deeds)) :
    ∃ q, s'.Engages t id q ∧ P s' q (notes ++ deeds) := by
  induction happenings generalizing s p notes deeds with
  | nil =>
      obtain ⟨rfl, rfl⟩ := Prod.mk.inj (Option.some.inj hwatch)
      exact ⟨p, h, by rwa [List.append_nil]⟩
  | cons happening rest ih =>
      simp only [watch] at hwatch
      split at hwatch
      · rename_i hsmooth
        obtain ⟨⟨s₁, new⟩, hhappens, hrest⟩ := Option.bind_eq_some_iff.mp hwatch
        obtain ⟨⟨last, later⟩, hlater, heq⟩ := Option.map_eq_some_iff.mp hrest
        obtain ⟨rfl, rfl⟩ := Prod.mk.inj heq
        obtain ⟨q, hfollows⟩ := h.happens hsmooth hhappens
        rw [← List.append_assoc]
        exact ih _ hfollows.engages (hkeeps s p notes s₁ q _ hstart hfollows) hlater
      · cases hwatch

/-- A worker that is asked to stop takes at most the item that it is waiting for. -/
theorem Engages.dismissed (h : s.Engages t id p) (hstop : s.isDismissed id = true)
    {happenings : List Happening} {deeds : List Note}
    (hwatch : s.watch t happenings = some (s', deeds)) :
    (WorkerPoint.taken deeds).length ≤ p.isTaking.toNat := by
  have hkeeps := watch_keeps
    (P := fun s₁ q notes => s₁.isDismissed id = true ∧
      (WorkerPoint.taken notes).length + q.isTaking.toNat ≤ p.isTaking.toNat)
    ?_ [] h ⟨hstop, Nat.le_of_eq (Nat.zero_add _)⟩ hwatch
  · obtain ⟨q, -, -, hbound⟩ := hkeeps
    rw [List.nil_append] at hbound
    omega
  · rintro s₁ q notes s₂ q' new ⟨hstop₁, hbound⟩ hfollows
    refine ⟨hfollows.dismissed hstop₁, ?_⟩
    rw [WorkerPoint.taken_append, List.length_append]
    rcases hfollows.own with ⟨rfl, rfl, -⟩ | hgoes
    · exact hbound
    · -- the flag is up, so nobody comes by it into a take
      have hstep := hgoes.acts.taken_le fun hp hq =>
        Bool.false_ne_true ((hgoes.passes hp hq).symm.trans hstop₁)
      omega

/-- A worker takes nothing from a queue that is shut down. -/
theorem Engages.closed (h : s.Engages t id p) (hshut : s.monitor.contents.running = false)
    {happenings : List Happening} {deeds : List Note}
    (hwatch : s.watch t happenings = some (s', deeds)) : WorkerPoint.taken deeds = [] := by
  have hkeeps := watch_keeps
    (P := fun s₁ _ notes => s₁.monitor.contents.running = false ∧ WorkerPoint.taken notes = [])
    ?_ [] h ⟨hshut, rfl⟩ hwatch
  · obtain ⟨q, -, -, hnone⟩ := hkeeps
    exact hnone
  · rintro s₁ q notes s₂ q' new ⟨hshut₁, hnone⟩ hfollows
    refine ⟨hfollows.closed hshut₁, ?_⟩
    rw [WorkerPoint.taken_append, hnone]
    rcases hfollows.own with ⟨-, rfl, -⟩ | hgoes
    · rfl
    · rcases hgoes.acts.taken with hnew | ⟨item, hp, rfl, -⟩
      · exact hnew
      · rcases hgoes.served hp with hq | ⟨item', -, hopen⟩ | ⟨hq, -⟩
        · cases hq
        · exact absurd (hshut₁.symm.trans hopen) Bool.false_ne_true
        · cases hq

/-- **A WORKER GOES ROUND**, whatever clients do around it: add, take, shut the queue down or ask the
    worker to stop.  All that it has ever done, from the beginning of its loop on, is whole rounds one
    after the other and the round that is on: in each it takes one item, stamps it with its number and
    executes it to its end before it counts it and takes the next, and the number of items that it has
    executed is the number of its rounds.

    A take that it waits in never finds the queue empty: the worker goes on waiting, gets an item, or
    leaves because the queue is shut down, and wherever it need not wait it has a step.  Once it is asked
    to stop it takes at most one more item, and none unless it is already inside the take.  Once the
    queue is shut down it takes no more. -/
theorem worker_goes_round {task : TaskId} {happenings : List Happening} {deeds : List Note}
    (h : s.Engages t id (.starting task)) (hfirst : s.executedBy id = 0)
    (hwatch : s.watch t happenings = some (s', deeds)) :
    ∃ p, s'.activity? t = some (.worker id p) ∧ p.Account id deeds (s'.executedBy id) ∧
      (p = .taking → ∀ luck, luck.lock = true → luck.wait = true →
        (∀ s'' answer notes, s'.turn t luck = some (s'', answer, notes) → answer ≠ some .empty) ∧
        ∀ s'' notes, s'.step t luck = some (s'', notes) →
          ∃ q, s''.activity? t = some (.worker id q) ∧
            (q = .taking ∨ (∃ item, q = .holding item) ∨
              q = .leaving ∧ s'.monitor.contents.running = false)) ∧
      (p.mayWait = false → s'.CanGo t) ∧
      (s'.isDismissed id = true → ∀ more last later, s'.watch t more = some (last, later) →
        (WorkerPoint.taken later).length ≤ 1 ∧ (WorkerPoint.taken later ≠ [] → p = .taking)) ∧
      (s'.monitor.contents.running = false → ∀ more last later,
        s'.watch t more = some (last, later) → WorkerPoint.taken later = []) := by
  have hkeeps := watch_keeps
    (P := fun s₁ q notes => q.Account id notes (s₁.executedBy id))
    ?_ [] h ⟨[], [], rfl, .between rfl, hfirst⟩ hwatch
  · obtain ⟨p, hengages, haccount⟩ := hkeeps
    refine ⟨p, hengages.here, haccount, ?_, ?_, ?_, ?_⟩
    · rintro rfl luck hlock hwait
      constructor
      · rintro s'' answer notes hturn rfl
        obtain ⟨r, monitor, -, ⟨-, hnone, -⟩ | ⟨a, hanswered, ha, -⟩⟩ := turn_deeds hlock hwait hturn
        · cases hnone
        · cases ha
          obtain rfl := Option.some.inj (hanswered.asked_self.symm.trans hengages.asked)
          rcases hanswered.take with ⟨item, hitem, -⟩ | ⟨hshut, -⟩
          · cases hitem
          · cases hshut
      · intro s'' notes hstep
        obtain ⟨q, hnext, hgoes⟩ := hengages.step hlock hwait hstep
        exact ⟨q, hnext.here, (hgoes.served rfl).imp_right
          (.imp_left fun ⟨item, hq, _⟩ => ⟨item, hq⟩)⟩
    · exact canGo_of_loop hengages.asked hengages.here
    · intro hstop more last later hmore
      have hbound := hengages.dismissed hstop hmore
      refine ⟨hbound.trans (Bool.toNat_le _), fun htaken => ?_⟩
      -- an item is taken only by a worker that was inside the take
      cases p with
      | taking => rfl
      | _ => exact absurd (List.eq_nil_of_length_eq_zero (Nat.le_zero.mp hbound)) htaken
    · intro hshut more last later hmore
      exact hengages.closed hshut hmore
  · intro s₁ q notes s₂ q' new haccount hfollows
    rcases hfollows.own with ⟨rfl, rfl, hsame⟩ | hgoes
    · rw [List.append_nil, hsame]
      exact haccount
    · rw [hgoes.executed]
      exact haccount.acts hgoes.acts

/-- Worker 7 on a queue of its own, without a thread. -/
def unstarted : State where
  name := "sole"
  queueName := "wq"
  monitor := { mutex := { name := "wq-lock" } }
  registry := { nextId := 2 }
  guarded := false
  size := 1
  workers := [{ id := 7, thread := 0 }]

/-- The worker is about to begin. -/
def soleWorker : State := unstarted.launch (.worker 7 (.starting 1))

/-- Its first item: the task panics, the observer returns. -/
def lastItem : Item := ⟨2, .mk (.numbered 0) .owned (some {}) [] (.panics (.text "task failure")), none⟩

/-- The worker waits for an item, one is added, and it is asked to stop before it has it. -/
def calledOff : List Happening :=
  [.move (.step 0 {}), .move (.step 0 {}), .move (.step 0 {}), .move (.make lastItem.job),
    .move (.request (.add lastItem)), .move (.step 1 { chosen := some 0 }), .dismiss 7]

/-- The worker takes the item all the same, executes it, counts it and leaves. -/
def lastRound : List Happening := List.replicate 11 (.move (.step 0 {}))

/-- The pool when the worker is asked to stop. -/
def afterCallOff : State × List Note := (soleWorker.watch 0 calledOff).getD (soleWorker, [])

/-- The pool at the end, and what the worker has done since. -/
def afterLastRound : State × List Note :=
  (afterCallOff.1.watch 0 lastRound).getD (soleWorker, [])

theorem worker_goes_round_called_off :
    soleWorker.Engages 0 7 (.starting 1) ∧ soleWorker.watch 0 calledOff = some afterCallOff ∧
    afterCallOff.1.isDismissed 7 = true ∧
    afterCallOff.1.watch 0 lastRound = some afterLastRound ∧
    WorkerPoint.taken afterLastRound.2 = [2] ∧ afterLastRound.1.executedBy 7 = 1 ∧
    (afterCallOff.1.activity? 0).any (fun a => a matches .worker 7 .taking) = true ∧
    ∃ p, afterCallOff.1.activity? 0 = some (.worker 7 p) ∧
      (WorkerPoint.taken afterLastRound.2 ≠ [] → p = .taking) := by
  have hengages : soleWorker.Engages 0 7 (.starting 1) :=
    engages_launch (s := unstarted) nofun (by decide) nofun ⟨Queue.Monitor.attentive_new _, rfl⟩ rfl 1
  have hcalled : soleWorker.watch 0 calledOff = some afterCallOff :=
    (Option.getD_of_ne_none (by decide) _).symm
  have hlast : afterCallOff.1.watch 0 lastRound = some afterLastRound :=
    (Option.getD_of_ne_none (by decide) _).symm
  obtain ⟨p, here, -, -, -, hstops, -⟩ := worker_goes_round hengages rfl hcalled
  exact ⟨hengages, hcalled, by decide, hlast, by decide, by decide, by decide, p, here,
    (hstops (by decide) _ _ _ hlast).2⟩

end State

end PooledServer.Pool
