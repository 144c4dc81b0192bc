import PooledServer.Proofs.CommandLine.Tallies
import PooledServer.Proofs.Pool.Callers
import PooledServer.Proofs.Pool.Stop
import PooledServer.Proofs.Pool.Telling

/-!
# The pool of a stress test

    All items of a stress test are numbered without a gap, so an item's number tells its task.  A pool
    that has no other items is under stress (`Stressed`), and every step of one of its threads keeps it
    so: what has run is what has begun, and the observer has been told of what was counted and of what
    the workers are about to count. -/

namespace PooledServer.CommandLine.PoolStress

open Work (Item Note Phase Fate TaskId)
open Pool (State WorkerPoint OrderPoint Activity Luck)

/-! ## Tasks on their way -/

/-- The item is that of a task, if the first task has the item number `first`. -/
def IsTask (first : Nat) (item : Item) : Prop := ∃ i, item.id = first + i ∧ item.job = job i

/-- The phases of a task that submits nothing and whose observer does not panic. -/
def isPlain : Phase → Bool
  | .acting _ rest => rest.isEmpty
  | .offering .. | .concluded (.escaped _) => false
  | .ready | .ran _ | .hooked _ | .concluded (.returned _) => true

/-- Whatever worker `id` has in hand is a task. -/
def OnTask (first id : Nat) : WorkerPoint → Prop
  | .holding item => IsTask first item
  | .executing e => IsTask first e.item ∧ e.item.runBy = some id ∧ isPlain e.phase = true
  | _ => True

/-- The item of which the thread has told the observer, as long as it is not counted. -/
def reported : Activity → List TaskId
  | .worker _ (.executing ⟨item, .concluded _⟩) => [item.id]
  | .worker _ (.counting id) => [id]
  | _ => []

/-- What a step from place `a` to place `b` tells, of `crew` workers that there are at most. -/
structure Tells (first crew : Nat) (a b : Activity) (new : List Note) : Prop where
  ran : runs new = (Fate.begun.met (Note.fates new)).map (· - first)
  reported : (↑(reported a) + ↑((reports new).map Prod.fst) : Multiset TaskId) =
    ↑(Fate.counted.met (Note.fates new)) + ↑(reported b)
  known : ∀ r ∈ reports new, ∃ worker < crew, r.2 = some worker

variable {s s' s₁ : State} {t : ThreadId} {first id crew : Nat} {p q : WorkerPoint} {a b : Activity}
  {luck : Luck} {notes new : List Note} {said : List (Fate × TaskId)}

theorem runs_of_events (h : Note.events new = []) : runs new = [] := by
  simp only [runs, h, List.filterMap_nil]

theorem reports_of_events (h : Note.events new = []) : reports new = [] := by
  simp only [reports, h, List.filterMap_nil]

/-- A step that tells nothing. -/
theorem Tells.of_events (h : Note.events new = []) (hbegun : Fate.begun.met (Note.fates new) = [])
    (hkeeps : (↑(PoolStress.reported a) : Multiset TaskId) =
      ↑(Fate.counted.met (Note.fates new)) + ↑(PoolStress.reported b)) :
    Tells first crew a b new := by
  have hnone := reports_of_events h
  refine ⟨?_, ?_, ?_⟩
  · rw [runs_of_events h, hbegun, List.map_nil]
  · rw [hnone, List.map_nil, Multiset.coe_nil, add_zero]
    exact hkeeps
  · rw [hnone]
    exact fun r hr => nomatch hr

/-- **A TASK IS RUN WHEN IT IS BEGUN AND REPORTED BEFORE IT IS COUNTED**, by the worker that has it. -/
theorem tells_of_acts (hid : id < crew) (hp : OnTask first id p) (k : p.Acts id new q) :
    Tells first crew (.worker id p) (.worker id q) new := by
  cases k with
  | executes item acts =>
      obtain ⟨⟨i, hitem, hjob⟩, hrun, hplain⟩ := hp
      obtain ⟨n, work, runBy⟩ := item
      obtain rfl : n = first + i := hitem
      obtain rfl : work = job i := hjob
      obtain rfl : runBy = some id := hrun
      cases acts with
      | begins =>
          refine ⟨?_, rfl, fun r hr => nomatch hr⟩
          show [i] = [first + i - first]
          rw [Nat.add_sub_cancel_left]
      | tells outcome =>
          refine ⟨rfl, rfl, ?_⟩
          intro r hr
          rw [List.mem_singleton.mp hr]
          exact ⟨id, hid, rfl⟩
      | ends | hooks => exact ⟨rfl, rfl, fun r hr => nomatch hr⟩
      | passes | makes | asks | hears => cases hplain
  | escapes item message => exact nomatch hp.2.2
  | counts task => exact .of_events rfl rfl rfl
  | starts | quits | comes | waits | takes | sentAway | stamps | returns | leaves | ends =>
      exact .of_events rfl rfl rfl

/-! ## A worker's step -/

/-- The items of a worker's step come from the queue. -/
theorem onTask_of_works (hqueued : ∀ item ∈ s.monitor.contents.items, IsTask first item)
    (hp : OnTask first id p) (step : s.Works t id p s₁ q said) : OnTask first id q := by
  cases step with
  | takes monitor item answered =>
      rcases answered.take with ⟨item', heq, hi, -⟩ | ⟨h, -⟩
      · cases heq
        exact hqueued item (hi ▸ List.mem_cons_self ..)
      · cases h
  | stamps item => exact ⟨hp, rfl, rfl⟩
  | executes item step =>
      obtain ⟨hitem, hrun, hplain⟩ := hp
      refine ⟨hitem, hrun, ?_⟩
      obtain ⟨i, -, hjob⟩ := hitem
      cases step with
      | proceeds stepped =>
          cases stepped with
          | begins | enters =>
              show item.job.actions.isEmpty = true
              rw [hjob]
              rfl
          | tells outcome ended told =>
              rw [told, Work.Execution.conclude_calm (hjob ▸ rfl)]
              rfl
          | ends | exits | hooks => rfl
          | passes | makes => cases hplain
      | barred | offers | accepted | refused => cases hplain
  | _ => exact trivial

/-- What the worker's step leaves alone: no item is made or accepted. -/
theorem apart_of_works (hp : OnTask first id p) (step : s.Works t id p s₁ q said) :
    (∀ item ∈ s₁.monitor.contents.items, item ∈ s.monitor.contents.items) ∧
      Fate.accepted.met said = [] ∧ s₁.registry.nextId = s.registry.nextId := by
  have hcontents : ∀ {monitor : Queue.Monitor Item}, monitor.contents = s.monitor.contents →
      ∀ item ∈ monitor.contents.items, item ∈ s.monitor.contents.items := by
    intro monitor heq
    rw [heq]
    exact fun _ h => h
  cases step with
  | comes monitor called => exact ⟨hcontents (Queue.Monitor.asked_call called).2, rfl, rfl⟩
  | waits monitor waited => exact ⟨hcontents waited.contents, rfl, rfl⟩
  | takes monitor item answered =>
      rcases answered.take with ⟨item', -, hi, -⟩ | ⟨h, -⟩
      · refine ⟨?_, rfl, rfl⟩
        rw [hi]
        exact fun _ h => List.mem_cons_of_mem _ h
      · cases h
  | sentAway monitor answered =>
      rcases answered.take with ⟨item, h, -⟩ | ⟨-, -, hc⟩
      · cases h
      · exact ⟨hcontents hc, rfl, rfl⟩
  | executes item step =>
      cases step with
      | proceeds stepped =>
          cases stepped with
          | makes => exact nomatch hp.2.2
          | _ => exact ⟨fun _ h => h, rfl, rfl⟩
      | barred | offers | accepted | refused => exact nomatch hp.2.2
  | _ => exact ⟨fun _ h => h, rfl, rfl⟩

/-! ## The pool -/

/-- A pool that has only tasks, after `notes`. -/
structure Stressed (s : State) (first : Nat) (notes : List Note) : Prop where
  sane : s.Sane notes
  queued : ∀ item ∈ s.monitor.contents.items, IsTask first item
  working : ∀ u id p, s.activity? u = some (.worker id p) → OnTask first id p
  ran : runs notes = (Fate.begun.met (Note.fates notes)).map (· - first)
  reported : (↑((reports notes).map Prod.fst) : Multiset TaskId) =
    ↑(Fate.counted.met (Note.fates notes)) + s.gather reported
  known : ∀ r ∈ reports notes, ∃ worker < s.nextWorker, r.2 = some worker

theorem nextWorker_le_of_orders {p : OrderPoint} (step : s.Orders t p s₁ b) :
    s.nextWorker ≤ s₁.nextWorker := by
  cases step with
  | hires | growsBy | outgrows | givesUp | stunted => exact Nat.le_succ _
  | _ => exact Nat.le_refl _

theorem gather_of_frame (frame : s.Frame s₁) {f : Activity → List TaskId} :
    s₁.gather f = s.gather f := by
  simp only [State.gather]
  rw [frame.threads]

/-- What has been told so far, after a thread has moved. -/
theorem Stressed.place (h : Stressed s first notes) (hsane : (s₁.place t b).Sane (notes ++ new))
    (hd : (s₁.threads.map (·.id)).Nodup) (here : s₁.activity? t = some a)
    (hgather : s₁.gather PoolStress.reported = s.gather PoolStress.reported)
    (hcrew : s.nextWorker ≤ s₁.nextWorker)
    (hqueued : ∀ item ∈ s₁.monitor.contents.items, IsTask first item)
    (hworking : ∀ u id p, (s₁.place t b).activity? u = some (.worker id p) → OnTask first id p)
    (htells : Tells first s.nextWorker a b new) : Stressed (s₁.place t b) first (notes ++ new) := by
  refine ⟨hsane, hqueued, hworking, ?_, ?_, ?_⟩
  · rw [runs_append, h.ran, htells.ran, Note.fates_append, Fate.met_append, List.map_append]
  · rw [reports_append, List.map_append, Note.fates_append, Fate.met_append]
    exact State.balance_place hd here hgather h.reported htells.reported
  · rw [reports_append]
    intro r hr
    rcases List.mem_append.mp hr with hold | hnew
    · obtain ⟨worker, hworker, heq⟩ := h.known r hold
      exact ⟨worker, Nat.lt_of_lt_of_le hworker hcrew, heq⟩
    · obtain ⟨worker, hworker, heq⟩ := htells.known r hnew
      exact ⟨worker, Nat.lt_of_lt_of_le hworker hcrew, heq⟩

/-- The workers after a step, each on its task. -/
theorem Stressed.working_next (h : Stressed s first notes) (hstep : s.Stepped t s' said) :
    ∀ u id p, s'.activity? u = some (.worker id p) → OnTask first id p := by
  intro u id p hu
  refine hstep.forall_threads (P := fun _ c => ∀ id p, c = .worker id p → OnTask first id p)
    h.sane.placed ?_ ?_ ?_ ?_ u _ hu id p rfl
  · rintro v c hv - id p rfl
    exact h.working v id p hv
  · intro id p q s₁ here step _ id' p' heq
    cases heq
    exact onTask_of_works h.queued (h.working t id p here) step
  · rintro c hrole - id p rfl
    cases hrole
  · intro v id task id' p' heq
    cases heq
    exact trivial

/-- A worker's step. -/
theorem Stressed.works (h : Stressed s first notes) (hlock : luck.lock = true)
    (hwait : luck.wait = true) (hsane : (s₁.place t (.worker id q)).Sane (notes ++ new))
    (hworking : ∀ u id' p', (s₁.place t (.worker id q)).activity? u = some (.worker id' p') →
      OnTask first id' p')
    (here : s.activity? t = some (.worker id p)) (step : s.Works t id p s₁ q said)
    (hstep : s.step t luck = some (s₁.place t (.worker id q), new)) :
    Stressed (s₁.place t (.worker id q)) first (notes ++ new) := by
  have frame := step.frame
  have here₁ : s₁.activity? t = some (.worker id p) := frame.activity? ▸ here
  obtain ⟨w, hw, rfl, -⟩ := h.sane.placed.known t id p here
  obtain ⟨hitems, -, -⟩ := apart_of_works (h.working t _ p here) step
  refine h.place hsane (frame.placed h.sane.placed).distinct here₁ (gather_of_frame frame)
    (Nat.le_of_eq frame.nextWorker.symm) (fun item hi => h.queued item (hitems item hi)) hworking ?_
  -- the same step, as one of the worker's loop
  have hworker : s.workerStep t luck w.id p = some (s₁.place t (.worker w.id q), new) := by
    simp only [State.step] at hstep
    rw [here] at hstep
    exact hstep
  obtain ⟨q', hq', hacts⟩ :=
    State.acts_of_workerStep hlock hwait here (h.sane.asking.asked_eq here) hworker
  rw [State.activity?_place_self here₁] at hq'
  cases hq'
  obtain ⟨hran, hreported, hknown⟩ :=
    tells_of_acts (h.sane.placed.recent w hw) (h.working t _ p here) hacts
  simp only [runs, reports, Note.events_deeds, Note.fates_deeds] at hran hreported hknown
  exact ⟨hran, hreported, hknown⟩

/-- The queue after a submission has one task more, or none. -/
theorem queued_of_submits {item : Item} {inQueue : Bool}
    (hqueued : ∀ item ∈ s.monitor.contents.items, IsTask first item) (hitem : IsTask first item)
    (step : s.Submits t item inQueue s₁ b said) :
    ∀ item ∈ s₁.monitor.contents.items, IsTask first item := by
  cases step with
  | barred closed => exact hqueued
  | comes monitor welcome called =>
      rw [show monitor.contents = _ from (Queue.Monitor.asked_call called).2]
      exact hqueued
  | accepted monitor answered =>
      rcases answered.add with ⟨-, -, hc⟩ | ⟨h, -⟩
      · intro item' hmem
        rw [show State.monitor { s with monitor } = monitor from rfl, hc] at hmem
        rcases List.mem_append.mp hmem with hold | hnew
        · exact hqueued item' hold
        · rw [List.mem_singleton.mp hnew]
          exact hitem
      · cases h
  | refused monitor answered =>
      rw [State.contents_of_rejected answered]
      exact hqueued

/-- **A POOL UNDER STRESS STAYS SO** at every step of its threads, if they submit tasks only. -/
theorem Stressed.step (h : Stressed s first notes) (hlock : luck.lock = true)
    (hwait : luck.wait = true)
    (hsubmits : ∀ item inQueue, s.activity? t = some (.submission item inQueue) → IsTask first item)
    (hstep : s.step t luck = some (s', new)) : Stressed s' first (notes ++ new) := by
  have hsane := h.sane.step hlock hwait hstep
  have hstepped := h.sane.stepped_of_permits (Bool.and_eq_true_iff.mpr ⟨hlock, hwait⟩) hstep
  have hworking := h.working_next hstepped
  generalize hsaid : Note.fates new = said at hstepped
  cases hstepped with
  | works here step => exact h.works hlock hwait hsane hworking here step hstep
  | submits here step =>
      have frame := step.frame
      refine h.place hsane (frame.placed h.sane.placed).distinct (frame.activity? ▸ here)
        (gather_of_frame frame) (Nat.le_of_eq frame.nextWorker.symm)
        (queued_of_submits h.queued (hsubmits _ _ here) step) hworking ?_
      refine .of_events (State.events_of_submission here hstep) ?_ ?_
      · rw [hsaid]
        cases step <;> rfl
      · rw [hsaid]
        cases step <;> rfl
  | orders here step =>
      obtain ⟨hplaced, here₁⟩ := step.placed h.sane.placed here
      refine h.place hsane hplaced.distinct here₁
        (step.gather h.sane.placed (fun _ _ => rfl) fun _ => rfl) (nextWorker_le_of_orders step)
        (step.items ▸ h.queued) hworking ?_
      refine .of_events (State.events_of_order here hstep) ?_ ?_
      · rw [hsaid]
        rfl
      · rw [hsaid]
        cases step <;> rfl

/-! ## Calls -/

/-- A pool whose threads, queue and crew are the same, and which is sane. -/
theorem Stressed.of_eq (h : Stressed s first notes) (hsane : s'.Sane notes)
    (hitems : s'.monitor.contents.items = s.monitor.contents.items)
    (hthreads : s'.threads = s.threads) (hcrew : s'.nextWorker = s.nextWorker) :
    Stressed s' first notes := by
  refine ⟨hsane, hitems ▸ h.queued, ?_, h.ran, ?_, hcrew ▸ h.known⟩
  · simp only [State.activity?, hthreads]
    exact h.working
  · simp only [State.gather, hthreads]
    exact h.reported

/-- A call begins. -/
theorem Stressed.launch (h : Stressed s first notes) (hsane : (s.launch a).Sane notes)
    (hrole : a.worker? = none) : Stressed (s.launch a) first notes := by
  refine ⟨hsane, h.queued, ?_, h.ran, ?_, h.known⟩
  · intro u id p hu
    rcases State.launch_cases h.sane.placed hu with hu | ⟨-, rfl⟩
    · exact h.working u id p hu
    · cases hrole
  · have hnone : PoolStress.reported a = [] := by
      cases a with
      | worker => cases hrole
      | _ => rfl
    rw [State.gather_launch, hnone, Multiset.coe_nil, add_zero]
    exact h.reported

/-- A call has returned. -/
theorem Stressed.collect (h : Stressed s first notes) {result : Pool.Result}
    (hcollect : s.collect t = some (result, s')) : Stressed s' first notes := by
  have hsane := h.sane.collect hcollect
  have hback := fun u a => State.activity?_of_collect (u := u) (a := a) hcollect
  obtain ⟨here, rfl⟩ := State.collect_eq hcollect
  refine ⟨hsane, h.queued, fun u id p hu => h.working u id p (hback _ _ hu).1, h.ran, ?_, h.known⟩
  have hremove := State.gather_remove (f := PoolStress.reported) h.sane.placed.distinct here
  rw [h.reported, ← hremove]
  exact congrArg _ (add_zero _)

end PooledServer.CommandLine.PoolStress
