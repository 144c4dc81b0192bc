import PooledServer.Proofs.Pool.Frames

/-!
# Where every item is

    An item that the queue has accepted waits in the queue until it is handed out; then one worker holds
    it until that worker has counted it.  A ledger says so with equations between what has been said
    about items and what the queue and the threads hold now:

    * accepted = handed out, followed by what is queued, in this order;
    * handed out = counted, together with what the workers hold;
    * begun = counted, together with what the workers have begun.

    No item comes twice because each is in one place only before it is accepted: with the one thread
    that submits it. -/

namespace PooledServer.Pool

open Work (Item Execution Phase Note Fate TaskId)

/-! ## What threads hold -/

def phaseHasBegun : Phase → Bool
  | .ready => false
  | .acting .. | .offering .. | .ran _ | .hooked _ | .concluded _ => true

def phasePending : Phase → List TaskId
  | .offering _ child _ _ => [child.id]
  | .ready | .acting .. | .ran _ | .hooked _ | .concluded _ => []

/-- The item that was handed to the thread and is not counted yet. -/
def Activity.held : Activity → List TaskId
  | .worker _ (.holding item) => [item.id]
  | .worker _ (.executing e) => [e.item.id]
  | .worker _ (.counting id) => [id]
  | _ => []

/-- The item that the thread has begun and not counted yet. -/
def Activity.inHand : Activity → List TaskId
  | .worker _ (.executing e) => if phaseHasBegun e.phase then [e.item.id] else []
  | .worker _ (.counting id) => [id]
  | _ => []

/-- The item that the thread submits. -/
def Activity.pending : Activity → List TaskId
  | .worker _ (.executing e) => phasePending e.phase
  | .submission item _ => [item.id]
  | _ => []

namespace State

/-- The queued items. -/
def queued (s : State) : List TaskId := s.monitor.contents.items.map (·.id)

/-- The books of a pool about which `said` has been said. -/
structure Ledger (s : State) (said : List (Fate × TaskId)) : Prop where
  queue : Fate.accepted.met said = Fate.handedOut.met said ++ s.queued
  held : (↑(Fate.handedOut.met said) : Multiset TaskId) =
    ↑(Fate.counted.met said) + s.gather Activity.held
  begun : (↑(Fate.begun.met said) : Multiset TaskId) =
    ↑(Fate.counted.met said) + s.gather Activity.inHand
  once : (↑(Fate.accepted.met said) + s.gather Activity.pending).Nodup
  made : ∀ i ∈ (↑(Fate.accepted.met said) + s.gather Activity.pending : Multiset TaskId),
    i < s.registry.nextId
  executed : s.executed = (Fate.counted.met said).length
  answers : ∀ t item ok, s.activity? t = some (.finished (.submitted item ok)) →
    item.id ∈ (if ok then Fate.accepted else Fate.refused).met said

/-- What the step of one thread from place `a` to place `b` has to do with items. -/
structure Entry (s : State) (a : Activity) (s₁ : State) (b : Activity)
    (said : List (Fate × TaskId)) : Prop where
  queue : s.queued ++ Fate.accepted.met said = Fate.handedOut.met said ++ s₁.queued
  held : (↑a.held + ↑(Fate.handedOut.met said) : Multiset TaskId) =
    ↑(Fate.counted.met said) + ↑b.held
  begun : (↑a.inHand + ↑(Fate.begun.met said) : Multiset TaskId) =
    ↑(Fate.counted.met said) + ↑b.inHand
  pending : ∃ fresh : Multiset TaskId,
    (↑(Fate.accepted.met said) + ↑b.pending : Multiset TaskId) ≤ ↑a.pending + fresh ∧
      fresh.Nodup ∧ ∀ i ∈ fresh, s.registry.nextId ≤ i ∧ i < s₁.registry.nextId
  nextId : s.registry.nextId ≤ s₁.registry.nextId
  executed : s₁.executed = s.executed + (Fate.counted.met said).length
  answers : ∀ item ok, b = .finished (.submitted item ok) →
    item.id ∈ (if ok then Fate.accepted else Fate.refused).met said

variable {s s' s₁ : State} {t : ThreadId} {a b : Activity} {said new : List (Fate × TaskId)}

/-- Where nothing comes in, no item is fresh. -/
theorem exists_fresh_of_le
    (h : (↑(Fate.accepted.met said) + ↑b.pending : Multiset TaskId) ≤ ↑a.pending) :
    ∃ fresh : Multiset TaskId,
      (↑(Fate.accepted.met said) + ↑b.pending : Multiset TaskId) ≤ ↑a.pending + fresh ∧
        fresh.Nodup ∧ ∀ i ∈ fresh, s.registry.nextId ≤ i ∧ i < s₁.registry.nextId :=
  ⟨0, h.trans_eq (add_zero _).symm, Multiset.nodup_zero,
    fun i hi => absurd hi (Multiset.notMem_zero i)⟩

/-- A step that has nothing to do with items. -/
theorem Entry.idle (hqueue : s₁.queued = s.queued) (hheld : b.held = a.held)
    (hbegun : b.inHand = a.inHand) (hpending : b.pending = a.pending)
    (hnext : s.registry.nextId ≤ s₁.registry.nextId) (hexecuted : s₁.executed = s.executed)
    (hanswers : ∀ item ok, b ≠ .finished (.submitted item ok)) : Entry s a s₁ b [] := by
  refine ⟨?_, ?_, ?_, exists_fresh_of_le ?_, hnext, ?_, ?_⟩
  · rw [hqueue]
    exact List.append_nil _
  · rw [hheld]
    exact add_comm _ _
  · rw [hbegun]
    exact add_comm _ _
  · rw [hpending]
    exact le_of_eq (zero_add _)
  · exact hexecuted
  · exact fun item ok h => absurd h (hanswers item ok)

/-- An equation between what has been said and what the threads hold, after a thread has moved. -/
theorem balance_place {f : Activity → List TaskId} {out counted : List TaskId}
    {outNew countedNew : List TaskId} (hd : (s₁.threads.map (·.id)).Nodup)
    (here : s₁.activity? t = some a) (hgather : s₁.gather f = s.gather f)
    (h : (↑out : Multiset TaskId) = ↑counted + s.gather f)
    (e : (↑(f a) + ↑outNew : Multiset TaskId) = ↑countedNew + ↑(f b)) :
    (↑(out ++ outNew) : Multiset TaskId) = ↑(counted ++ countedNew) + (s₁.place t b).gather f := by
  have hplace := gather_place (f := f) (b := b) hd here
  rw [hgather] at hplace
  refine add_right_cancel (b := (↑(f a) : Multiset TaskId)) ?_
  rw [add_assoc, hplace, ← Multiset.coe_add, ← Multiset.coe_add, h]
  calc ↑counted + s.gather f + ↑outNew + ↑(f a)
      = ↑counted + s.gather f + (↑(f a) + ↑outNew) := by abel
    _ = ↑counted + s.gather f + (↑countedNew + ↑(f b)) := by rw [e]
    _ = ↑counted + ↑countedNew + (s.gather f + ↑(f b)) := by abel

variable (said) in
/-- What was accepted and what is being submitted, after a thread has moved: nothing comes in but
    fresh items. -/
theorem pending_place {fresh : Multiset TaskId}
    (hle : (↑(Fate.accepted.met new) + ↑b.pending : Multiset TaskId) ≤ ↑a.pending + fresh)
    (hd : (s₁.threads.map (·.id)).Nodup) (here : s₁.activity? t = some a)
    (hpending : s₁.gather Activity.pending = s.gather Activity.pending) :
    (↑(Fate.accepted.met (said ++ new)) + (s₁.place t b).gather Activity.pending :
      Multiset TaskId) ≤ (↑(Fate.accepted.met said) + s.gather Activity.pending) + fresh := by
  have hplace := gather_place (f := Activity.pending) (b := b) hd here
  rw [hpending] at hplace
  refine le_of_add_le_add_right (a := (↑a.pending : Multiset TaskId)) ?_
  calc ↑(Fate.accepted.met (said ++ new)) + (s₁.place t b).gather Activity.pending + ↑a.pending
      = ↑(Fate.accepted.met said) + s.gather Activity.pending +
        (↑(Fate.accepted.met new) + ↑b.pending) := by
          rw [add_assoc, hplace, Fate.met_append, ← Multiset.coe_add]
          abel
    _ ≤ ↑(Fate.accepted.met said) + s.gather Activity.pending + (↑a.pending + fresh) :=
        add_le_add_right hle _
    _ = ↑(Fate.accepted.met said) + s.gather Activity.pending + fresh + ↑a.pending := by abel

/-- The books after a thread has moved, when the step before the move gathers the same. -/
theorem Ledger.place (h : s.Ledger said) (e : Entry s a s₁ b new)
    (hd : (s₁.threads.map (·.id)).Nodup) (here : s₁.activity? t = some a)
    (hheld : s₁.gather Activity.held = s.gather Activity.held)
    (hbegun : s₁.gather Activity.inHand = s.gather Activity.inHand)
    (hpending : s₁.gather Activity.pending = s.gather Activity.pending)
    (hothers : ∀ u result, s₁.activity? u = some (.finished result) →
      s.activity? u = some (.finished result)) :
    (s₁.place t b).Ledger (said ++ new) := by
  obtain ⟨fresh, hle, hnodup, hfresh⟩ := e.pending
  have hgather := pending_place said hle hd here hpending
  refine ⟨?_, ?_, ?_, ?_, ?_, ?_, ?_⟩
  · show _ = _ ++ s₁.queued
    rw [Fate.met_append, Fate.met_append, h.queue, List.append_assoc, e.queue, List.append_assoc]
  · rw [Fate.met_append, Fate.met_append]
    exact balance_place hd here hheld h.held e.held
  · rw [Fate.met_append, Fate.met_append]
    exact balance_place hd here hbegun h.begun e.begun
  · refine Multiset.nodup_of_le hgather (Multiset.nodup_add.mpr ⟨h.once, hnodup, ?_⟩)
    -- a fresh number is beyond all that were given, so it is nobody's yet
    refine Multiset.disjoint_left.mpr ?_
    intro i hi hif
    exact absurd (h.made i hi) (Nat.not_lt.mpr (hfresh i hif).1)
  · intro i hi
    rcases Multiset.mem_add.mp (Multiset.mem_of_le hgather hi) with hold | hnew
    · exact Nat.lt_of_lt_of_le (h.made i hold) e.nextId
    · exact (hfresh i hnew).2
  · show s₁.executed = _
    rw [e.executed, h.executed, Fate.met_append, List.length_append]
  · intro u item ok hu
    rw [activity?_place here] at hu
    rw [Fate.met_append]
    by_cases hut : u = t
    · subst hut
      rw [Function.update_self] at hu
      exact List.mem_append_right _ (e.answers item ok (Option.some.inj hu))
    · rw [Function.update_of_ne hut] at hu
      exact List.mem_append_left _ (h.answers u item ok (hothers u _ hu))

/-! ## What workers have counted -/

theorem executed_eq : s.executed = s.retired + (s.workers.map (·.executed)).sum := by
  rw [executed, List.sum_eq_foldr, List.foldr_map]

theorem executed_updateWorker (id : Nat) {f : Worker → Worker}
    (hf : ∀ w, (f w).executed = w.executed) : (s.updateWorker id f).executed = s.executed := by
  rw [executed_eq, executed_eq, updateWorker, List.map_map]
  congr 2
  refine List.map_congr_left fun w _ => ?_
  show (if w.id = id then f w else w).executed = w.executed
  split
  · exact hf w
  · rfl

/-- A worker that counts is counted once: its number is its own. -/
theorem executed_count (hd : (s.workers.map (·.id)).Nodup) {w : Worker} (hw : w ∈ s.workers) :
    (s.updateWorker w.id fun w => { w with executed := w.executed + 1 }).executed =
      s.executed + 1 := by
  have hsum : ((s.updateWorker w.id fun w => { w with executed := w.executed + 1 }).workers.map
      (·.executed)).sum + w.executed = (s.workers.map (·.executed)).sum + (w.executed + 1) :=
    Keyed.sum_map_at (f := Worker.id) hd hw Worker.executed
  rw [executed_eq, executed_eq]
  show s.retired + _ = s.retired + _ + 1
  omega

theorem executed_enlarged : s.enlarged.executed = s.executed := by
  rw [executed_eq, executed_eq]
  show s.retired + ((s.workers ++ [_]).map fun w : Worker => w.executed).sum = _
  rw [List.map_append, List.sum_append]
  rfl

theorem executed_dropFirst {w : Worker} {rest : List Worker} (hw : s.workers = w :: rest) :
    (s.dropFirst w rest).executed = s.executed := by
  rw [executed_eq, executed_eq, hw, List.map_cons, List.sum_cons]
  exact Nat.add_assoc ..

/-! ## The entries of each step -/

theorem queued_of_contents {m : Queue.Monitor Item} (h : m.contents.items = s.monitor.contents.items) :
    State.queued { s with monitor := m } = s.queued :=
  congrArg (List.map fun i : Item => i.id) h

theorem queued_of_call {monitor : Queue.Monitor Item} {r : Queue.Request Item}
    (h : s.monitor.call t r = some monitor) : State.queued { s with monitor } = s.queued :=
  queued_of_contents (congrArg _ (Queue.Monitor.asked_call h).2)

/-- An accepted item is queued behind the others. -/
theorem queued_of_added {monitor : Queue.Monitor Item} {item : Item}
    (h : s.monitor.Answered t (.add item) monitor .added) :
    s.queued ++ [item.id] = State.queued { s with monitor } := by
  rcases h.add with ⟨-, -, hc⟩ | ⟨h, -⟩
  · unfold queued
    rw [show State.monitor { s with monitor } = monitor from rfl, hc, List.map_append]
    rfl
  · exact nomatch h

theorem queued_of_rejected {monitor : Queue.Monitor Item} {item : Item}
    (h : s.monitor.Answered t (.add item) monitor (.rejected item)) :
    State.queued { s with monitor } = s.queued := by
  rcases h.add with ⟨h, -⟩ | ⟨-, -, hc⟩
  · exact nomatch h
  · exact queued_of_contents (congrArg _ hc)

theorem queued_of_taken {monitor : Queue.Monitor Item} {item : Item}
    (h : s.monitor.Answered t (.take true) monitor (.taken item)) :
    s.queued = item.id :: State.queued { s with monitor } := by
  rcases h.take with ⟨item', heq, hi, -⟩ | ⟨h, -⟩
  · cases heq
    simp only [queued]
    rw [hi]
    rfl
  · exact nomatch h

/-- Work on an item: it is begun once, and what its task submits takes a new number. -/
theorem Executes.entry {id : Nat} {item : Item} {phase phase' : Phase}
    (h : s.Executes t item phase s₁ phase' said) :
    Entry s (.worker id (.executing ⟨item, phase⟩)) s₁ (.worker id (.executing ⟨item, phase'⟩))
      said := by
  -- an item is begun by a task of its own or by a shared one: the same entry
  have hbegins : ∀ {registry : Work.Registry} {count : Nat},
      registry.nextId = s.registry.nextId →
      Entry s (.worker id (.executing ⟨item, .ready⟩)) { s with registry }
        (.worker id (.executing ⟨item, .acting count item.job.actions⟩)) [(.begun, item.id)] := by
    intro registry count hnext
    refine ⟨?_, ?_, ?_, exists_fresh_of_le ?_, ?_, rfl, ?_⟩
    · exact List.append_nil _
    · exact add_comm _ _
    · rfl
    · exact le_of_eq (zero_add _)
    · exact Nat.le_of_eq hnext.symm
    · exact fun _ _ h => nomatch h
  cases h with
  | proceeds stepped =>
      cases stepped with
      | begins own => exact hbegins rfl
      | enters task own found free => exact hbegins rfl
      | ends count outcome own =>
          exact .idle rfl rfl rfl rfl (Nat.le_refl _) rfl (fun _ _ h => nomatch h)
      | exits count outcome own =>
          exact .idle rfl rfl rfl rfl (Nat.le_refl _) rfl (fun _ _ h => nomatch h)
      | passes count gate rest opened =>
          exact .idle rfl rfl rfl rfl (Nat.le_refl _) rfl (fun _ _ h => nomatch h)
      | makes count job rest =>
          -- the one step that makes an item: it takes the next number
          obtain ⟨hid, hnext⟩ := s.registry.make_id job
          refine ⟨?_, ?_, ?_, ⟨{(s.registry.make job).1.id}, ?_, Multiset.nodup_singleton _, ?_⟩,
            ?_, rfl, ?_⟩
          · exact List.append_nil _
          · exact add_comm _ _
          · exact add_comm _ _
          · exact le_of_eq rfl
          · intro i hi
            rw [Multiset.mem_singleton.mp hi, hid]
            exact ⟨Nat.le_refl _, hnext ▸ Nat.lt_succ_self _⟩
          · exact hnext ▸ Nat.le_succ _
          · exact fun _ _ h => nomatch h
      | hooks outcome =>
          exact .idle rfl rfl rfl rfl (Nat.le_refl _) rfl (fun _ _ h => nomatch h)
      | tells outcome ended told =>
          exact .idle rfl rfl rfl rfl (Nat.le_refl _) rfl (fun _ _ h => nomatch h)
  | barred count child rest closed =>
      exact ⟨List.append_nil _, add_comm _ _, add_comm _ _, exists_fresh_of_le (Multiset.zero_le _),
        Nat.le_refl _, rfl, fun _ _ h => nomatch h⟩
  | offers count child rest monitor welcome called =>
      exact .idle (queued_of_call called) rfl rfl rfl (Nat.le_refl _) rfl
        (fun _ _ h => nomatch h)
  | accepted count child rest monitor answered =>
      exact ⟨queued_of_added answered, add_comm _ _, add_comm _ _, exists_fresh_of_le (le_of_eq rfl),
        Nat.le_refl _, rfl, fun _ _ h => nomatch h⟩
  | refused count child rest monitor answered =>
      refine ⟨?_, add_comm _ _, add_comm _ _, exists_fresh_of_le (Multiset.zero_le _),
        Nat.le_refl _, rfl, fun _ _ h => nomatch h⟩
      exact (List.append_nil _).trans (queued_of_rejected answered).symm

/-- A worker takes one item after the other, begins each and counts it.  It would lose count of an item
    whose observer panics. -/
theorem Works.entry (hs : s.Placed) {id : Nat} {p q : WorkerPoint}
    (here : s.activity? t = some (.worker id p)) (h : s.Works t id p s₁ q said)
    (hcalm : ∀ item message, p ≠ .executing ⟨item, .concluded (.escaped message)⟩) :
    Entry s (.worker id p) s₁ (.worker id q) said := by
  cases h with
  | starts task =>
      exact .idle rfl rfl rfl rfl (Nat.le_refl _) (executed_updateWorker id fun _ => rfl)
        (fun _ _ h => nomatch h)
  | comes monitor called =>
      exact .idle (queued_of_call called) rfl rfl rfl (Nat.le_refl _) rfl
        (fun _ _ h => nomatch h)
  | waits monitor waited =>
      exact .idle (queued_of_contents (congrArg _ waited.contents)) rfl rfl rfl (Nat.le_refl _) rfl
        (fun _ _ h => nomatch h)
  | takes monitor item answered =>
      refine ⟨?_, rfl, add_comm _ _, exists_fresh_of_le (Multiset.zero_le _), Nat.le_refl _, rfl,
        fun _ _ h => nomatch h⟩
      exact (List.append_nil _).trans (queued_of_taken answered)
  | sentAway monitor answered =>
      refine .idle ?_ rfl rfl rfl (Nat.le_refl _) rfl (fun _ _ h => nomatch h)
      rcases answered.take with ⟨item, h, -⟩ | ⟨-, -, hc⟩
      · exact nomatch h
      · exact queued_of_contents (congrArg _ hc)
  | executes item step => exact step.entry
  | counts task =>
      -- a worker counts itself as long as it is enrolled
      obtain ⟨w, hw, rfl, -⟩ := hs.known t id _ here
      exact ⟨List.append_nil _, add_comm _ _, add_comm _ _, exists_fresh_of_le (Multiset.zero_le _),
        Nat.le_refl _, executed_count hs.enrolled hw, fun _ _ h => nomatch h⟩
  | ends escaped =>
      exact .idle rfl rfl rfl rfl (Nat.le_refl _) (executed_updateWorker id fun _ => rfl)
        (fun _ _ h => nomatch h)
  | escapes item message => exact absurd rfl (hcalm item message)
  | quits | stamps | returns | leaves =>
      exact .idle rfl rfl rfl rfl (Nat.le_refl _) rfl (fun _ _ h => nomatch h)

theorem Submits.entry {item : Item} {inQueue : Bool} (h : s.Submits t item inQueue s₁ b said) :
    Entry s (.submission item inQueue) s₁ b said := by
  cases h with
  | barred closed =>
      refine ⟨List.append_nil _, rfl, rfl, exists_fresh_of_le (Multiset.zero_le _), Nat.le_refl _,
        rfl, ?_⟩
      rintro item' ok h
      cases h
      exact List.mem_singleton.mpr rfl
  | comes monitor welcome called =>
      exact .idle (queued_of_call called) rfl rfl rfl (Nat.le_refl _) rfl
        (fun _ _ h => nomatch h)
  | accepted monitor answered =>
      refine ⟨queued_of_added answered, rfl, rfl, exists_fresh_of_le (le_of_eq rfl), Nat.le_refl _,
        rfl, ?_⟩
      rintro item' ok h
      cases h
      exact List.mem_singleton.mpr rfl
  | refused monitor answered =>
      refine ⟨?_, rfl, rfl, exists_fresh_of_le (Multiset.zero_le _), Nat.le_refl _, rfl, ?_⟩
      · exact (List.append_nil _).trans (queued_of_rejected answered).symm
      · rintro item' ok h
        cases h
        exact List.mem_singleton.mpr rfl

/-- An order has nothing to do with items: even the queue that it closes keeps them. -/
theorem Orders.entry {p : OrderPoint} (h : s.Orders t p s₁ b) :
    Entry s (.order p) s₁ b [] := by
  have hidle : s₁.queued = s.queued → s.registry.nextId ≤ s₁.registry.nextId →
      s₁.executed = s.executed → Entry s (.order p) s₁ b [] := by
    intro hqueue hnext hexecuted
    refine .idle hqueue ?_ ?_ ?_ hnext hexecuted ?_
    · cases h <;> rfl
    · cases h <;> rfl
    · cases h <;> rfl
    · cases h <;> exact fun _ _ h => nomatch h
  cases h with
  | inquires monitor closed called => exact hidle (queued_of_call called) (Nat.le_refl _) rfl
  | measures stop monitor due called => exact hidle (queued_of_call called) (Nat.le_refl _) rfl
  | drains stop monitor due called => exact hidle (queued_of_call called) (Nat.le_refl _) rfl
  | mayStart monitor answered =>
      exact hidle (queued_of_contents (congrArg _ answered.isRunning.2)) (Nat.le_refl _) rfl
  | mayNot monitor answered =>
      exact hidle (queued_of_contents (congrArg _ answered.isRunning.2)) (Nat.le_refl _) rfl
  | hires left => exact hidle rfl (Nat.le_succ _) (executed_enlarged (s := s))
  | growsBy left size => exact hidle rfl (Nat.le_succ _) (executed_enlarged (s := s))
  | outgrows left message => exact hidle rfl (Nat.le_succ _) (executed_enlarged (s := s))
  | givesUp left failure monitor called =>
      exact hidle (queued_of_call called) (Nat.le_succ _) rfl
  | stunted left failure => exact hidle rfl (Nat.le_succ _) rfl
  | measured between monitor count answered called =>
      refine hidle (queued_of_contents ?_) (Nat.le_refl _) rfl
      rw [(Queue.Monitor.asked_call called).2, answered.size.2]
  | waits monitor waited =>
      exact hidle (queued_of_contents (congrArg _ waited.contents)) (Nat.le_refl _) rfl
  | drained between monitor answer answered called =>
      refine hidle (queued_of_contents ?_) (Nat.le_refl _) rfl
      rw [(Queue.Monitor.asked_call called).2, answered.shutDownWhenDrained.2.1]
  | closes failure monitor answer answered =>
      exact hidle (queued_of_contents answered.shutDown.2) (Nat.le_refl _) rfl
  | dismisses id left failure =>
      exact hidle rfl (Nat.le_refl _) (executed_updateWorker id fun _ => rfl)
  | joins failure w rest first gone =>
      exact hidle rfl (Nat.le_refl _) (executed_dropFirst first)
  | _ => exact hidle rfl (Nat.le_refl _) rfl

/-! ## The books after a step -/

/-- An order neither brings items to the threads nor takes any away. -/
theorem Orders.gather {p : OrderPoint} (h : s.Orders t p s₁ b) (hs : s.Placed)
    {f : Activity → List TaskId} (hstarting : ∀ id task, f (.worker id (.starting task)) = [])
    (hended : ∀ id, f (.worker id .ended) = []) : s₁.gather f = s.gather f := by
  have hnew : s.enlarged.gather f = s.gather f := by
    refine (gather_launch (s := { s.attempted with workers := _ })).trans ?_
    rw [hstarting]
    exact add_zero _
  cases h with
  | hires left => exact hnew
  | growsBy left size => exact hnew
  | outgrows left message => exact hnew
  | joins failure w rest first gone =>
      -- a thread that is joined has ended, and holds nothing
      obtain ⟨q, hq⟩ := hs.staffed w (first ▸ List.mem_cons_self ..)
      simp only [isOver] at gone
      rw [hq] at gone
      cases q with
      | ended =>
          have hremove := gather_remove (f := f) hs.distinct hq
          rw [hended] at hremove
          exact (add_zero _).symm.trans hremove
      | _ => cases gone
  | _ => rfl

/-- **THE BOOKS STAY BALANCED**: every step enters what it does to items. -/
theorem Ledger.stepped (hs : s.Placed) (h : s.Ledger said)
    (hcalm : ∀ u id item message,
      s.activity? u ≠ some (.worker id (.executing ⟨item, .concluded (.escaped message)⟩)))
    (hstep : s.Stepped t s' new) : s'.Ledger (said ++ new) := by
  -- workers and submissions leave the threads as they are; an order may begin one or join one
  have hframe : ∀ {s₁ a b new}, s.Frame s₁ → s.activity? t = some a → Entry s a s₁ b new →
      (s₁.place t b).Ledger (said ++ new) := by
    intro s₁ a b new frame here entry
    have hgather : ∀ f, s₁.gather f = s.gather f := by
      intro f
      simp only [State.gather]
      rw [frame.threads]
    rw [← frame.activity?] at here
    refine h.place entry (frame.placed hs).distinct here (hgather _) (hgather _) (hgather _) ?_
    intro u result hu
    rw [frame.activity?] at hu
    exact hu
  cases hstep with
  | works here step =>
      refine hframe step.frame here (step.entry hs here ?_)
      rintro item message rfl
      exact hcalm _ _ _ _ here
  | submits here step => exact hframe step.frame here step.entry
  | orders here step =>
      obtain ⟨hs₁, here₁⟩ := step.placed hs here
      exact h.place step.entry hs₁.distinct here₁ (step.gather hs (fun _ _ => rfl) fun _ => rfl)
        (step.gather hs (fun _ _ => rfl) fun _ => rfl) (step.gather hs (fun _ _ => rfl) fun _ => rfl)
        fun u result hu => by
          rcases step.others hs u with heq | ⟨-, id, task, hnew⟩ | ⟨-, hgone⟩
          · rw [← heq]
            exact hu
          · cases hu.symm.trans hnew
          · cases hu.symm.trans hgone

end State

end PooledServer.Pool
