import PooledServer.Proofs.Pool.Stop
import PooledServer.Proofs.Pool.Survival

/-!
# The crew of a pool

    Making a worker may fail, and an order may have many to make.  `State.Staffs` lists the steps of an
    order once more, with the number of workers that the pool is meant to have after each, and with the
    failure that a failed attempt ends in.

    The invariant is `State.Tended`.  While the pool runs it has exactly as many workers as it is meant
    to have; while it is being started the workers that are there and those that are left to make come
    to that number; and until it is opened no worker touches an item, so that the workers of a start
    that has failed are free to leave. -/

namespace PooledServer.Pool

open Work (Item Execution Phase Note Fate TaskId)

/-! ## Sums of counts -/

namespace Arithmetic

variable {arithmetic : Arithmetic} {count sum : UInt64} {more : Nat} {message : String}

theorem toNat_add_toUInt64 (count : UInt64) (more : Nat) :
    (count + more.toUInt64).toNat = (count.toNat + more) % UInt64.size := by
  rw [UInt64.toNat_add, Nat.toUInt64, UInt64.toNat_ofNat', Nat.add_mod_mod]

/-- A sum is taken modulo the number of words.  One that is checked fits. -/
theorem toNat_of_add (h : arithmetic.add count more = .ok sum) :
    sum.toNat = (count.toNat + more) % UInt64.size ∧
      (arithmetic = .checked → count.toNat + more < UInt64.size) := by
  simp only [add] at h
  split at h
  · cases h
  · rename_i hfits
    cases h
    exact ⟨toNat_add_toUInt64 count more, fun hchecked => by
      simpa only [hchecked, true_and, not_le] using hfits⟩

/-- A sum that fits is the true one. -/
theorem toNat_of_add_of_lt (h : arithmetic.add count more = .ok sum)
    (hroom : count.toNat + more < UInt64.size) : sum.toNat = count.toNat + more :=
  (toNat_of_add h).1.trans (Nat.mod_eq_of_lt hroom)

/-- Only a sum that does not fit panics, and only where sums are checked. -/
theorem of_add_error (h : arithmetic.add count more = .error message) :
    arithmetic = .checked ∧ UInt64.size ≤ count.toNat + more := by
  simp only [add] at h
  split at h
  · assumption
  · cases h

end Arithmetic

/-- An order is about to plan workers or to make one. -/
def OrderPoint.isStaffing : OrderPoint → Bool
  | .begun (.grow _) | .hiring (_ + 1) | .growing (_ + 1) => true
  | _ => false

/-- Only the thread's own order moves it on from here. -/
def Activity.isLasting : Activity → Bool
  | .order _ | .finished _ => true
  | .worker .. | .request | .submission .. | .execution _ => false

namespace State

/-- The numbers of the workers and of their threads. -/
def crew (s : State) : List (Nat × ThreadId) := s.workers.map fun w => (w.id, w.thread)

/-- No worker has an item. -/
def Unworked (s : State) : Prop := ∀ t a, s.activity? t = some a → a.held = []

/-- The pool is meant to have workers, and while it runs it has as many of them as that. -/
structure Staffed (s : State) : Prop where
  peopled : 0 < s.size.toNat
  counted : s.running = true → s.workers.length = s.size.toNat

/-- An order's step would take the number of workers beyond a 64-bit count. -/
def overflows (s : State) (luck : Luck) : OrderPoint → Bool
  | .begun (.grow count) => !s.running && decide (UInt64.size ≤ s.size.toNat + count)
  | .growing (_ + 1) => ((s.hire luck).2.2 matches .ok _) && decide (UInt64.size ≤ s.size.toNat + 1)
  | _ => false

end State

/-- What an order relies on at the given place. -/
def OrderPoint.Crewed (s : State) : OrderPoint → Prop
  | .hiring left => s.workers.length + left = s.size.toNat ∧ s.Unworked
  | .closing (some _) | .dismissing _ (some _) | .joining (some _) => s.Unworked
  | _ => True

namespace State

variable {s s' s₁ : State} {t u : ThreadId} {luck : Luck} {p q : OrderPoint} {a b : Activity}
  {notes new : List Note} {fatal : List Item} {said : List (Fate × TaskId)}

/-! ## The steps of an order -/

/-- The steps of an order with what becomes of the crew. -/
inductive Staffs (s : State) (t : ThreadId) (luck : Luck) : OrderPoint → State → Activity → Prop
  | grows (count : Nat) (welcome : s.running = true) :
      Staffs s t luck (.begun (.grow count)) s (.order (.growing count))
  | plans (count : Nat) (size : UInt64) (closed : s.running = false)
      (sum : s.arithmetic.add s.size count = .ok size) :
      Staffs s t luck (.begun (.grow count)) { s with size } (.finished (.ordered (.ok ())))
  | overplans (count : Nat) (message : String) (closed : s.running = false)
      (sum : s.arithmetic.add s.size count = .error message) :
      Staffs s t luck (.begun (.grow count)) s (.finished (.panicked message))
  | hires (left : Nat) (made : (s.hire luck).2.2 = .ok ()) :
      Staffs s t luck (.hiring (left + 1)) s.enlarged (.order (.hiring left))
  | givesUp (left : Nat) (e : PoolError) (monitor : Queue.Monitor Item)
      (failed : (s.hire luck).2.2 = .error e) (called : s.monitor.call t .shutDown = some monitor) :
      Staffs s t luck (.hiring (left + 1)) { s.attempted with monitor } (.order (.closing (some e)))
  | adds (left : Nat) (size : UInt64) (made : (s.hire luck).2.2 = .ok ())
      (sum : s.arithmetic.add s.size 1 = .ok size) :
      Staffs s t luck (.growing (left + 1)) { s.enlarged with size } (.order (.growing left))
  | outgrows (left : Nat) (message : String) (made : (s.hire luck).2.2 = .ok ())
      (sum : s.arithmetic.add s.size 1 = .error message) :
      Staffs s t luck (.growing (left + 1)) s.enlarged (.finished (.panicked message))
  | stunted (left : Nat) (e : PoolError) (failed : (s.hire luck).2.2 = .error e) :
      Staffs s t luck (.growing (left + 1)) s.attempted (.finished (.ordered (.error e)))
  | carriesOn {p : OrderPoint} {s₁ : State} {b : Activity} (plain : p.isStaffing = false)
      (step : s.Orders t p s₁ b) : Staffs s t luck p s₁ b

/-- These are steps of an order. -/
theorem Staffs.orders (h : s.Staffs t luck p s₁ b) : s.Orders t p s₁ b := by
  cases h with
  | grows count welcome => exact .grows count welcome
  | plans count size closed sum => exact .plans count size closed
  | overplans count message closed sum => exact .overplans count message closed
  | hires left made => exact .hires left
  | givesUp left e monitor failed called => exact .givesUp left e monitor called
  | adds left size made sum => exact .growsBy left size
  | outgrows left message made sum => exact .outgrows left message
  | stunted left e failed => exact .stunted left e
  | carriesOn plain step => exact step

/-- **EVERY STEP OF AN ORDER** is one of these. -/
theorem staffs_of_step (hs : s.Placed) (hq : s.Asking) (hlock : luck.lock = true)
    (hwait : luck.wait = true) (here : s.activity? t = some (.order p))
    (h : s.step t luck = some (s', notes)) :
    ∃ s₁ b, s' = s₁.place t b ∧ s.Staffs t luck p s₁ b := by
  have horder : s.orderStep t luck p = some (s', notes) := by
    simp only [step] at h
    rw [here] at h
    exact h
  cases hp : p.isStaffing with
  | false =>
      obtain ⟨-, s₁, b, rfl, step⟩ :=
        ordered_of_orderStep hs hlock hwait here (hq.asked_eq here) horder
      exact ⟨s₁, b, rfl, .carriesOn hp step⟩
  | true =>
      cases p with
      | begun order =>
          cases order with
          | grow count =>
              simp only [orderStep] at horder
              split at horder
              · rename_i hwelcome
                cases horder
                exact ⟨_, _, rfl, .grows count hwelcome⟩
              · rename_i hstopped
                have hclosed : s.running = false := by simpa using hstopped
                split at horder
                · rename_i size hsum
                  cases horder
                  exact ⟨_, _, rfl, .plans count size hclosed hsum⟩
                · rename_i message hsum
                  cases horder
                  exact ⟨_, _, rfl, .overplans count message hclosed hsum⟩
          | start | stop => cases hp
      | hiring left =>
          cases left with
          | zero => cases hp
          | succ left =>
              simp only [orderStep] at horder
              rcases s.hire_cases luck with ⟨made, hhire, -⟩ | ⟨made, e, hhire, -⟩
              · rw [hhire] at horder
                cases horder
                exact ⟨_, _, rfl, .hires left (by rw [hhire])⟩
              · rw [hhire] at horder
                obtain ⟨s₁, hask, heq⟩ := Option.map_eq_some_iff.mp horder
                obtain ⟨rfl, -⟩ := Prod.mk.inj heq
                obtain ⟨monitor, hcall, rfl⟩ := ask_cases hask
                exact ⟨_, _, rfl, .givesUp left e monitor (by rw [hhire]) hcall⟩
      | growing left =>
          cases left with
          | zero => cases hp
          | succ left =>
              simp only [orderStep] at horder
              rcases s.hire_cases luck with ⟨made, hhire, -⟩ | ⟨made, e, hhire, -⟩
              · rw [hhire] at horder
                simp only at horder
                split at horder
                · rename_i size hsum
                  cases horder
                  exact ⟨_, _, rfl, .adds left size (by rw [hhire]) hsum⟩
                · rename_i message hsum
                  cases horder
                  exact ⟨_, _, rfl, .outgrows left message (by rw [hhire]) hsum⟩
              · rw [hhire] at horder
                cases horder
                exact ⟨_, _, rfl, .stunted left e (by rw [hhire])⟩
      | _ => cases hp

/-! ## Nobody has an item -/

/-- Where there are no workers nobody has an item. -/
theorem unworked_of_nobody (hs : s.Placed) (hw : s.workers = []) : s.Unworked := by
  intro u a hu
  cases a with
  | worker id p =>
      obtain ⟨w, hmem, -⟩ := hs.known u id p hu
      rw [hw] at hmem
      cases hmem
  | _ => rfl

/-- A worker finds no item in an empty queue. -/
theorem Works.unworked {id : Nat} {p q : WorkerPoint} (step : s.Works t id p s₁ q said)
    (hitems : s.monitor.contents.items = []) (hp : (Activity.worker id p).held = []) :
    (Activity.worker id q).held = [] := by
  cases step with
  | takes monitor item answered =>
      rcases answered.take with ⟨item', -, hi, -⟩ | ⟨h, -⟩
      · cases hitems.symm.trans hi
      · cases h
  | stamps | executes | returns | escapes => cases hp
  | _ => rfl

theorem Stepped.unworked (hs : s.Placed) (hstep : s.Stepped t s' said)
    (hitems : s.monitor.contents.items = []) (h : s.Unworked) : s'.Unworked := by
  refine hstep.forall_threads (P := fun _ c => c.held = []) hs ?_ ?_ ?_ ?_
  · exact fun u c hu _ => h u c hu
  · exact fun id p q s₁ here step _ => step.unworked hitems (h _ _ here)
  · intro b hb _
    cases b with
    | worker id p => cases hb
    | _ => rfl
  · exact fun _ _ _ => rfl

theorem Unworked.place (h : s.Unworked) (here : s.activity? t = some a) (hb : b.held = []) :
    (s.place t b).Unworked := by
  intro u c hu
  rw [activity?_place here] at hu
  by_cases hut : u = t
  · subst hut
    rw [Function.update_self] at hu
    rw [← Option.some.inj hu]
    exact hb
  · rw [Function.update_of_ne hut] at hu
    exact h u c hu

theorem Unworked.launch (hs : s.Placed) (h : s.Unworked) (ha : a.held = []) :
    (s.launch a).Unworked := by
  intro u c hu
  rcases launch_cases hs hu with hu | ⟨-, rfl⟩
  · exact h u c hu
  · exact ha

/-! ## Orders and the crew -/

/-- A plan has room. -/
theorem planned_lt {count : Nat} (closed : s.running = false)
    (hroomy : s.overflows luck (.begun (.grow count)) = false) :
    s.size.toNat + count < UInt64.size := by
  simpa [overflows, closed] using hroomy

/-- One more worker can be counted. -/
theorem grown_lt (made : (s.hire luck).2.2 = .ok ()) {left : Nat}
    (hroomy : s.overflows luck (.growing (left + 1)) = false) : s.size.toNat + 1 < UInt64.size := by
  simpa only [overflows, made, Bool.true_and, decide_eq_false_iff_not, not_le] using hroomy

theorem overflows_of_plain (hp : p.isStaffing = false) : s.overflows luck p = false := by
  cases p with
  | begun order =>
      cases order with
      | grow count => cases hp
      | start | stop => rfl
  | growing left =>
      cases left with
      | zero => rfl
      | succ left => cases hp
  | _ => rfl

theorem length_crew (s : State) : s.crew.length = s.workers.length := List.length_map _

theorem crew_enlarged (s : State) : s.enlarged.crew = s.crew ++ [(s.nextWorker, s.nextThread)] := by
  simp only [crew, enlarged, launch]
  rw [List.map_append]
  rfl

theorem length_workers_enlarged (s : State) : s.enlarged.workers.length = s.workers.length + 1 := by
  rw [← length_crew, crew_enlarged, List.length_append, length_crew]
  rfl

theorem Staffs.staffed (h : s.Staffs t luck p s₁ b) (hp : p.Fits s) (hs : s.Staffed)
    (hc : p.Crewed s) (hroomy : s.overflows luck p = false) : s₁.Staffed := by
  cases h with
  | grows count welcome => exact hs
  | plans count size closed sum =>
      refine ⟨?_, fun hr => nomatch hr.symm.trans closed⟩
      show 0 < size.toNat
      rw [Arithmetic.toNat_of_add_of_lt sum (planned_lt closed hroomy)]
      exact Nat.add_pos_left hs.peopled count
  | overplans count message closed sum => exact ⟨hs.peopled, hs.counted⟩
  | hires left made => exact ⟨hs.peopled, fun hr => nomatch hr.symm.trans hp.1⟩
  | givesUp left e monitor failed called => exact ⟨hs.peopled, fun hr => nomatch hr.symm.trans hp.1⟩
  | adds left size made sum =>
      have hsize := Arithmetic.toNat_of_add_of_lt sum (grown_lt made hroomy)
      refine ⟨?_, fun hr => ?_⟩
      · show 0 < size.toNat
        rw [hsize]
        exact Nat.succ_pos _
      · show s.enlarged.workers.length = size.toNat
        rw [hsize, length_workers_enlarged, hs.counted hr]
  | outgrows left message made sum =>
      exact absurd (grown_lt made hroomy) (Nat.not_lt.mpr (Arithmetic.of_add_error sum).2)
  | stunted left e failed => exact ⟨hs.peopled, hs.counted⟩
  | carriesOn plain step =>
      cases step with
      | opens => exact ⟨hs.peopled, fun _ => hc.1⟩
      | measures | drains => exact ⟨hs.peopled, fun hr => nomatch hr⟩
      | dismisses | joins => exact ⟨hs.peopled, fun hr => nomatch hr.symm.trans hp.1⟩
      | plans | growsBy | outgrows => cases plain
      | hires | givesUp | stunted => cases plain
      | _ => exact ⟨hs.peopled, hs.counted⟩

/-- The next place of the order finds the crew as it needs it. -/
theorem Staffs.crewed (h : s.Staffs t luck p s₁ (.order q)) (hs : s.Placed) (hp : p.Fits s)
    (hc : p.Crewed s) : q.Crewed s₁ := by
  cases h with
  | hires left made =>
      obtain ⟨hlength, hunworked⟩ := hc
      refine ⟨?_, hunworked.launch (s := s) hs rfl⟩
      show s.enlarged.workers.length + left = s.size.toNat
      rw [length_workers_enlarged, ← hlength, Nat.add_right_comm]
      rfl
  | grows | adds => exact trivial
  | givesUp left e monitor failed called => exact hc.2
  | carriesOn plain step =>
      cases step with
      | mayStart monitor answered =>
          refine ⟨?_, unworked_of_nobody (s := s) hs hp.1⟩
          show s.workers.length + s.size.toNat = s.size.toNat
          rw [hp.1]
          exact Nat.zero_add _
      | hires | givesUp | growsBy => cases plain
      | closes failure monitor answer answered =>
          cases failure with
          | none => exact trivial
          | some e => exact hc
      | dismisses id left failure =>
          cases failure with
          | none => exact trivial
          | some e => exact hc
      | dismissed failure =>
          cases failure with
          | none => exact trivial
          | some e => exact hc
      | joins failure w rest first gone =>
          cases failure with
          | none => exact trivial
          | some e =>
              intro u a hu
              rw [activity?_dropFirst] at hu
              by_cases huw : u = w.thread
              · subst huw
                rw [Function.update_self] at hu
                cases hu
              · rw [Function.update_of_ne huw] at hu
                exact hc u a hu
      | _ => exact trivial

/-! ## In the background -/

/-- What a move that is no order's leaves alone. -/
structure Background (s s' : State) : Prop where
  steady : s.Steady s'
  size : s'.size = s.size
  arithmetic : s'.arithmetic = s.arithmetic
  nextWorker : s'.nextWorker = s.nextWorker
  crew : s'.crew = s.crew
  stays : ∀ u a, s.activity? u = some a → a.isLasting = true → s'.activity? u = some a
  orders : ∀ u p, s'.activity? u = some (.order p) → s.activity? u = some (.order p)
  unworked : s.monitor.contents.items = [] → s.Unworked → s'.Unworked

theorem Executes.meant {item : Item} {phase phase' : Phase}
    (h : s.Executes t item phase s₁ phase' said) :
    s₁.size = s.size ∧ s₁.arithmetic = s.arithmetic := by
  cases h <;> exact ⟨rfl, rfl⟩

theorem Works.meant {id : Nat} {p q : WorkerPoint} (h : s.Works t id p s₁ q said) :
    s₁.size = s.size ∧ s₁.arithmetic = s.arithmetic := by
  cases h with
  | executes item step => exact step.meant
  | _ => exact ⟨rfl, rfl⟩

theorem Submits.meant {item : Item} {inQueue : Bool} (h : s.Submits t item inQueue s₁ b said) :
    s₁.size = s.size ∧ s₁.arithmetic = s.arithmetic := by
  cases h <;> exact ⟨rfl, rfl⟩

theorem Frame.crew (h : s.Frame s₁) : s₁.crew = s.crew := by
  obtain ⟨f, hworkers, hf⟩ := h.workers
  simp only [State.crew]
  rw [hworkers, List.map_map]
  refine List.map_congr_left fun w _ => ?_
  exact Prod.ext (hf w).1 (hf w).2.1

/-- A step that is no order's. -/
theorem Stepped.background (hs : s.Placed) (hstep : s.Stepped t s' said)
    (hnot : ∀ p, s.activity? t ≠ some (.order p)) : s.Background s' := by
  have hunworked := fun hitems => hstep.unworked hs hitems
  have hframe : ∀ {s₁ a b}, s' = s₁.place t b → s.Frame s₁ → s.Steady s₁ →
      s₁.size = s.size ∧ s₁.arithmetic = s.arithmetic → s.activity? t = some a → a.isLasting = false → (∀ p, b ≠ .order p) → s.Background s' := by
    rintro s₁ a b rfl frame steady ⟨hsize, harithmetic⟩ here ha hb
    have hactivity := activity?_place (b := b) (frame.activity? ▸ here)
    rw [frame.activity?] at hactivity
    refine ⟨⟨steady.running, steady.opened, steady.nobody, steady.untouched, steady.empty⟩, hsize,
      harithmetic, frame.nextWorker, frame.crew, ?_, ?_, hunworked⟩
    · intro u c hu hc
      rw [hactivity, Function.update_of_ne]
      · exact hu
      · rintro rfl
        cases Option.some.inj (hu.symm.trans here)
        cases ha.symm.trans hc
    · intro u p hu
      rw [hactivity] at hu
      by_cases hut : u = t
      · subst hut
        rw [Function.update_self] at hu
        exact absurd (Option.some.inj hu) (hb p)
      · rwa [Function.update_of_ne hut] at hu
  cases hstep with
  | works here step =>
      exact hframe rfl step.frame step.steady step.meant here rfl fun _ h => nomatch h
  | submits here step =>
      refine hframe rfl step.frame step.steady step.meant here rfl ?_
      cases step <;> exact fun _ h => nomatch h
  | orders here step => exact absurd here (hnot _)

/-- A thread that begins, and is no order's. -/
theorem background_launch (hs : s.Placed) (ha : a.held = []) (hnot : ∀ p, a ≠ .order p) :
    s.Background (s.launch a) := by
  refine ⟨⟨rfl, rfl, fun hw => hw, fun _ hu => hu, fun _ hi => hi⟩, rfl, rfl, rfl, rfl, ?_, ?_, ?_⟩
  · exact fun u c hu _ => activity?_launch_of_some hs hu
  · intro u p hu
    rcases launch_cases hs hu with hu | ⟨-, heq⟩
    · exact hu
    · exact absurd heq.symm (hnot p)
  · exact fun _ hunworked => hunworked.launch hs ha

/-- A change of the registry, or of the queue's monitor that leaves the contents and what is asked. -/
theorem background_of_eq (monitor : Queue.Monitor Item) (registry : Work.Registry)
    (hasked : monitor.asked = s.monitor.asked) (hcontents : monitor.contents = s.monitor.contents) :
    s.Background { s with monitor, registry } := by
  refine ⟨⟨rfl, congrArg _ hcontents, fun hw => hw, fun _ hu => ⟨?_, ?_⟩, fun _ hi => ?_⟩, rfl, rfl,
    rfl, rfl, fun u a hu _ => hu, fun u p hu => hu, fun _ hunworked => hunworked⟩
  · exact (congrArg _ hcontents).trans hu.1
  · show ∀ u item, monitor.asked u ≠ _
    rw [hasked]
    exact hu.2
  · exact (congrArg _ hcontents).trans hi

theorem Background.situated (h : s.Background s') (hs : s.Situated) : s'.Situated := by
  refine ⟨?_, ?_, ?_⟩
  · exact fun u v p q hu hv => hs.one u v p q (h.orders u p hu) (h.orders v q hv)
  · exact fun u p hu => h.steady.fits (hs.fits u p (h.orders u p hu))
  · exact fun hnone => h.steady.settled (hs.settled fun u p hu => hnone u p (h.stays u _ hu rfl))

theorem Background.length_workers (h : s.Background s') : s'.workers.length = s.workers.length := by
  rw [← length_crew, h.crew, length_crew]

theorem Background.staffed (h : s.Background s') (hs : s.Staffed) : s'.Staffed := by
  refine ⟨?_, fun hr => ?_⟩
  · rw [h.size]
    exact hs.peopled
  · rw [h.length_workers, h.size]
    exact hs.counted (h.steady.running.symm.trans hr)

theorem Background.crewed (h : s.Background s') (hp : p.Fits s) (hc : p.Crewed s) : p.Crewed s' := by
  cases p with
  | hiring left =>
      refine ⟨?_, h.unworked hp.2.2.1 hc.2⟩
      rw [h.length_workers, h.size]
      exact hc.1
  | closing failure =>
      cases failure with
      | none => exact trivial
      | some e => exact h.unworked hp.2.2.1 hc
  | dismissing left failure =>
      cases failure with
      | none => exact trivial
      | some e => exact h.unworked hp.2.2 hc
  | joining failure =>
      cases failure with
      | none => exact trivial
      | some e => exact h.unworked hp.2.2 hc
  | _ => exact trivial

/-! ## The invariant -/

/-- What is true of every pool, even if making a worker fails. -/
structure Tended (s : State) : Prop where
  manned : ∃ notes fatal, s.Manned notes fatal
  situated : s.Situated
  staffed : s.Staffed
  crewed : ∀ t p, s.activity? t = some (.order p) → p.Crewed s

theorem Tended.placed (h : s.Tended) : s.Placed := by
  obtain ⟨notes, fatal, hmanned⟩ := h.manned
  exact hmanned.placed

theorem Tended.asking (h : s.Tended) : s.Asking := by
  obtain ⟨notes, fatal, hmanned⟩ := h.manned
  exact hmanned.asking

/-- Moves of a pool whose owner gives one order at a time. -/
inductive Advances (s : State) : Move → State → Prop
  | background {move : Move} {s' : State} (alone : s.Background s')
      (aside : ∀ t luck, move = .step t luck → ∀ p, s.activity? t ≠ some (.order p))
      (unordered : ∀ order, move ≠ .order order) : Advances s move s'
  | begins (order : Order) (idle : s.isIdle = true) : Advances s (.order order) (s.order order)
  | staffs {t : ThreadId} {luck : Luck} {p : OrderPoint} {s₁ : State} {b : Activity}
      (here : s.activity? t = some (.order p)) (step : s.Staffs t luck p s₁ b) :
      Advances s (.step t luck) (s₁.place t b)

theorem Situated.advances (h : s.Situated) (hs : s.Placed) {move : Move} (ha : s.Advances move s') :
    s'.Situated := by
  cases ha with
  | background alone aside unordered => exact alone.situated h
  | begins order idle =>
      refine h.launch hs ?_
      rintro p heq
      cases heq
      exact ⟨idle, h.settled (not_order_of_isIdle idle)⟩
  | staffs here step => exact h.order hs here step.orders

/-- Such moves, as long as the number of workers can be counted. -/
inductive Proceeds (s : State) : Move → State → Prop
  | background {move : Move} {s' : State} (alone : s.Background s')
      (aside : ∀ t luck, move = .step t luck → ∀ p, s.activity? t ≠ some (.order p))
      (unordered : ∀ order, move ≠ .order order) : Proceeds s move s'
  | begins (order : Order) (idle : s.isIdle = true) : Proceeds s (.order order) (s.order order)
  | staffs {t : ThreadId} {luck : Luck} {p : OrderPoint} {s₁ : State} {b : Activity}
      (here : s.activity? t = some (.order p)) (roomy : s.overflows luck p = false)
      (step : s.Staffs t luck p s₁ b) : Proceeds s (.step t luck) (s₁.place t b)

theorem Proceeds.advances {move : Move} (h : s.Proceeds move s') : s.Advances move s' := by
  cases h with
  | background alone aside unordered => exact .background alone aside unordered
  | begins order idle => exact .begins order idle
  | staffs here roomy step => exact .staffs here step

/-- A growth that goes on can be counted. -/
theorem Proceeds.roomy (h : s.Proceeds (.step t luck) s') (here : s.activity? t = some (.order p)) :
    s.overflows luck p = false := by
  cases h with
  | background alone aside unordered => exact absurd here (aside t luck rfl p)
  | staffs there roomy step =>
      cases Option.some.inj (here.symm.trans there)
      exact roomy

/-- A pool that is tended stays so. -/
theorem Tended.proceeds (h : s.Tended) {move : Move} (hp : s.Proceeds move s')
    (hmanned : ∃ notes fatal, s'.Manned notes fatal) : s'.Tended := by
  have hsituated := h.situated.advances h.placed hp.advances
  cases hp with
  | background alone aside unordered =>
      refine ⟨hmanned, hsituated, alone.staffed h.staffed, fun u p hu => ?_⟩
      have here := alone.orders u p hu
      exact alone.crewed (h.situated.fits u p here) (h.crewed u p here)
  | begins order idle =>
      have hnone := not_order_of_isIdle idle
      refine ⟨hmanned, hsituated, ⟨h.staffed.peopled, h.staffed.counted⟩, fun u p hu => ?_⟩
      rcases launch_cases h.placed hu with hu | ⟨-, heq⟩
      · exact absurd hu (hnone u p)
      · cases heq
        exact trivial
  | @staffs t luck p s₁ b here roomy step =>
      have hfits := h.situated.fits t p here
      have hcrewed := h.crewed t p here
      have hstaffed := step.staffed hfits h.staffed hcrewed roomy
      have here₁ := (step.orders.placed h.placed here).2
      refine ⟨hmanned, hsituated, ⟨hstaffed.peopled, hstaffed.counted⟩, fun u q hu => ?_⟩
      by_cases hut : u = t
      · subst hut
        rw [activity?_place here₁, Function.update_self] at hu
        obtain rfl := Option.some.inj hu
        have hq := step.crewed h.placed hfits hcrewed
        have hplace : s₁.Unworked → (s₁.place u (.order q)).Unworked :=
          fun hunworked => hunworked.place here₁ rfl
        cases q with
        | hiring left => exact ⟨hq.1, hplace hq.2⟩
        | closing failure | joining failure =>
            cases failure with
            | none => exact trivial
            | some e => exact hplace hq
        | dismissing left failure =>
            cases failure with
            | none => exact trivial
            | some e => exact hplace hq
        | _ => exact trivial
      · exact absurd hu (h.situated.alone h.placed here step.orders hut)

end State

end PooledServer.Pool
