import PooledServer.Proofs.Pool.Callers
import PooledServer.Proofs.Pool.Setbacks

/-!
# A pool and its owner

    An owner makes a pool, starts it, waits for what the start returns, and stops the pool when it is no
    longer wanted.  It never lets the pool grow, and gives no other orders.

    A start of a new pool goes through `State.Starts`: it returns with the pool running and fully staffed,
    or with an error and all its workers joined, and it can always return.  A stop of a running pool goes
    through `State.Stops` and leaves it shut.  When the owner has collected what an order has returned,
    the pool is as before without the order's thread. -/

namespace PooledServer.Pool

open Work (Item Note)

/-- The order is a growth. -/
def OrderPoint.isGrowth : OrderPoint → Bool
  | .begun (.grow _) | .growing _ => true
  | _ => false

/-- A stop that has turned the flag off. -/
def OrderPoint.isStopping : OrderPoint → Bool
  | .measuring | .draining | .closing none | .dismissing _ none | .joining none => true
  | _ => false

namespace State

variable {s s' s₁ : State} {t u : ThreadId} {luck : Luck} {p q : OrderPoint} {a b : Activity}
  {annals annals' : Annals} {move : Move} {moves : List Move} {new : List Note} {size : UInt64}
  {result : Result} {outcome : Except PoolError Unit}

/-! ## What an order has returned is collected -/

theorem Manned.collect {notes : List Note} {fatal : List Item} (hs : s.Manned notes fatal)
    (h : s.collect t = some (result, s')) : s'.Manned notes fatal := by
  have hplaced := hs.placed.collect h
  have hasking := hs.asking.collect h
  have hback := fun u a => activity?_of_collect (u := u) (a := a) h
  obtain ⟨here, rfl⟩ := collect_eq h
  have hgather := gather_remove (f := Activity.held) hs.placed.distinct here
  refine ⟨hplaced, hasking, hs.guarded, ?_, ?_, hs.thrown, hs.executed, ?_, ?_⟩
  · exact fun u e hu => hs.hosted u e (hback _ _ hu).1
  · exact fun u id p hu => hs.told u id p (hback _ _ hu).1
  · rw [hs.handed, ← hgather]
    exact congrArg (_ + · + _) (add_zero _)
  · exact fun u id p hu hout => hs.out u id p (hback _ _ hu).1 hout

theorem Tended.collect (hs : s.Tended) (h : s.collect t = some (result, s')) : s'.Tended := by
  have hstays := fun u a => activity?_collect_of_ne (u := u) (a := a) h
  have hback := fun u a => activity?_of_collect (u := u) (a := a) h
  obtain ⟨notes, fatal, hmanned⟩ := hs.manned
  have hmanned' : ∃ notes fatal, s'.Manned notes fatal := ⟨_, _, hmanned.collect h⟩
  obtain ⟨-, rfl⟩ := collect_eq h
  -- only a thread is gone
  have hsteady : s.Steady { s with threads := s.threads.filter (·.id != t) } :=
    ⟨rfl, rfl, fun hw => hw, fun _ hu => hu, fun _ hi => hi⟩
  have hunworked : s.Unworked →
      State.Unworked { s with threads := s.threads.filter (·.id != t) } :=
    fun hall u a hu => hall u a (hback _ _ hu).1
  refine ⟨hmanned', ⟨?_, ?_, ?_⟩, ⟨hs.staffed.peopled, hs.staffed.counted⟩, ?_⟩
  · exact fun u v p q hu hv => hs.situated.one u v p q (hback _ _ hu).1 (hback _ _ hv).1
  · exact fun u p hu => hsteady.fits (hs.situated.fits u p (hback _ _ hu).1)
  · exact fun hnone => hsteady.settled (hs.situated.settled fun u p hu =>
      hnone u p (hstays _ _ hu fun heq => nomatch heq))
  · intro u p hu
    have hcrewed := hs.crewed u p (hback _ _ hu).1
    cases p with
    | hiring left => exact ⟨hcrewed.1, hunworked hcrewed.2⟩
    | closing failure | joining failure =>
        cases failure with
        | none => exact trivial
        | some e => exact hunworked hcrewed
    | dismissing left failure =>
        cases failure with
        | none => exact trivial
        | some e => exact hunworked hcrewed
    | _ => exact trivial

/-! ## A pool that does not grow -/

theorem overflows_of_isGrowth (hp : p.isGrowth = false) : s.overflows luck p = false := by
  cases p with
  | begun order =>
      cases order with
      | grow count => cases hp
      | start | stop => rfl
  | growing left => cases hp
  | _ => rfl

/-- Only growths change the number of workers that the pool is meant to have. -/
theorem Staffs.ungrown (h : s.Staffs t luck p s₁ b) (hp : p.isGrowth = false) :
    s₁.size = s.size ∧ ∀ q, b = .order q → q.isGrowth = false := by
  have hnext : ∀ {point : OrderPoint}, point.isGrowth = false →
      ∀ q, Activity.order point = .order q → q.isGrowth = false := by
    rintro point hpoint q heq
    cases heq
    exact hpoint
  cases h with
  | grows | plans | overplans | adds | outgrows | stunted => cases hp
  | hires left made => exact ⟨rfl, hnext rfl⟩
  | givesUp left e monitor failed called => exact ⟨rfl, hnext rfl⟩
  | carriesOn plain step =>
      cases step with
      | grows | plans | overplans | growsBy | outgrows | stunted | grown => cases hp
      | startsNothing | stopsNothing | mayNot | opens | joined => exact ⟨rfl, fun _ heq => nomatch heq⟩
      | _ => exact ⟨rfl, hnext rfl⟩

/-- The pool is tended, its annals are true, and it is meant to have `size` workers as ever. -/
structure Kept (s : State) (annals : Annals) (size : UInt64) : Prop where
  tended : s.Tended
  recorded : s.Recorded annals
  size : s.size = size
  ungrown : ∀ t p, s.activity? t = some (.order p) → p.isGrowth = false

/-- **A POOL IS KEPT** by all that happens but orders of its owner. -/
theorem Kept.goes (h : s.Kept annals size) (hregular : move.isRegular = true)
    (hnot : ∀ order, move ≠ .order order) (hmove : s.move move = some (s', new)) :
    s.Proceeds move s' ∧ s'.Kept (s.record annals move) size := by
  have hallows : s.allows move = true := by
    refine Bool.and_eq_true_iff.mpr ⟨hregular, ?_⟩
    cases move with
    | step t luck =>
        simp only
        split
        · rename_i p here
          rw [overflows_of_isGrowth (h.ungrown t p here)]
          rfl
        · rfl
    | order order => exact absurd rfl (hnot order)
    | _ => rfl
  obtain ⟨hproceeds, hmanned⟩ := proceeds_of_move h.tended hallows hmove
  refine ⟨hproceeds, h.tended.proceeds hproceeds hmanned, h.recorded.proceeds hproceeds, ?_, ?_⟩
  · cases hproceeds with
    | background alone aside unordered => exact alone.size.trans h.size
    | begins order idle => exact absurd rfl (hnot order)
    | staffs here roomy step => exact (step.ungrown (h.ungrown _ _ here)).1.trans h.size
  · intro u p hu
    cases hproceeds with
    | background alone aside unordered => exact h.ungrown u p (alone.orders u p hu)
    | begins order idle => exact absurd rfl (hnot order)
    | @staffs t luck q s₁ b here roomy step =>
        by_cases hut : u = t
        · subst hut
          rw [activity?_place (step.orders.placed h.tended.placed here).2, Function.update_self] at hu
          exact (step.ungrown (h.ungrown u q here)).2 p (Option.some.inj hu)
        · exact absurd hu (h.tended.situated.alone h.tended.placed here step.orders hut)

theorem Kept.order (h : s.Kept annals size) (hidle : s.isIdle = true) {order : Order}
    (hnot : ∀ count, order ≠ .grow count) : (s.order order).Kept annals size := by
  refine ⟨h.tended.order hidle order, ⟨h.recorded.numbered, h.recorded.started, h.recorded.listed⟩,
    h.size, ?_⟩
  intro u p hu
  rcases launch_cases h.tended.placed hu with hu | ⟨-, heq⟩
  · exact h.ungrown u p hu
  · cases heq
    cases order with
    | grow count => exact absurd rfl (hnot count)
    | start | stop => rfl

theorem Kept.collect (h : s.Kept annals size) (hcollect : s.collect t = some (result, s')) :
    s'.Kept annals size := by
  have htended := h.tended.collect hcollect
  have hback := fun u a => activity?_of_collect (u := u) (a := a) hcollect
  obtain ⟨-, rfl⟩ := collect_eq hcollect
  exact ⟨htended, ⟨h.recorded.numbered, h.recorded.started, h.recorded.listed⟩, h.size,
    fun u p hu => h.ungrown u p (hback _ _ hu).1⟩

/-- The thread of an order that begins stands at its beginning. -/
theorem activity?_order (hs : s.Placed) (order : Order) :
    (s.order order).activity? s.nextThread = some (.order (.begun order)) := by
  simp only [State.order]
  rw [activity?_launch hs, Function.update_self]

/-- A pool that runs, while no order is under way. -/
structure InService (s : State) (annals : Annals) (size : UInt64) : Prop where
  kept : s.Kept annals size
  running : s.running = true
  idle : ∀ t p, s.activity? t ≠ some (.order p)

theorem InService.goes (h : s.InService annals size) (hregular : move.isRegular = true)
    (hnot : ∀ order, move ≠ .order order) (hmove : s.move move = some (s', new)) :
    s'.InService (s.record annals move) size := by
  obtain ⟨hproceeds, hkept⟩ := h.kept.goes hregular hnot hmove
  cases hproceeds with
  | background alone aside unordered =>
      exact ⟨hkept, alone.steady.running.trans h.running, fun u p hu => h.idle u p (alone.orders u p hu)⟩
  | begins order idle => exact absurd rfl (hnot order)
  | staffs here roomy step => exact absurd here (h.idle _ _)

theorem isIdle_of_not_order (hs : s.Placed) (hidle : ∀ t p, s.activity? t ≠ some (.order p)) :
    s.isIdle = true := by
  refine List.all_eq_true.mpr fun th hth => ?_
  have hactivity := activity?_of_mem hs.distinct hth
  cases horder : th.activity with
  | order p => exact absurd (hactivity.trans (congrArg some horder)) (hidle _ p)
  | _ => rfl

/-- A new pool is kept; nobody works in it and nobody has touched its queue. -/
theorem kept_create {name : String} {faults faults' : Sync.Faults} {arithmetic : Arithmetic}
    {made : List Note} (h : create name size faults arithmetic = (made, faults', .ok s)) :
    s.Kept {} size ∧ s.workers = [] ∧ s.Fresh ∧ s.isIdle = true := by
  have htended := tended_create h
  obtain ⟨queueName, mutexName, rfl⟩ := create_eq h
  exact ⟨⟨htended, ⟨rfl, rfl, List.Sublist.refl _⟩, rfl, fun _ _ hu => nomatch hu⟩, rfl,
    ⟨rfl, rfl, rfl, fun _ _ hasked => nomatch hasked⟩, rfl⟩

/-! ## A start -/

/-- Thread `t` carries out the start of a new pool, or has returned. -/
inductive Starts (s : State) (t : ThreadId) : Prop
  | begun (here : s.activity? t = some (.order (.begun .start))) (nobody : s.workers = [])
      (fresh : s.Fresh)
  | asking (here : s.activity? t = some (.order .asking)) (nobody : s.workers = []) (fresh : s.Fresh)
  | hiring (left : Nat) (here : s.activity? t = some (.order (.hiring left)))
  | fails (e : PoolError) (h : s.FailsWith t e)
  | returned (here : s.activity? t = some (.finished (.ordered (.ok ())))) (running : s.running = true)
      (idle : ∀ u p, s.activity? u ≠ some (.order p))

/-- A start of a new pool begins. -/
theorem Kept.starts (h : s.Kept annals size) (hnobody : s.workers = []) (hfresh : s.Fresh)
    (hidle : s.isIdle = true) :
    (s.order .start).Kept annals size ∧ (s.order .start).Starts s.nextThread :=
  ⟨h.order hidle fun _ => Order.noConfusion, .begun (activity?_order h.tended.placed .start) hnobody hfresh⟩

/-- What the thread of a start comes to with one step of its own. -/
theorem Starts.staffs (h : s.Tended) (hstarts : s.Starts t) (here : s.activity? t = some (.order p))
    (step : s.Staffs t luck p s₁ b) : (s₁.place t b).Starts t := by
  have hself : (s₁.place t b).activity? t = some b := by
    rw [activity?_place (step.orders.placed h.placed here).2, Function.update_self]
  cases hstarts with
  | begun there nobody fresh =>
      cases Option.some.inj (here.symm.trans there)
      cases step with
      | carriesOn plain step =>
          cases step with
          | startsNothing welcome => cases welcome.symm.trans fresh.1
          | inquires monitor closed called =>
              have hcontents := (Queue.Monitor.asked_call called).2
              exact .asking hself nobody ⟨closed, (congrArg _ hcontents).trans fresh.2.1,
                untouched_of_call called (fun _ heq => nomatch heq) fresh.2.2⟩
  | asking there nobody fresh =>
      cases Option.some.inj (here.symm.trans there)
      cases step with
      | carriesOn plain step =>
          cases step with
          | mayStart monitor answered => exact .hiring _ hself
          | mayNot monitor answered =>
              cases (Queue.Answer.flag.inj answered.isRunning.1).trans fresh.2.1
  | hiring left there =>
      cases Option.some.inj (here.symm.trans there)
      cases step with
      | hires left made => exact .hiring left hself
      | givesUp left e monitor failed called => exact .fails e (Or.inl hself)
      | carriesOn plain step =>
          have orders := step
          cases step with
          | opens =>
              exact .returned hself rfl fun u q =>
                h.situated.over h.placed here orders fun _ heq => nomatch heq
          | hires | givesUp => cases plain
  | fails e hfails =>
      refine .fails e (hfails.proceeds h (.staffs here ?_ step))
      have hp : p.isGrowth = false := by
        rcases hfails with there | ⟨left, there⟩ | there | ⟨there, -⟩ <;>
          cases Option.some.inj (here.symm.trans there) <;> rfl
      exact overflows_of_isGrowth hp
  | returned there running idle => exact absurd here (idle t p)

/-- **A START GOES ON AS IT SHOULD**. -/
theorem Starts.proceeds (h : s.Tended) (hstarts : s.Starts t) (hp : s.Proceeds move s')
    (hnot : ∀ order, move ≠ .order order) : s'.Starts t := by
  cases hp with
  | background alone aside unordered =>
      cases hstarts with
      | begun here nobody fresh =>
          exact .begun (alone.stays t _ here rfl) (alone.steady.nobody nobody) (alone.steady.fresh fresh)
      | asking here nobody fresh =>
          exact .asking (alone.stays t _ here rfl) (alone.steady.nobody nobody)
            (alone.steady.fresh fresh)
      | hiring left here => exact .hiring left (alone.stays t _ here rfl)
      | fails e hfails => exact .fails e (hfails.proceeds h (.background alone aside unordered))
      | returned here running idle =>
          exact .returned (alone.stays t _ here rfl) (alone.steady.running.trans running)
            fun u p hu => idle u p (alone.orders u p hu)
  | begins order idle => exact absurd rfl (hnot order)
  | @staffs u luck p s₁ b here roomy step =>
      have hone : ∀ q, s.activity? t = some (.order q) → t = u := fun q there =>
        h.situated.one t u q p there here
      cases hstarts with
      | fails e hfails => exact .fails e (hfails.proceeds h (.staffs here roomy step))
      | returned there running idle => exact absurd here (idle u p)
      | begun there nobody fresh =>
          obtain rfl := hone _ there
          exact Starts.staffs h (.begun there nobody fresh) here step
      | asking there nobody fresh =>
          obtain rfl := hone _ there
          exact Starts.staffs h (.asking there nobody fresh) here step
      | hiring left there =>
          obtain rfl := hone _ there
          exact Starts.staffs h (.hiring left there) here step

/-- A start that has failed has left the pool shut, with all its workers joined. -/
theorem Starts.shut (hstarts : s.Starts t) {e : PoolError}
    (here : s.activity? t = some (.finished (.ordered (.error e)))) : s.Shut := by
  cases hstarts with
  | begun there | asking there | hiring left there => cases here.symm.trans there
  | returned there running idle => cases here.symm.trans there
  | fails e' hfails =>
      rcases hfails with there | ⟨left, there⟩ | there | ⟨-, hshut⟩
      · cases here.symm.trans there
      · cases here.symm.trans there
      · cases here.symm.trans there
      · exact hshut

/-- A start that has succeeded has left the pool running. -/
theorem Starts.running (hstarts : s.Starts t)
    (here : s.activity? t = some (.finished (.ordered (.ok ())))) :
    s.running = true ∧ ∀ u p, s.activity? u ≠ some (.order p) := by
  cases hstarts with
  | begun there | asking there | hiring left there => cases here.symm.trans there
  | returned there running idle => exact ⟨running, idle⟩
  | fails e hfails =>
      rcases hfails with there | ⟨left, there⟩ | there | ⟨there, -⟩ <;> cases here.symm.trans there

/-- When a start that has succeeded is collected the pool is in service. -/
theorem Starts.inService (hstarts : s.Starts t) (h : s.Kept annals size)
    (hcollect : s.collect t = some (.ordered (.ok ()), s')) : s'.InService annals size := by
  obtain ⟨hrunning, hidle⟩ := hstarts.running (collect_eq hcollect).1
  refine ⟨h.collect hcollect, ?_, fun u p hu => hidle u p (activity?_of_collect hcollect hu).1⟩
  obtain ⟨-, rfl⟩ := collect_eq hcollect
  exact hrunning

/-- What a start returns is the outcome of the order. -/
theorem Starts.ordered (hstarts : s.Starts t) (here : s.activity? t = some (.finished result)) :
    ∃ outcome, result = .ordered outcome := by
  cases hstarts with
  | begun there | asking there | hiring left there => cases here.symm.trans there
  | returned there running idle =>
      cases here.symm.trans there
      exact ⟨_, rfl⟩
  | fails e hfails =>
      rcases hfails with there | ⟨left, there⟩ | there | ⟨there, -⟩ <;> cases here.symm.trans there
      exact ⟨_, rfl⟩

/-! ## A start returns -/

/-- Thread `t` can go on until it has returned, without any further order. -/
def Returns (s : State) (annals : Annals) (t : ThreadId) : Prop :=
  ∃ moves s' annals' outcome, s.career annals moves = some (s', annals') ∧
    (∀ order, Move.order order ∉ moves) ∧ s'.activity? t = some (.finished (.ordered outcome))

theorem returns_of_finished (here : s.activity? t = some (.finished (.ordered outcome))) :
    s.Returns annals t :=
  ⟨[], s, annals, outcome, rfl, fun _ => List.not_mem_nil, here⟩

theorem FailsWith.returns (h : s.Tended) {e : PoolError} (hf : s.FailsWith t e) :
    s.Returns annals t := by
  obtain ⟨moves, s', annals', hcareer, hsteps, hreturned⟩ := hf.exists_career h annals
  exact ⟨moves, s', annals', _, hcareer, hsteps, hreturned⟩

/-- An order that waits for nobody takes a step, and returns if it does so from there. -/
theorem returns_of_step (h : s.Tended) (here : s.activity? t = some (.order p))
    (hwait : p.mayWait = false) (hgrowth : p.isGrowth = false)
    (hnext : ∀ s₁ b annals, s.Staffs t (s.goodLuck t) p s₁ b → (s₁.place t b).Tended →
      (s₁.place t b).activity? t = some b → (s₁.place t b).Returns annals t) :
    s.Returns annals t := by
  obtain ⟨s', said, -, hproceeds, hs', hcareer⟩ :=
    exists_move_of_canGo h (h.asking.canGo_of_order here hwait) fun q hq => by
      cases Option.some.inj (here.symm.trans hq)
      exact overflows_of_isGrowth hgrowth
  cases hproceeds with
  | background alone aside unordered => exact absurd here (aside _ _ rfl _)
  | staffs there roomy step =>
      cases Option.some.inj (here.symm.trans there)
      have hself := activity?_place (b := ‹Activity›) (step.orders.placed h.placed here).2
      obtain ⟨moves, s'', annals', outcome, hrest, hsteps, hreturned⟩ :=
        hnext _ _ (s.record annals _) step hs' (by rw [hself, Function.update_self])
      exact ⟨_ :: moves, s'', annals', outcome, (hcareer annals moves).trans hrest,
        not_order_of_step hsteps, hreturned⟩

theorem returns_of_hiring (h : s.Tended) {left : Nat}
    (here : s.activity? t = some (.order (.hiring left))) : s.Returns annals t := by
  -- with every step one worker less is left to make
  induction left generalizing s annals with
  | zero =>
      refine returns_of_step h here rfl rfl fun s₁ b annals step hs₁ hself => ?_
      cases step with
      | carriesOn plain step =>
          cases step with
          | opens => exact returns_of_finished hself
  | succ left ih =>
      refine returns_of_step h here rfl rfl fun s₁ b annals step hs₁ hself => ?_
      cases step with
      | hires left made => exact ih hs₁ hself
      | givesUp left e monitor failed called => exact FailsWith.returns hs₁ (e := e) (Or.inl hself)
      | carriesOn plain step => cases plain

/-- **A START CAN ALWAYS RETURN**. -/
theorem Starts.returns (h : s.Tended) (hstarts : s.Starts t) : s.Returns annals t := by
  have hasking : ∀ {s : State} {annals : Annals}, s.Tended →
      s.activity? t = some (.order .asking) → s.Returns annals t := by
    intro s annals h here
    refine returns_of_step h here rfl rfl fun s₁ b annals step hs₁ hself => ?_
    cases step with
    | carriesOn plain step =>
        cases step with
        | mayStart monitor answered => exact returns_of_hiring hs₁ hself
        | mayNot monitor answered => exact returns_of_finished hself
  cases hstarts with
  | begun here nobody fresh =>
      refine returns_of_step h here rfl rfl fun s₁ b annals step hs₁ hself => ?_
      cases step with
      | carriesOn plain step =>
          cases step with
          | startsNothing welcome => exact returns_of_finished hself
          | inquires monitor closed called => exact hasking hs₁ hself
  | asking here nobody fresh => exact hasking h here
  | hiring left here => exact returns_of_hiring h here
  | fails e hfails => exact hfails.returns h
  | returned here running idle => exact returns_of_finished here

/-! ## A stop -/

/-- Thread `t` carries out the stop of a running pool, or has returned. -/
inductive Stops (s : State) (t : ThreadId) : Prop
  | begun (measures : Bool) (here : s.activity? t = some (.order (.begun (.stop measures))))
      (running : s.running = true)
  | underWay (p : OrderPoint) (here : s.activity? t = some (.order p)) (stopping : p.isStopping = true)
  | returned (here : s.activity? t = some (.finished (.ordered (.ok ())))) (shut : s.Shut)

/-- A stop of a pool in service begins. -/
theorem InService.stops (h : s.InService annals size) (measures : Bool) :
    (s.order (.stop measures)).Kept annals size ∧
      (s.order (.stop measures)).Stops s.nextThread := by
  have hplaced := h.kept.tended.placed
  have hidle := isIdle_of_not_order hplaced h.idle
  exact ⟨h.kept.order hidle fun _ => Order.noConfusion,
    .begun measures (activity?_order hplaced _) h.running⟩

/-- **A STOP GOES ON AS IT SHOULD**. -/
theorem Stops.proceeds (h : s.Tended) (hstops : s.Stops t) (hp : s.Proceeds move s') :
    s'.Stops t := by
  cases hstops with
  | begun measures here running =>
      rcases hp.follow h here rfl with ⟨hstays, hback⟩ | ⟨luck, p, s₁, b, heq, -, -, -, step, hb⟩
      · exact .begun measures hstays ((hback _ rfl).steady.running.trans running)
      · cases heq
        cases step with
        | carriesOn plain step =>
            cases step with
            | stopsNothing measures closed nobody => cases closed.symm.trans running
            | measures | drains => exact .underWay _ hb rfl
  | underWay p here stopping =>
      rcases hp.follow h here rfl with ⟨hstays, -⟩ | ⟨luck, q, s₁, b, heq, rfl, -, -, step, hb⟩
      · exact .underWay p hstays stopping
      · cases heq
        cases step with
        | carriesOn plain step =>
            cases step with
            | measured | waits | drained => exact .underWay _ hb rfl
            | closes failure | dismisses id left failure | dismissed failure
            | joins failure w rest first gone =>
                cases failure with
                | none => exact .underWay _ hb rfl
                | some e => cases stopping
            | joined failure nobody =>
                cases failure with
                | none => exact .returned hb ⟨h.situated.fits t _ here, nobody⟩
                | some e => cases stopping
            | _ => cases stopping
        | _ => cases stopping
  | returned here shut =>
      rcases hp.follow h here rfl with ⟨hstays, -⟩ | ⟨luck, p, s₁, b, heq, -⟩
      · exact .returned hstays (shut.proceeds h hp)
      · cases heq

/-- A stop that has returned has left the pool shut. -/
theorem Stops.shut (hstops : s.Stops t) (here : s.activity? t = some (.finished result)) : s.Shut := by
  cases hstops with
  | begun measures there running => cases here.symm.trans there
  | underWay p there stopping => cases here.symm.trans there
  | returned there shut => exact shut

/-- All threads that a pool without workers has ever started have been joined. -/
theorem Recorded.joined (h : s.Recorded annals) (hnobody : s.workers = []) :
    annals.joined = annals.started := by
  rw [h.started]
  simp only [crew]
  rw [hnobody, List.map_nil, List.append_nil]

end State

end PooledServer.Pool
