import PooledServer.Proofs.CommandLine.Stages

/-!
# Schedules of a stress test

    Whatever the schedule is, every move of a run keeps to the stages (`Run.Sound`), and some move can be
    made until the main thread is at its end.  Then the pool is shut, and a pool that is shut has
    executed every accepted task once.  What the report tells are sums over these tasks, in which their
    order does not matter (`Run.report_agrees`). -/

namespace PooledServer.CommandLine.PoolStress

open Work (Item Note Fate TaskId)
open Pool (State WorkerPoint OrderPoint Activity Luck)

variable {p : Plan} {stage : Stage} {s s' : State} {t : ThreadId} {i n : Nat} {notes new : List Note}
  {result : Pool.Result} {measures : Bool} {r r' : Run} {m : Move} {moves : List Move}

/-! ## Between two calls -/

/-- The pool while the main thread makes no call and `n` tasks have been accepted. -/
structure Between (p : Plan) (n : Nat) (s : State) (notes : List Note) : Prop where
  stressed : Stressed s p.first notes
  size : s.size = p.workers
  crew : s.nextWorker ≤ p.workers.toNat
  workers : 0 < s.workers.length
  nobody : ∀ u a, s.activity? u = some a → a.worker? ≠ none
  number : s.registry.nextId = p.first + n
  accepted : accepted notes = p.items n

/-- The call that has returned was the only one. -/
theorem Tested.nobody (h : Tested p stage s notes) (ht : stage.thread? = some t)
    (hcollect : s.collect t = some (result, s')) :
    ∀ u a, s'.activity? u = some a → a.worker? ≠ none := by
  intro u a hu hrole
  obtain ⟨hu, hne⟩ := State.activity?_of_collect hcollect hu
  exact hne (Option.some.inj ((h.alone u a hu hrole).symm.trans ht))

theorem Tested.started (h : Tested p (.starting t) s notes)
    (hcollect : s.collect t = some (result, s')) :
    result = .ordered (.ok ()) ∧ Between p 0 s' notes := by
  have hstressed := h.stressed.collect hcollect
  have hnobody := h.nobody rfl hcollect
  obtain ⟨here, rfl⟩ := State.collect_eq hcollect
  obtain ⟨hnumber, hnone, a, ha, hstart⟩ := h.fits
  cases here.symm.trans ha
  cases result with
  | ordered outcome =>
      cases outcome with
      | ok done =>
          refine ⟨rfl, hstressed, h.size, h.crew, hstart.1, hnobody, ?_, hnone⟩
          show s.registry.nextId = p.first
          rw [hnumber, hstart.2, h.size]
          rfl
      | error e => exact hstart.elim
  | _ => exact hstart.elim

theorem Tested.submitted (h : Tested p (.submitting i t) s notes)
    (hcollect : s.collect t = some (result, s')) :
    (∃ item, result = .submitted item true) ∧ i < p.tasks.toNat ∧ Between p (i + 1) s' notes := by
  have hstressed := h.stressed.collect hcollect
  have hnobody := h.nobody rfl hcollect
  obtain ⟨here, rfl⟩ := State.collect_eq hcollect
  obtain ⟨hi, hworkers, hnumber, a, ha, hsubmit⟩ := h.fits
  cases here.symm.trans ha
  cases result with
  | submitted item ok =>
      cases ok with
      | true => exact ⟨⟨item, rfl⟩, hi, hstressed, h.size, h.crew, hworkers, hnobody, hnumber, hsubmit⟩
      | false => exact hsubmit.elim
  | _ => exact hsubmit.elim

theorem Tested.stopped (h : Tested p (.stopping t) s notes)
    (hcollect : s.collect t = some (result, s')) : Tested p (.ended none) s' notes := by
  have hstressed := h.stressed.collect hcollect
  have hnobody := h.nobody rfl hcollect
  obtain ⟨here, rfl⟩ := State.collect_eq hcollect
  obtain ⟨hids, a, ha, hstop⟩ := h.fits
  cases here.symm.trans ha
  refine ⟨hstressed, h.size, h.crew, fun u a hu hrole => absurd hrole (hnobody u a hu), hids, ?_⟩
  cases result with
  | ordered outcome =>
      cases outcome with
      | ok done => exact hstop
      | error e => exact hstop.elim
  | _ => exact hstop.elim

/-- Between two calls nothing is being submitted. -/
theorem Between.pending (h : Between p n s notes) :
    ∀ th ∈ s.threads, th.activity.pending = [] := by
  intro th hth
  have here : s.activity? th.id = some th.activity :=
    State.activity?_of_mem h.stressed.sane.placed.distinct hth
  cases hrole : th.activity.worker? with
  | none => exact absurd hrole (h.nobody _ _ here)
  | some id =>
      obtain ⟨q, hq⟩ := Pool.Activity.worker?_eq_some hrole
      rw [hq] at here ⊢
      have hq := h.stressed.working _ id q here
      cases q with
      | executing e =>
          obtain ⟨item, phase⟩ := e
          cases phase with
          | offering => cases hq.2.2
          | _ => rfl
      | _ => rfl

/-- The item of the next task may be submitted: it is new, and nothing is being submitted. -/
theorem Between.maySubmit (h : Between p n s notes) {registry : Work.Registry}
    (hnumber : registry.nextId = p.first + n + 1) (hfits : registry.fits (p.item n) = true) :
    State.maySubmit { s with registry } notes (p.item n) = true := by
  -- the items of the tasks before have smaller numbers
  have hfresh : (p.item n).id ∉ Fate.accepted.met (Note.fates notes) := by
    rw [show Fate.accepted.met (Note.fates notes) = p.items n from h.accepted]
    intro hmem
    obtain ⟨k, hk, heq⟩ := List.mem_map.mp hmem
    exact Nat.ne_of_lt (List.mem_range.mp hk) (Nat.add_left_cancel heq)
  have hmade : (p.item n).id < registry.nextId := by
    rw [hnumber]
    exact Nat.lt_succ_self _
  have hpending : s.threads.all (fun th => !th.activity.pending.contains (p.item n).id) = true := by
    refine List.all_eq_true.mpr fun th hth => ?_
    rw [h.pending th hth]
    rfl
  simp only [State.maySubmit]
  rw [hfits, decide_eq_true hmade, hpending]
  simpa using hfresh

/-- The next task may be submitted. -/
theorem Between.submit (h : Between p n s notes) (hn : n < p.tasks.toNat) :
    Tested p (.submitting n s.nextThread)
      (State.submit { s with registry := (s.registry.make (job n)).2 } (s.registry.make (job n)).1)
      notes := by
  have hsane := h.stressed.sane
  have hitem : (s.registry.make (job n)).1 = p.item n := by
    show (⟨s.registry.nextId, job n, none⟩ : Item) = ⟨p.first + n, job n, none⟩
    rw [h.number]
  have hnumber : (s.registry.make (job n)).2.nextId = p.first + n + 1 := congrArg (· + 1) h.number
  obtain ⟨hprecedes, hfits⟩ := s.registry.make_fits (job n) rfl hsane.calm.tasks
  have hmade : State.Sane { s with registry := (s.registry.make (job n)).2 } notes :=
    hsane.registry hprecedes fun task htask hbusy => s.registry.busy_of_make (job n) htask hbusy
  rw [hitem] at hfits ⊢
  have hsubmitted := hmade.submit (h.maySubmit hnumber hfits)
  refine ⟨(h.stressed.of_eq hmade rfl rfl rfl).launch hsubmitted rfl, h.size, h.crew, ?_, hn, h.workers,
    hnumber, .submission (p.item n) false, ?_, rfl, h.accepted⟩
  · intro u a hu hrole
    rcases State.launch_cases hmade.placed hu with hu | ⟨rfl, -⟩
    · exact absurd hrole (h.nobody u a hu)
    · rfl
  · rw [State.submit, State.activity?_launch hmade.placed]
    exact Function.update_self ..

/-- When all tasks have been accepted the pool may be stopped. -/
theorem Between.stop (h : Between p p.tasks.toNat s notes) (measures : Bool) :
    Tested p (.stopping s.nextThread) (s.order (.stop measures)) notes := by
  have hsane := h.stressed.sane
  have hnot : ∀ u q, s.activity? u ≠ some (.order q) := fun u q hu => h.nobody u _ hu rfl
  have hidle : s.isIdle = true := by
    refine List.all_eq_true.mpr fun th hth => ?_
    have here := State.activity?_of_mem (a := th.activity) hsane.placed.distinct hth
    cases hactivity : th.activity with
    | order q => exact absurd (hactivity ▸ here) (hnot th.id q)
    | _ => rfl
  have hworkers : s.workers ≠ [] := List.ne_nil_of_length_pos h.workers
  have hopen : s.Open := by
    rcases hsane.orderly.settled hnot with ho | ⟨hw, -⟩
    · exact ho
    · exact absurd hw hworkers
  refine ⟨h.stressed.launch (hsane.order hidle) rfl, h.size, h.crew, ?_, h.accepted, ?_⟩
  · intro u a hu hrole
    rcases State.launch_cases hsane.placed hu with hu | ⟨rfl, -⟩
    · exact absurd hrole (h.nobody u a hu)
    · rfl
  · refine ⟨.order (.begun (.stop measures)), ?_, hopen.1, hworkers⟩
    rw [State.order, State.activity?_launch hsane.placed]
    exact Function.update_self ..

/-! ## Runs -/

/-- A run of plan `p`, after `notes`. -/
structure Run.Sound (p : Plan) (r : Run) (notes : List Note) : Prop where
  plan : r.plan = p
  tested : Tested p r.stage r.pool notes
  tally : r.tally = p.blank.addAll p.spin notes
  welcome : r.refused = false

/-- The main thread makes its next call. -/
theorem sound_goOn (hplan : r.plan = p) (htally : r.tally = p.blank.addAll p.spin notes)
    (hwelcome : r.refused = false) (hbetween : Between p n r.pool notes) (hle : n ≤ p.tasks.toNat) :
    (r.goOn n).Sound p notes := by
  subst hplan
  simp only [Run.goOn]
  split
  · rename_i hn
    exact ⟨rfl, hbetween.submit hn, htally, hwelcome⟩
  · rename_i hn
    obtain rfl := Nat.le_antisymm hle (Nat.not_lt.mp hn)
    exact ⟨rfl, hbetween.stop r.measures, htally, hwelcome⟩

/-- **THE MAIN THREAD KEEPS TO THE STAGES**: what it is told is that its call has succeeded. -/
theorem Run.Sound.main (h : r.Sound p notes) (hmain : r.main = some r') : r'.Sound p notes := by
  have htested := h.tested
  simp only [Run.main] at hmain
  cases hstage : r.stage with
  | starting t =>
      rw [hstage] at hmain htested
      obtain ⟨⟨result, pool⟩, hcollect, rfl⟩ := Option.map_eq_some_iff.mp hmain
      obtain ⟨rfl, hbetween⟩ := htested.started hcollect
      simp only [Run.told]
      exact sound_goOn h.plan h.tally h.welcome hbetween (Nat.zero_le _)
  | submitting i t =>
      rw [hstage] at hmain htested
      obtain ⟨⟨result, pool⟩, hcollect, rfl⟩ := Option.map_eq_some_iff.mp hmain
      obtain ⟨⟨item, rfl⟩, hi, hbetween⟩ := htested.submitted hcollect
      simp only [Run.told]
      exact sound_goOn h.plan h.tally h.welcome hbetween hi
  | stopping t =>
      rw [hstage] at hmain htested
      obtain ⟨⟨result, pool⟩, hcollect, rfl⟩ := Option.map_eq_some_iff.mp hmain
      simp only [Run.told]
      exact ⟨h.plan, htested.stopped hcollect, h.tally, h.welcome⟩
  | ended failure =>
      rw [hstage] at hmain
      cases hmain

/-- A thread that wakes up without a signal has not come any further. -/
theorem Tested.wakeUp (h : Tested p stage s notes) {monitor : Queue.Monitor Item}
    (hwake : s.monitor.wakeUp t = some monitor) : Tested p stage { s with monitor } notes := by
  have hsane := h.stressed.sane.wakeUp hwake
  obtain ⟨hasked, hcontents⟩ := Queue.Monitor.asked_wakeUp hwake
  have back : s.Background { s with monitor } := State.background_of_eq monitor s.registry hasked hcontents
  refine ⟨h.stressed.of_eq hsane (congrArg _ hcontents) rfl rfl, h.size, h.crew, h.alone, ?_⟩
  have hfits := h.fits
  cases stage with
  | starting u =>
      obtain ⟨hnumber, hnone, a, ha, hstart⟩ := hfits
      exact ⟨hnumber, hnone, a, ha, hstart.background back⟩
  | submitting i u => exact hfits
  | stopping u =>
      obtain ⟨hids, a, ha, hstop⟩ := hfits
      exact ⟨hids, a, ha, hstop.of_eq rfl (fun hw => hw) fun hshut => ⟨back.steady.closed hshut.1, hshut.2⟩⟩
  | ended failure =>
      cases failure with
      | none => exact ⟨hfits.1, back.steady.closed hfits.2.1, hfits.2.2⟩
      | some e => exact hfits

/-- **EVERY MOVE KEEPS TO THE STAGES** if the primitives work. -/
theorem Run.Sound.move (h : r.Sound p notes) (hpeopled : 0 < p.workers.toNat)
    (hsmooth : m.isSmooth = true) (hmove : r.move m = some (r', new)) :
    r'.Sound p (notes ++ new) := by
  simp only [Run.move] at hmove
  split at hmove
  · cases hmove
  · cases m with
    | main =>
        obtain ⟨r₁, hmain, heq⟩ := Option.map_eq_some_iff.mp hmove
        obtain ⟨rfl, rfl⟩ := Prod.mk.inj heq
        rw [List.append_nil]
        exact h.main hmain
    | step t luck =>
        obtain ⟨⟨pool, new₁⟩, hstep, heq⟩ := Option.map_eq_some_iff.mp hmove
        obtain ⟨rfl, rfl⟩ := Prod.mk.inj heq
        obtain ⟨hsmooth, hspawn⟩ := Bool.and_eq_true_iff.mp hsmooth
        obtain ⟨hsmooth, hcreate⟩ := Bool.and_eq_true_iff.mp hsmooth
        obtain ⟨hlock, hwait⟩ := Bool.and_eq_true_iff.mp hsmooth
        refine ⟨h.plan, ?_, ?_, h.welcome⟩
        · exact h.tested.step hpeopled hlock hwait (Option.isNone_iff_eq_none.mp hcreate) hspawn hstep
        · show r.tally.addAll r.plan.spin new₁ = _
          rw [h.tally, h.plan, addAll_append]
    | wakeUp t =>
        obtain ⟨monitor, hwake, heq⟩ := Option.map_eq_some_iff.mp hmove
        obtain ⟨rfl, rfl⟩ := Prod.mk.inj heq
        rw [List.append_nil]
        exact ⟨h.plan, h.tested.wakeUp hwake, h.tally, h.welcome⟩

/-- So does every run: by induction on its moves, the notes being handed on. -/
theorem Run.Sound.run (h : r.Sound p notes) (hpeopled : 0 < p.workers.toNat)
    (hsmooth : ∀ m ∈ moves, m.isSmooth = true) {notes' : List Note}
    (hrun : r.run notes moves = some (r', notes')) : r'.Sound p notes' := by
  induction moves generalizing r notes with
  | nil =>
      obtain ⟨rfl, rfl⟩ := Prod.mk.inj (Option.some.inj hrun)
      exact h
  | cons m rest ih =>
      obtain ⟨⟨r₁, new⟩, hmove, hrest⟩ := Option.bind_eq_some_iff.mp hrun
      exact ih (h.move hpeopled (hsmooth m (List.mem_cons_self ..)) hmove)
        (fun m' hm' => hsmooth m' (List.mem_cons_of_mem _ hm')) hrest

/-- The run of a pool that was made begins so. -/
theorem sound_begin {made : List Note} {faults faults' : Sync.Faults} {pool : State}
    (hcreate : Pool.create "stress" p.workers faults = (made, faults', .ok pool)) :
    (p.begin measures made pool).Sound p [] := by
  have hsane := State.sane_create hcreate
  obtain ⟨queueName, mutexName, rfl⟩ := State.create_eq hcreate
  have hordered : (State.order _ .start).Sane [] := hsane.order rfl
  refine ⟨rfl, ?_, rfl, rfl⟩
  refine ⟨⟨hordered, fun _ h => (nomatch h), ?_, rfl, rfl, fun _ h => (nomatch h)⟩, rfl, Nat.zero_le _,
    ?_, rfl, rfl, .order (.begun .start), rfl, ⟨rfl, rfl⟩, rfl, rfl⟩
  · intro u id q hu
    rcases State.launch_cases hsane.placed hu with hu | ⟨-, heq⟩
    · cases hu
    · cases heq
  · intro u a hu hrole
    rcases State.launch_cases hsane.placed hu with hu | ⟨rfl, -⟩
    · cases hu
    · rfl

/-! ## Some move can be made -/

/-- No task stands at a gate, for the tasks have none. -/
theorem Stressed.unblocked {first : Nat} (h : Stressed s first notes) : s.Unblocked := by
  rintro u id ⟨item, phase⟩ here ⟨count, gate, rest, heq, -⟩
  obtain ⟨-, -, hplain⟩ := h.working u id _ here
  rw [show phase = _ from heq] at hplain
  cases hplain

/-- The thread of the call has a step, or a worker has one that the call waits for, or the call has
    returned. -/
theorem Tested.canGo (h : Tested p stage s notes) (ht : stage.thread? = some t) :
    (∃ result, s.activity? t = some (.finished result)) ∨ ∃ u, s.CanGo u := by
  have hsane := h.stressed.sane
  have hfree := h.stressed.unblocked
  have hfits := h.fits
  cases stage with
  | starting u =>
      cases ht
      obtain ⟨-, -, a, ha, hstart⟩ := hfits
      cases a with
      | finished result => exact Or.inl ⟨result, ha⟩
      | order q =>
          refine Or.inr (State.exists_canGo_of_order hsane hfree ha ?_)
          rintro rfl
          exact hstart.elim
      | _ => exact hstart.elim
  | submitting i u =>
      cases ht
      obtain ⟨-, -, -, a, ha, hsubmit⟩ := hfits
      cases a with
      | finished result => exact Or.inl ⟨result, ha⟩
      | submission item inQueue =>
          refine Or.inr ⟨t, ?_⟩
          have hasked := hsane.asking.asked_eq ha
          cases inQueue with
          | true =>
              exact State.canGo_of_turn hsane ha
                (State.turn_isSome_of_asked hsane.asking hasked (Or.inl rfl))
          | false =>
              simp only [State.CanGo, State.step]
              rw [ha]
              simp only
              split
              · exact Option.isSome_map.trans (State.ask_isSome hasked)
              · rfl
      | _ => exact hsubmit.elim
  | stopping u =>
      cases ht
      obtain ⟨-, a, ha, hstop⟩ := hfits
      cases a with
      | finished result => exact Or.inl ⟨result, ha⟩
      | order q =>
          refine Or.inr (State.exists_canGo_of_order hsane hfree ha ?_)
          rintro rfl
          exact hstop
      | _ => exact hstop.elim
  | ended failure => cases ht

/-- **A RUN IS NEVER STUCK**. -/
theorem Run.Sound.exists_move (h : r.Sound p notes) (hunder : r.stage.isOver = false) :
    ∃ m, m.isSmooth = true ∧ (r.move m).isSome := by
  obtain ⟨t, ht⟩ : ∃ t, r.stage.thread? = some t := by
    cases hstage : r.stage with
    | ended failure => cases hstage ▸ hunder
    | _ => exact ⟨_, rfl⟩
  rcases h.tested.canGo ht with ⟨result, here⟩ | ⟨u, hgo⟩
  · refine ⟨.main, rfl, ?_⟩
    have hcollect := State.collect_of_finished here
    simp only [Run.move, hunder]
    refine Option.isSome_map.trans ?_
    simp only [Run.main]
    cases hstage : r.stage with
    | ended failure => cases hstage ▸ hunder
    | _ =>
        cases hstage ▸ ht
        exact Option.isSome_map.trans (hcollect ▸ rfl)
  · refine ⟨.step u (r.pool.goodLuck u), rfl, ?_⟩
    simp only [Run.move, hunder]
    exact Option.isSome_map.trans hgo

/-! ## The report -/

/-- The tasks are numbered from zero, whatever the numbers of their items. -/
theorem tasks_of_items (p : Plan) (n : Nat) : (p.items n).map (· - p.first) = List.range n := by
  simp only [Plan.items, List.map_map]
  refine (List.map_congr_left fun i _ => ?_).trans (List.map_id _)
  exact Nat.add_sub_cancel_left ..

/-- **WHAT IS REPORTED** at the end of a run. -/
theorem Run.Sound.report (h : r.Sound p notes) (hend : r.stage = .ended none) :
    r.pool.executed = p.tasks.toNat ∧ r.tally.counts.length = p.workers.toNat ∧
      r.tally.counted = p.tasks.toNat ∧
      r.tally.checksum.toNat = (List.range p.tasks.toNat).countP fun i =>
        (i + p.spin.toNat * (p.spin.toNat - 1) / 2) % 2 = 1 := by
  have htested := h.tested
  rw [hend] at htested
  obtain ⟨hids, hshut⟩ := htested.fits
  have hstressed := htested.stressed
  -- every task was accepted, so every task was begun and counted once
  have hdone := hstressed.sane.done hshut
  have hbegun : (Fate.begun.met (Note.fates notes)).Perm (p.items p.tasks.toNat) := hids ▸ hdone.begun
  have hcounted : (Fate.counted.met (Note.fates notes)).Perm (p.items p.tasks.toNat) :=
    hids ▸ hdone.counted
  have hlength : (p.items p.tasks.toNat).length = p.tasks.toNat := by
    rw [Plan.items, List.length_map, List.length_range]
  have hran : (runs notes).Perm (List.range p.tasks.toNat) := by
    rw [hstressed.ran, ← tasks_of_items p]
    exact hbegun.map _
  have hreports : (reports notes).length = p.tasks.toNat := by
    have hnobody : r.pool.gather reported = 0 := by
      refine State.gather_of_nobody hstressed.sane.placed.distinct hdone.workers.2 fun a ha => ?_
      cases a with
      | worker => cases ha
      | _ => rfl
    have hperm := hstressed.reported
    rw [hnobody, add_zero] at hperm
    have hlen := ((Multiset.coe_eq_coe.mp hperm).trans hcounted).length_eq
    rwa [List.length_map, hlength] at hlen
  have hsize : p.tasks.toNat < 2 ^ 64 := p.tasks.toNat_lt
  rw [h.tally]
  refine ⟨?_, ?_, ?_, ?_⟩
  · exact (hdone.executed.trans (congrArg List.length hids)).trans hlength
  · rw [Tally.addAll, length_counts]
    exact List.length_replicate
  · rw [counted_addAll p ?_ (hreports ▸ hsize), hreports]
    intro report hmem
    obtain ⟨worker, hworker, heq⟩ := hstressed.known report hmem
    exact ⟨worker, Nat.lt_of_lt_of_le hworker htested.crew, heq⟩
  · rw [checksum_addAll p, hran.countP_eq]
    rw [hran.length_eq, List.length_range]
    exact hsize

/-- A pool can be made for any number of workers but none. -/
theorem exists_create (hworkers : p.workers ≠ 0) :
    ∃ made pool, Pool.create "stress" p.workers [] = (made, [], .ok pool) := by
  simp only [Pool.create, if_neg hworkers]
  exact ⟨_, _, rfl⟩

/-- **A STRESS TEST REPORTS THE SAME IN EVERY SCHEDULE**.  Take any number of tasks, any number of
    workers but none and any number of rounds.  The pool is made, and then comes any run in which locks,
    waits and the making of threads work: the moves of the main thread and the steps of all others, in
    any order, and waiting threads may wake up for nothing.

    * If the main thread is at its end, the test has not failed and no submission was refused; the pool
      has executed as many items as there are tasks; each worker has a count, and the counts add up to the
      number of tasks; and the checksum is the number of the tasks whose number and rounds add up to an
      odd number.
    * If it is not, some move can be made in which the primitives work. -/
theorem Run.report_agrees (p : Plan) (measures : Bool) (hworkers : p.workers ≠ 0) :
    ∃ made pool, Pool.create "stress" p.workers [] = (made, [], .ok pool) ∧
    ∀ moves r notes, (∀ m ∈ moves, m.isSmooth = true) →
      (p.begin measures made pool).run [] moves = some (r, notes) →
      (∀ failure, r.stage = .ended failure →
        failure = none ∧ r.refused = false ∧ r.pool.executed = p.tasks.toNat ∧
        r.tally.counts.length = p.workers.toNat ∧
        (r.tally.counts.map (·.toNat)).sum = p.tasks.toNat ∧
        r.tally.checksum.toNat = (List.range p.tasks.toNat).countP fun i =>
          (i + p.spin.toNat * (p.spin.toNat - 1) / 2) % 2 = 1) ∧
      (r.stage.isOver = false → ∃ m, m.isSmooth = true ∧ (r.move m).isSome) := by
  obtain ⟨made, pool, hcreate⟩ := exists_create hworkers
  refine ⟨made, pool, hcreate, ?_⟩
  intro moves r notes hsmooth hrun
  have hpeopled : 0 < p.workers.toNat :=
    Nat.pos_of_ne_zero fun hzero => hworkers (UInt64.toNat_inj.mp hzero)
  have hsound := (sound_begin hcreate).run hpeopled hsmooth hrun
  refine ⟨?_, hsound.exists_move⟩
  intro failure hend
  cases failure with
  | none => exact ⟨rfl, hsound.welcome, hsound.report hend⟩
  | some e =>
      have hfits := hsound.tested.fits
      rw [hend] at hfits
      exact hfits.elim

/-- Two tasks for two workers, with three rounds each. -/
def pair : Plan := { tasks := 2, workers := 2, spin := 3 }

/-- The steps of some threads, one after the other. -/
def stepsOf (threads : List ThreadId) : List Move := threads.map fun t => .step t {}

/-- Both tasks are submitted before a worker takes one.  The second worker begins first. -/
def pairMoves : List Move :=
  stepsOf [0, 0, 0, 0, 0] ++ [.main] ++ stepsOf [3, 3] ++ [.main] ++ stepsOf [4, 4] ++ [.main] ++
    stepsOf [1, 1, 1, 2, 2, 2, 5, 2, 2, 2, 2, 1, 1, 1, 1, 1, 1, 1, 2, 2, 2, 5] ++
    stepsOf [5, 5, 5, 5, 1, 1, 1, 2, 2, 2, 5, 5, 5] ++ [.main]

/-- The run of the two tasks from its beginning. -/
def pairBegun : Run := pair.begin false (Pool.create "stress" 2 []).1
  { name := "stress"
    queueName := "stress-queue"
    monitor := { mutex := { name := "stress-queue-lock" } }
    size := 2 }

/-- The run at its end. -/
def pairDone : Run × List Note := (pairBegun.run [] pairMoves).getD (pairBegun, [])

/-- One of the two tasks adds to the checksum. -/
theorem report_agrees_pair :
    pair.workers ≠ 0 ∧ (∀ m ∈ pairMoves, m.isSmooth = true) ∧
    pairBegun.run [] pairMoves = some pairDone ∧
    pairDone.1.pool.executed = 2 ∧ (pairDone.1.tally.counts.map (·.toNat)).sum = 2 ∧
    pairDone.1.tally.checksum.toNat = 1 := by
  have hworkers : pair.workers ≠ 0 := by decide
  have hsmooth : ∀ m ∈ pairMoves, m.isSmooth = true := by decide
  have hrun : pairBegun.run [] pairMoves = some pairDone :=
    (Option.getD_of_ne_none (by decide) _).symm
  obtain ⟨made, pool, hcreate, hall⟩ := Run.report_agrees pair false hworkers
  cases hcreate
  obtain ⟨-, -, hexecuted, -, hcounted, hchecksum⟩ :=
    (hall pairMoves _ _ hsmooth hrun).1 none rfl
  exact ⟨hworkers, hsmooth, hrun, hexecuted, hcounted, hchecksum⟩

end PooledServer.CommandLine.PoolStress
