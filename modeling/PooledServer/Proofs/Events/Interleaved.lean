import PooledServer.Proofs.Events.Serial

/-!
# Operations that interleave

    Requests may be finished on any threads while the loop acts on its events, stage by stage.  If a
    batch holds only numbers that are watched when it comes, and each of them once, the two sides never
    meet at a number (`State.Prompt`):

    * a number with an event to be acted on is still watched, and nothing is at work on it;
    * whatever the loop does because of an event, the connection is there, with its socket parked;
    * a number that another thread is at work on is not watched, so no batch has it.

    So no socket on loan is watched, no event is for a number in flight, and a connection that is left
    alone is watched (`State.never_watched_in_flight`).  The batches that the readiness queue reports
    are such batches (`State.promptly_receive_of_wait`). -/

namespace PooledServer.Events

open Net

namespace Stage

/-- A stage that comes for a connection in the table. -/
def isVisit : Stage → Bool
  | .close _ | .forget _ | .unwatchForgotten .. | .unwatchReady .. | .lend .. => true
  | _ => false

/-- The number of the event that a stage acts on. -/
def awaited : Stage → Multiset Descriptor
  | .event _ e => {e.descriptor}
  | _ => 0

end Stage

namespace State

/-- The rule that a batch of events has numbers that are watched, and each of them once.  The lock
    works, a watch that there is can be ended, and the numbers of connections are closed by dropping
    their sockets only; requests are finished at any time. -/
def promptly (s : State) : Move → Bool
  | .step t luck =>
    match s.agenda? t with
    | some (stage :: _) => s.smooth stage luck
    | _ => false
  | .receive events =>
    let numbers := events.map (·.descriptor)
    decide numbers.Nodup && numbers.all s.kernel.isWatched
  | move => s.spares move

/-- The numbers of the events that are still to be acted on. -/
def awaited (s : State) : Multiset Descriptor := s.gather Stage.awaited

/-- What is true of a server whose events are prompt. -/
structure Prompt (s : State) : Prop where
  once : s.awaited.Nodup
  ready : ∀ d ∈ s.awaited, d ≠ s.listener → s.claims d = 0 ∧ s.kernel.isWatched d = true
  found : ∀ d, ∀ stage ∈ s.claims d, stage.isVisit = true →
    ∃ socket, s.table.entry? d = some { socket := some socket }
  hidden : ∀ th ∈ s.threads, th.id ≠ 0 → ∀ stage ∈ th.agenda, ∀ d, stage.subject? = some d →
    s.kernel.isWatched d = false
  undropped : s.stats.droppedBusy = 0

variable {s s' s₁ : State} {t : ThreadId} {luck : Luck} {stage : Stage} {next rest : List Stage}
  {listener d : Descriptor} {move : Move} {moves : List Move} {socket : Socket}

theorem mem_awaited {index : Nat} {e : Event} (here : s.agenda? t = some (.event index e :: rest)) :
    e.descriptor ∈ s.awaited :=
  mem_gather.mpr ⟨_, mem_threads_of_agenda? here, _, List.mem_cons_self ..,
    Multiset.mem_singleton_self _⟩

/-! ## Numbers that nothing is at work on -/

/-- Nothing is at work on a number that is not open. -/
theorem Prompt.unclaimed_of_gone (hp : s.Prompt) (hr : s.Regular) (hs : s.Sound)
    (hd : d ≠ s.listener) (gone : s.kernel.file? d = none) : s.claims d = 0 := by
  have hheld : ∀ socket : Socket, socket.handle ∈ s.held → socket.descriptor ≠ d := by
    rintro socket hsocket rfl
    exact nomatch gone.symm.trans (hs.owned.standing _ hsocket).2
  have hparked : ∀ socket, s.table.entry? d ≠ some { socket := some socket } :=
    fun socket h => nomatch gone.symm.trans (hs.open_of_parked h)
  refine Multiset.eq_zero_of_forall_notMem fun stage hmem => ?_
  obtain ⟨hsubject, th, hth, hstage⟩ := exists_of_mem_claims hmem
  obtain ⟨-, hsuits⟩ := (hr.others d hd).suits_of_mem hmem
  obtain ⟨v, hsuits, hentry, -, -⟩ := exists_view hsuits
  have hvisit : stage.isVisit = false := by
    refine Bool.eq_false_iff.mpr fun hvisit => ?_
    obtain ⟨socket, hfound⟩ := hp.found d stage hmem hvisit
    exact hparked socket hfound
  -- what is not a visit has a socket in hand, or comes to one that is parked
  cases hsuits with
  | watch _ socket | rearm _ socket => exact hparked socket hentry
  | track | comeBack | park | release =>
      exact hheld _ (mem_held_of_carried hth hstage rfl) (Option.some.inj hsubject)
  | unwatchClosed _ socket _ own =>
      exact hheld socket (mem_held_of_carried hth hstage rfl) (own.trans (Option.some.inj hsubject))
  | _ => exact nomatch hvisit

/-- Nothing is at work on a number in flight. -/
theorem Prompt.unclaimed_of_live (hp : s.Prompt) (hr : s.Regular) (hlive : 0 < s.live d) :
    s.claims d = 0 := by
  have hd := (regular_iff.mp hr).ne_listener_of_live hlive
  refine Multiset.eq_zero_of_forall_notMem fun stage hmem => ?_
  obtain ⟨-, hsuits⟩ := (hr.others d hd).suits_of_mem hmem
  obtain ⟨v, hsuits, hentry, -, hsame⟩ := exists_view hsuits
  rw [hsame] at hlive
  have hrests : ∀ v : View, v.Rests → 0 < v.live → s.table.entry? d = v.entry →
      stage.isVisit = true → False := by
    intro v hrests hlive hentry hvisit
    obtain ⟨socket, hfound⟩ := hp.found d stage hmem hvisit
    cases hrests with
    | out | parked => exact Nat.lt_irrefl 0 hlive
    | lent => exact nomatch hentry.symm.trans hfound
  cases hsuits with
  | close _ v rests | unwatchReady _ _ v rests | lendOther _ _ v rests =>
      exact hrests v rests hlive hentry rfl
  | _ => exact Nat.lt_irrefl 0 hlive

/-- A number in flight is not watched. -/
theorem Prompt.unwatched_of_live (hp : s.Prompt) (hr : s.Regular) (hlive : 0 < s.live d) :
    s.kernel.isWatched d = false := by
  have hd := (regular_iff.mp hr).ne_listener_of_live hlive
  obtain ⟨v, hrests, -, hwatched, hsame⟩ :=
    exists_view ((hr.others d hd).rests_of_nobody (hp.unclaimed_of_live hr hlive))
  rw [hsame] at hlive
  cases hrests with
  | out | lent => exact hwatched
  | parked => exact absurd hlive (Nat.lt_irrefl 0)

/-- Work begins only on numbers that nothing is at work on. -/
theorem Prompt.free (hp : s.Prompt) (hr : s.Regular) (hs : s.Sound)
    (here : s.agenda? t = some (stage :: rest)) (h : s.Carries luck stage s₁ next)
    (hnone : stage.subject? = none) {x : Stage} (hx : x ∈ next) (hsubject : x.subject? = some d) :
    s.claims d = 0 := by
  cases h with
  | misses index e gone other | hangsUp index e other | readies index e other =>
      cases List.mem_singleton.mp hx
      cases hsubject
      exact (hp.ready _ (mem_awaited here) other).1
  | accepts c peer nonneg free other =>
      rcases List.mem_cons.mp hx with rfl | hx
      · cases hsubject
        exact hp.unclaimed_of_gone hr hs other free
      · cases List.mem_singleton.mp hx
        exact nomatch hsubject
  | finishes r isOpen pending panic =>
      cases descriptor_of_finished hx hsubject
      exact hp.unclaimed_of_live hr (hs.live_of_serve here)
  | hears | retries =>
      cases List.mem_singleton.mp hx
      exact nomatch hsubject
  | ignores | acceptsNone | acceptFails | keeps | tells => exact nomatch hx
  | _ => exact nomatch hnone

/-! ## Every stage -/

/-- No stage makes events. -/
theorem Carries.awaited_next (h : s.Carries luck stage s₁ next) :
    (next.map Stage.awaited).sum = 0 := by
  cases h with
  | finishes r isOpen pending panic => cases panic <;> rfl
  | _ => rfl

/-- What a stage leaves to be acted on is what else there was. -/
theorem Sound.awaited_next (hs : s.Sound) (here : s.agenda? t = some (stage :: rest))
    (h : s.Carries luck stage s₁ next) :
    s.awaited = stage.awaited + (s₁.setAgenda t (next ++ rest)).awaited := by
  obtain ⟨c, hbefore, hafter⟩ := hs.numbered.exists_gather here h.threads.1 next Stage.awaited
  rw [awaited, awaited, hbefore, hafter, h.awaited_next, zero_add]

/-- A stage that begins work on a number does not leave it to be acted on. -/
theorem Prompt.begins_elsewhere (hp : s.Prompt) (hr : s.Regular) (hs : s.Sound)
    (here : s.agenda? t = some (stage :: rest)) (h : s.Carries luck stage s₁ next)
    (hd : d ≠ s.listener) (hstays : d ∈ (s₁.setAgenda t (next ++ rest)).awaited)
    (hnone : stage.subject? = none) : ∀ x ∈ next, x.subject? ≠ some d := by
  have hall := hs.awaited_next here h
  have hmem : d ∈ s.awaited := by
    rw [hall]
    exact Multiset.mem_add.mpr (Or.inr hstays)
  obtain ⟨hunclaimed, hwatched⟩ := hp.ready d hmem hd
  obtain ⟨⟨socket, hparked⟩, hlive⟩ := hr.parked hd hunclaimed hwatched
  -- each number is awaited once
  have hother : d ∉ stage.awaited := fun hown =>
    Multiset.disjoint_left.mp (Multiset.nodup_add.mp (hall ▸ hp.once)).2.2 hown hstays
  intro x hx hsubject
  cases h with
  | misses index e gone other | hangsUp index e other | readies index e other =>
      cases List.mem_singleton.mp hx
      cases hsubject
      exact hother (Multiset.mem_singleton_self _)
  | accepts c peer nonneg free other =>
      rcases List.mem_cons.mp hx with rfl | hx
      · cases hsubject
        exact nomatch free.symm.trans (hs.open_of_parked hparked)
      · cases List.mem_singleton.mp hx
        exact nomatch hsubject
  | finishes r isOpen pending panic =>
      cases descriptor_of_finished hx hsubject
      exact Nat.ne_of_gt (hs.live_of_serve here) hlive
  | hears | retries =>
      cases List.mem_singleton.mp hx
      exact nomatch hsubject
  | ignores | acceptsNone | acceptFails | keeps | tells => exact nomatch hx
  | _ => exact nomatch hnone

/-- Whoever goes on with its work has not begun a watch. -/
theorem Sound.unwatched_next (hs : s.Sound) (here : s.agenda? t = some (stage :: rest))
    (h : s.Carries luck stage s₁ next) (hstage : stage.subject? = some d) {x : Stage} (hx : x ∈ next)
    (hnot : s.kernel.isWatched d = false) : s₁.kernel.isWatched d = false := by
  cases h with
  | tracks socket lock =>
      rw [hs.socket?_of_track here]
      exact hnot
  | quiets index c backend =>
      cases hstage
      exact isWatched_ended s.kernel
  | watches | rearms | losesNew | drops | leaves | parkBarred | releases | abandons => exact nomatch hx
  | _ => exact hnot

/-- What a stage can have to do with a number. -/
inductive Meets (s s' : State) (stage : Stage) (next : List Stage) (d : Descriptor) : Prop
  | goesOn (own : stage.subject? = some d) (follow : ∀ x ∈ s'.claims d, x ∈ next)
  | begins (none : stage.subject? = none) (unclaimed : s.claims d = 0)
      (follow : ∀ x ∈ s'.claims d, x ∈ next)
  | passes (apart : stage.subject? ≠ some d) (free : ∀ x ∈ next, x.subject? ≠ some d)
      (view : s'.view d = s.view d) (claims : s'.claims d = s.claims d)

theorem Prompt.meets (hp : s.Prompt) (hr : s.Regular) (hs : s.Sound)
    (here : s.agenda? t = some (stage :: rest)) (h : s.Carries luck stage s₁ next) (d : Descriptor) :
    Meets s (s₁.setAgenda t (next ++ rest)) stage next d := by
  have hfollow : s.claims d = stage.claim d →
      ∀ x ∈ (s₁.setAgenda t (next ++ rest)).claims d, x ∈ next := by
    intro hclaims x hx
    rw [hs.claims_next here h.threads.1 hclaims] at hx
    obtain ⟨y, hy, hmem⟩ := Keyed.mem_sum_map.mp hx
    rw [(Stage.mem_claim.mp hmem).1]
    exact hy
  by_cases hstage : stage.subject? = some d
  · obtain ⟨-, hclaims, -⟩ := hr.suits here hstage
    exact .goesOn hstage (hfollow (hclaims.trans (Stage.claim_of_subject hstage).symm))
  · by_cases hnext : ∃ x ∈ next, x.subject? = some d
    · obtain ⟨x, hx, hsubject⟩ := hnext
      have hnone := h.subject_eq_none hstage hx hsubject
      have hunclaimed := hp.free hr hs here h hnone hx hsubject
      exact .begins hnone hunclaimed (hfollow (hunclaimed.trans (Stage.claim_of_ne hstage).symm))
    · have hapart : ∀ x ∈ next, x.subject? ≠ some d := fun x hx hsubject => hnext ⟨x, hx, hsubject⟩
      obtain ⟨hview, hclaims⟩ := hr.frame hs here h hstage hapart
      exact .passes hstage hapart hview hclaims

/-- The loop's visits are to connections whose sockets are parked, also those that follow a stage. -/
theorem Prompt.found_next (hp : s.Prompt) (hr : s.Regular) (hs : s.Sound)
    (here : s.agenda? t = some (stage :: rest)) (h : s.Carries luck stage s₁ next) {x : Stage}
    (hx : x ∈ next) (hsubject : x.subject? = some d) (hvisit : x.isVisit = true) :
    ∃ socket, s₁.table.entry? d = some { socket := some socket } := by
  have hfound : stage.subject? = some d → stage.isVisit = true →
      ∃ socket, s.table.entry? d = some { socket := some socket } := by
    intro hstage hvisit
    exact hp.found d stage
      (mem_claims (mem_threads_of_agenda? here) (List.mem_cons_self ..) hstage) hvisit
  have hawaited : ∀ {index : Nat} {e : Event}, stage = .event index e → e.descriptor ≠ s.listener →
      ∃ socket, s.table.entry? e.descriptor = some { socket := some socket } := by
    rintro index e rfl other
    obtain ⟨hunclaimed, hwatched⟩ := hp.ready _ (mem_awaited here) other
    exact (hr.parked other hunclaimed hwatched).1
  cases h with
  | misses index e gone other =>
      -- the number is open, since its socket is parked
      obtain ⟨socket, hparked⟩ := hawaited rfl other
      exact nomatch gone.symm.trans (hs.open_of_parked hparked)
  | hangsUp index e other | readies index e other =>
      cases List.mem_singleton.mp hx
      cases hsubject
      exact hawaited rfl other
  | watchFails c e backend =>
      cases List.mem_singleton.mp hx
      cases hsubject
      obtain ⟨-, -, hsuits⟩ := hr.suits here rfl
      obtain ⟨v, hsuits, hentry, -, -⟩ := exists_view hsuits
      cases hsuits with
      | watch _ socket => exact ⟨socket, hentry⟩
  | rearmFails c e backend =>
      cases List.mem_singleton.mp hx
      cases hsubject
      obtain ⟨-, -, hsuits⟩ := hr.suits here rfl
      obtain ⟨v, hsuits, hentry, -, -⟩ := exists_view hsuits
      cases hsuits with
      | rearm _ socket => exact ⟨socket, hentry⟩
  | forgets c lock | forgetBarred c lock =>
      cases List.mem_singleton.mp hx
      cases hsubject
      obtain ⟨socket, hparked⟩ := hfound rfl rfl
      obtain ⟨-, -, hsuits⟩ := hr.suits here rfl
      obtain ⟨v, hsuits, hentry, -, -⟩ := exists_view hsuits
      cases hsuits with
      | forget _ => exact nomatch hentry.symm.trans hparked
  | quiets index c backend | quietFails index c e backend =>
      cases List.mem_singleton.mp hx
      cases hsubject
      exact hfound rfl rfl
  | accepts c peer nonneg free other =>
      rcases List.mem_cons.mp hx with rfl | hx
      · exact nomatch hvisit
      · cases List.mem_singleton.mp hx
        exact nomatch hvisit
  | finishes r isOpen pending panic =>
      rcases List.mem_cons.mp hx with rfl | hx
      · exact nomatch hvisit
      · exact nomatch (subject_of_panicked x hx).symm.trans hsubject
  | hears | retries | tracks | closes | lends | comesBack | parks | retires | turnsAway =>
      cases List.mem_singleton.mp hx
      exact nomatch hvisit
  | _ => exact nomatch hx

/-- No event is dropped because its connection is in flight. -/
theorem Prompt.undropped_next (hp : s.Prompt) (here : s.agenda? t = some (stage :: rest))
    (h : s.Carries luck stage s₁ next) : s₁.stats.droppedBusy = 0 := by
  cases h with
  | skips index c entry lock present busy =>
      have hmem := mem_claims (mem_threads_of_agenda? here) (List.mem_cons_self ..) rfl
      obtain ⟨socket, hparked⟩ := hp.found c _ hmem rfl
      cases Option.some.inj (present.symm.trans hparked)
      exact nomatch busy
  | tracks socket lock => cases s.table.socket? socket.descriptor <;> exact hp.undropped
  | drops c socket => cases socket <;> exact hp.undropped
  | _ => exact hp.undropped

/-- What a thread other than the loop begins is to bring a socket back, whose number is not watched. -/
theorem Prompt.unwatched_of_begun (hp : s.Prompt) (hr : s.Regular) (hs : s.Sound)
    (here : s.agenda? t = some (stage :: rest)) (h : s.Carries luck stage s₁ next) (hne : t ≠ 0)
    (hnone : stage.subject? = none) {x : Stage} (hx : x ∈ next) (hsubject : x.subject? = some d) :
    s₁.kernel.isWatched d = false := by
  have hloops := hs.loops _ (mem_threads_of_agenda? here) hne stage (List.mem_cons_self ..)
  cases h with
  | finishes r isOpen pending panic =>
      cases descriptor_of_finished hx hsubject
      exact hp.unwatched_of_live hr (hs.live_of_serve here)
  | hears | ignores | misses | hangsUp | readies | acceptsNone | retries | acceptFails | accepts =>
      exact nomatch hloops
  | keeps | tells => exact nomatch hx
  | _ => exact nomatch hnone

/-- Whatever a thread other than the loop is at work on stays hidden from the loop. -/
theorem Prompt.hidden_next (hp : s.Prompt) (hr : s.Regular) (hs : s.Sound)
    (here : s.agenda? t = some (stage :: rest)) (h : s.Carries luck stage s₁ next) {th : Thread}
    (hth : th ∈ (s₁.setAgenda t (next ++ rest)).threads) (hne : th.id ≠ 0) {x : Stage}
    (hx : x ∈ th.agenda) (hsubject : x.subject? = some d) : s₁.kernel.isWatched d = false := by
  have hmine := mem_threads_of_agenda? here
  have hclaimed := mem_claims hth hx hsubject
  have hthread := h.of_mem_threads hth
  cases hp.meets hr hs here h d with
  | goesOn own follow =>
      refine hs.unwatched_next here h own (follow x hclaimed) ?_
      rcases hthread with rfl | ⟨-, hold⟩
      · exact hp.hidden _ hmine hne stage (List.mem_cons_self ..) d own
      · exact hp.hidden th hold hne x hx d hsubject
  | begins none unclaimed follow =>
      rcases hthread with rfl | ⟨-, hold⟩
      · exact hp.unwatched_of_begun hr hs here h hne none (follow x hclaimed) hsubject
      -- nothing was at work on the number, so the other threads are not
      · have hbefore := mem_claims hold hx hsubject
        rw [unclaimed] at hbefore
        exact absurd hbefore (Multiset.notMem_zero x)
  | passes apart free view claims =>
      have hsame : s₁.kernel.isWatched d = s.kernel.isWatched d := congrArg View.isWatched view
      rw [hsame]
      rcases hthread with rfl | ⟨-, hold⟩
      · rcases List.mem_append.mp hx with hnew | hrest
        · exact absurd hsubject (free x hnew)
        · exact hp.hidden _ hmine hne x (List.mem_cons_of_mem _ hrest) d hsubject
      · exact hp.hidden th hold hne x hx d hsubject

/-- **EVERY STAGE KEEPS EVENTS PROMPT**. -/
theorem Prompt.carries (hp : s.Prompt) (hr : s.Regular) (hs : s.Sound)
    (here : s.agenda? t = some (stage :: rest)) (h : s.Carries luck stage s₁ next) :
    (s₁.setAgenda t (next ++ rest)).Prompt := by
  have hall := hs.awaited_next here h
  have hnodup := hp.once
  rw [hall] at hnodup
  have hundropped := hp.undropped_next here h
  refine ⟨(Multiset.nodup_add.mp hnodup).2.1, ?_, ?_, ?_, hundropped⟩
  · intro d hmem hd
    have hbefore : d ∈ s.awaited := by
      rw [hall]
      exact Multiset.mem_add.mpr (Or.inr hmem)
    have hlistener : (s₁.setAgenda t (next ++ rest)).listener = s.listener := h.threads.2.2
    rw [hlistener] at hd
    obtain ⟨hunclaimed, hwatched⟩ := hp.ready d hbefore hd
    -- neither the stage nor those that follow it are at work on a number that is awaited
    have hstage : stage.subject? ≠ some d := by
      intro hsubject
      have hmine := mem_claims (mem_threads_of_agenda? here) (List.mem_cons_self ..) hsubject
      rw [hunclaimed] at hmine
      exact Multiset.notMem_zero stage hmine
    obtain ⟨hview, hclaims⟩ := hr.frame hs here h hstage fun x hx hsubject =>
      hp.begins_elsewhere hr hs here h hd hmem (h.subject_eq_none hstage hx hsubject) x hx hsubject
    exact ⟨hclaims.trans hunclaimed, (congrArg View.isWatched hview).trans hwatched⟩
  · intro d x hx hvisit
    obtain ⟨hsubject, -⟩ := exists_of_mem_claims hx
    have hfound : x ∈ next → ∃ socket, s₁.table.entry? d = some { socket := some socket } :=
      fun hnext => hp.found_next hr hs here h hnext hsubject hvisit
    cases hp.meets hr hs here h d with
    | goesOn own follow => exact hfound (follow x hx)
    | begins none unclaimed follow => exact hfound (follow x hx)
    | passes apart free view claims =>
        have hentry : s₁.table.entry? d = s.table.entry? d := congrArg View.entry view
        rw [claims] at hx
        obtain ⟨socket, hparked⟩ := hp.found d x hx hvisit
        exact ⟨socket, hentry.trans hparked⟩
  · intro th hth hne x hx d hsubject
    have hhidden := hp.hidden_next hr hs here h hth hne hx hsubject
    exact hhidden

/-! ## Every move -/

/-- The events that are to be acted on are the loop's. -/
theorem Sound.awaited_eq_zero (hs : s.Sound) (idle : s.agenda? 0 = some []) : s.awaited = 0 := by
  refine Multiset.eq_zero_of_forall_notMem fun d hmem => ?_
  obtain ⟨th, hth, stage, hstage, hd⟩ := mem_gather.mp hmem
  by_cases hloop : th.id = 0
  · have hagenda := agenda?_of_mem hs.numbered hth
    rw [hloop, idle] at hagenda
    rw [← Option.some.inj hagenda] at hstage
    exact nomatch hstage
  · have hnot := hs.loops th hth hloop stage hstage
    cases stage with
    | event index e => exact nomatch hnot
    | _ => exact Multiset.notMem_zero d hd

theorem awaited_batch (events : List Event) :
    ((batch events).map Stage.awaited).sum = ↑(events.map (·.descriptor)) := by
  unfold batch
  generalize hpairs : events.zipIdx = pairs
  obtain rfl : pairs.map Prod.fst = events := by rw [← hpairs, List.zipIdx_map_fst]
  clear hpairs
  induction pairs with
  | nil => rfl
  | cons p pairs ih =>
      rw [List.map_cons, List.map_cons, List.sum_cons, ih]
      rfl

/-- A batch of watched numbers: the loop has nothing else before it, and the other threads are at work
    on numbers that are not watched. -/
theorem Prompt.receives (hp : s.Prompt) (hs : s.Sound) {events : List Event}
    (idle : s.agenda? 0 = some []) (hnodup : (events.map (·.descriptor)).Nodup)
    (hwatched : ∀ e ∈ events, s.kernel.isWatched e.descriptor = true) :
    (s.setAgenda 0 (batch events)).Prompt := by
  have hawaited : (s.setAgenda 0 (batch events)).awaited = ↑(events.map (·.descriptor)) := by
    rw [awaited, hs.numbered.gather_of_idle idle, awaited_batch,
      show s.gather Stage.awaited = 0 from hs.awaited_eq_zero idle, add_zero]
  have hclaims : ∀ d, (s.setAgenda 0 (batch events)).claims d = s.claims d := fun d =>
    hs.claims_batch idle events
  refine ⟨?_, ?_, ?_, ?_, hp.undropped⟩
  · rw [hawaited]
    exact Multiset.coe_nodup.mpr hnodup
  · intro d hmem hd
    rw [hawaited] at hmem
    obtain ⟨e, he, rfl⟩ := List.mem_map.mp (Multiset.mem_coe.mp hmem)
    refine ⟨?_, hwatched e he⟩
    rw [hclaims]
    refine Multiset.eq_zero_of_forall_notMem fun stage hclaim => ?_
    obtain ⟨hsubject, th, hth, hstage⟩ := exists_of_mem_claims hclaim
    by_cases hloop : th.id = 0
    · have hagenda := agenda?_of_mem hs.numbered hth
      rw [hloop, idle] at hagenda
      rw [← Option.some.inj hagenda] at hstage
      exact nomatch hstage
    · exact nomatch (hwatched e he).symm.trans (hp.hidden th hth hloop stage hstage _ hsubject)
  · intro d stage hmem hvisit
    rw [hclaims] at hmem
    exact hp.found d stage hmem hvisit
  · intro th hth hne stage hstage d hsubject
    rcases of_mem_setAgenda hth with rfl | ⟨-, hold⟩
    · exact absurd rfl hne
    · exact hp.hidden th hold hne stage hstage d hsubject

/-- A request is finished while its number is in flight, so no event is for it. -/
theorem Prompt.completes (hp : s.Prompt) (hr : s.Regular) {place : Nat} {r : Request}
    (kept : s.kept[place]? = some r) {socket : Socket}
    (hsocket : socket.descriptor = r.socket.descriptor) : (s.finished place socket).Prompt := by
  have hawaited : (s.finished place socket).awaited = s.awaited := by
    rw [awaited, finished, gather_launch]
    exact add_zero _
  have hlive := live_of_kept kept
  refine ⟨?_, ?_, ?_, ?_, hp.undropped⟩
  · rw [hawaited]
    exact hp.once
  · intro d hmem hd
    rw [hawaited] at hmem
    obtain ⟨hunclaimed, hwatched⟩ := hp.ready d hmem hd
    refine ⟨?_, hwatched⟩
    rw [claims_finished, hunclaimed, zero_add]
    refine Stage.claim_of_ne fun hsubject => ?_
    have hsame := hsocket.symm.trans (Option.some.inj hsubject)
    rw [hsame] at hlive
    cases hwatched.symm.trans (hp.unwatched_of_live hr hlive)
  · intro d stage hmem hvisit
    rw [claims_finished] at hmem
    rcases Multiset.mem_add.mp hmem with hold | hnew
    · exact hp.found d stage hold hvisit
    · rw [(Stage.mem_claim.mp hnew).1] at hvisit
      cases hvisit
  · intro th hth hne stage hstage d hsubject
    rcases List.mem_append.mp hth with hold | hnew
    · exact hp.hidden th hold hne stage hstage d hsubject
    · rw [List.mem_singleton.mp hnew] at hstage
      rw [List.mem_singleton.mp hstage] at hsubject
      have hsame := hsocket.symm.trans (Option.some.inj hsubject)
      rw [hsame] at hlive
      exact hp.unwatched_of_live hr hlive

/-- What changes elsewhere changes no watch, but perhaps the listener's. -/
theorem Prompt.elsewhere (hp : s.Prompt) (hr : s.Regular) {kernel : Kernel}
    (hwatched : ∀ d, d ≠ s.listener → kernel.isWatched d = s.kernel.isWatched d) :
    State.Prompt { s with kernel } := by
  refine ⟨hp.once, ?_, hp.found, ?_, hp.undropped⟩
  · intro d hmem hd
    obtain ⟨hunclaimed, hwas⟩ := hp.ready d hmem hd
    exact ⟨hunclaimed, (hwatched d hd).trans hwas⟩
  · intro th hth hne x hx d hsubject
    exact (hwatched d ((regular_iff.mp hr).ne_listener_of_subject hth hx hsubject)).trans
      (hp.hidden th hth hne x hx d hsubject)

theorem prompt_new (listener : Descriptor) : (State.new listener).Prompt := by
  refine ⟨Multiset.nodup_zero, ?_, ?_, ?_, rfl⟩
  · exact fun d hmem => absurd hmem (Multiset.notMem_zero d)
  · exact fun d stage hmem => absurd hmem (Multiset.notMem_zero stage)
  · intro th hth hne
    rw [List.mem_singleton.mp hth] at hne
    exact absurd rfl hne

/-- **EVERY MOVE KEEPS EVENTS PROMPT**, and all numbers regular. -/
theorem Prompt.goes (hp : s.Prompt) (hr : s.Regular) (hs : s.Sound)
    (hrule : s.promptly move = true) (h : s.Goes move s') : s'.Regular ∧ s'.Prompt := by
  cases h with
  | @carries t luck stage rest next s₁ here done =>
      simp only [promptly, here] at hrule
      refine ⟨hr.carries hs here done hrule fun hnone x hx d hsubject => ?_,
        hp.carries hr hs here done⟩
      exact hp.free hr hs here done hnone hx hsubject
  | receives events idle =>
      simp only [promptly, Bool.and_eq_true, decide_eq_true_eq, List.all_eq_true] at hrule
      refine ⟨hr.receives hs idle, hp.receives hs idle hrule.1 fun e he => ?_⟩
      exact hrule.2 _ (List.mem_map_of_mem he)
  | completes place r isOpen pending kept =>
      exact ⟨hr.completes kept rfl (hp.unclaimed_of_live hr (live_of_kept kept)),
        hp.completes hr kept rfl⟩
  | steals d =>
      have hwatched := fun c => hr.isWatched_steal hs hrule (c := c)
      exact ⟨hr.elsewhere hwatched, hp.elsewhere hr hwatched⟩
  | opens d number free => exact ⟨hr.elsewhere fun _ _ => rfl, hp.elsewhere hr fun _ _ => rfl⟩

theorem prompt_of_run (hrun : (State.new listener).run promptly moves = some s) :
    s.Sound ∧ s.Regular ∧ s.Prompt := by
  refine run_keeps (P := fun s => s.Sound ∧ s.Regular ∧ s.Prompt) ?_
    ⟨sound_new listener, regular_new listener, prompt_new listener⟩ hrun
  intro s move s' ⟨hs, hr, hp⟩ hrule h
  exact ⟨hs.goes (spares_of_rule hrule fun _ => rfl) h, hp.goes hr hs hrule h⟩

/-- **NO SOCKET ON LOAN IS WATCHED, AND NO IDLE CONNECTION IS LEFT UNWATCHED**: in every state of every
    run the numbers of live requests are not watched and no event was dropped for a number in flight;
    and in every state where no operation is under way every connection that is not busy is watched. -/
theorem never_watched_in_flight (hrun : (State.new listener).run promptly moves = some s) :
    (∀ r ∈ s.requests, r.socket.descriptor ∉ s.kernel.watched) ∧ s.stats.droppedBusy = 0 ∧
      (s.isQuiet = true → ∀ d e, (d, e) ∈ s.table → e.isBusy = false → d ∈ s.kernel.watched) := by
  obtain ⟨hs, hr, hp⟩ := prompt_of_run hrun
  refine ⟨?_, hp.undropped, ?_⟩
  · intro r hmem
    have hlive : 0 < s.live r.socket.descriptor :=
      List.countP_pos_iff.mpr ⟨r, hmem, decide_eq_true rfl⟩
    exact of_decide_eq_false (hp.unwatched_of_live hr hlive)
  · intro hquiet d e hmem hidle
    have hentry := Table.entry?_of_mem hs.table.distinct hmem
    cases hr.tracked hs (claims_eq_zero_of_quiet hquiet d) hentry with
    | watched socket own stands registered => exact registered
    | inFlight unregistered once => exact nomatch hidle

/-! ## What the readiness queue reports -/

theorem nodup_watched_dropSocket? (h : s.kernel.watched.Nodup) (socket : Option Socket) :
    (s.dropSocket? socket).kernel.watched.Nodup := by
  cases socket with
  | none => exact h
  | some socket => exact h.filter _

theorem Carries.nodup_watched (done : s.Carries luck stage s₁ next) (h : s.kernel.watched.Nodup) :
    s₁.kernel.watched.Nodup := by
  cases done with
  | watches | rearms => exact Kernel.nodup_watch h
  | quiets | losesNew | parkBarred | releases => exact h.filter _
  | leaves => exact Kernel.nodup_unwatchIf h
  | drops d socket => exact nodup_watched_dropSocket? (Kernel.nodup_unwatchIf h) socket
  | tracks socket lock =>
      exact nodup_watched_dropSocket? (s := { s with table := s.table.insert _ _ }) h _
  | _ => exact h

/-- In every run no number is watched twice. -/
theorem nodup_watched_of_run {rule : State → Move → Bool}
    (hrun : (State.new listener).run rule moves = some s) : s.kernel.watched.Nodup := by
  refine run_keeps (P := fun s => s.kernel.watched.Nodup) ?_ (List.nodup_singleton listener) hrun
  intro s move s' hs _ h
  cases h with
  | carries here done => exact done.nodup_watched hs
  | steals d => exact hs.filter _
  | receives | completes | opens => exact hs

theorem reports_sublist (k : Kernel) (poll : Poll) (numbers : List Descriptor) :
    ((numbers.filterMap (k.report? poll)).map Prod.fst).Sublist numbers := by
  induction numbers with
  | nil => exact List.Sublist.slnil
  | cons d numbers ih =>
      cases hreport : k.report? poll d with
      | none =>
          rw [List.filterMap_cons_none hreport]
          exact ih.cons d
      | some report =>
          have hsame : report.1 = d := by
            simp only [Kernel.report?] at hreport
            split at hreport
            · split at hreport <;> cases hreport
              rfl
            · cases hreport
          rw [List.filterMap_cons_some hreport, List.map_cons, hsame]
          exact ih.cons_cons d

/-- The events of a batch as the loop takes them. -/
def eventsOf (reports : List (Descriptor × EventFlags)) : List Event :=
  reports.map fun report => ⟨report.1, Readiness.classify report.2⟩

/-- **WHAT THE READINESS QUEUE REPORTS IS PROMPT**: whatever is ready, a batch that it reports in any
    state of any run has numbers that are watched, and each of them once. -/
theorem promptly_receive_of_wait {rule : State → Move → Bool}
    (hrun : (State.new listener).run rule moves = some s) {poll : Poll} {room : Nat}
    {reports : List (Descriptor × EventFlags)}
    (hwait : s.kernel.waitForEvents poll room = some reports) :
    s.promptly (.receive (eventsOf reports)) = true := by
  have hbatch : (reports.map Prod.fst).Sublist s.kernel.watched.reverse := by
    simp only [Kernel.waitForEvents] at hwait
    split at hwait
    · cases hwait
    · cases hwait
      exact ((List.take_sublist _ _).map _).trans (reports_sublist s.kernel poll _)
  have hnumbers : (eventsOf reports).map (·.descriptor) = reports.map Prod.fst := List.map_map
  have hnodup := List.nodup_reverse.mpr (nodup_watched_of_run hrun)
  simp only [promptly, hnumbers, Bool.and_eq_true, decide_eq_true_eq, List.all_eq_true]
  refine ⟨hbatch.nodup hnodup, fun d hd => decide_eq_true ?_⟩
  exact List.mem_reverse.mp (hbatch.subset hd)

/-! ## A run -/

/-- Two clients join and are ready in one batch.  While the loop takes up the second, the request for
    the first is finished on a thread of its own, and the two take turns. -/
def clientsCross : List Move :=
  let join (d : Descriptor) : Move :=
    .step 0 { arrival := .connection d { address := .loopback, port := 4000 } none none }
  [.receive [⟨3, .readable⟩], .step 0 {}, join 4, .step 0 {}, .step 0 {}, join 5, .step 0 {},
    .step 0 {}, .step 0 {}, .receive [⟨5, .readable⟩, ⟨4, .readable⟩], .step 0 {}, .step 0 {},
    .step 0 {}, .step 0 {}, .step 0 {}, .complete 0 true .empty, .step 1 {}, .step 0 {}, .step 1 {},
    .step 0 {}, .step 1 {}, .step 0 {}]

/-- A server on which a request was finished while another was handed out. -/
def crossedServer : State := ((State.new 3).run promptly clientsCross).getD (State.new 3)

theorem never_watched_in_flight_crossed :
    (State.new 3).run promptly clientsCross = some crossedServer ∧
    crossedServer.requests.length = 1 ∧ crossedServer.isBusy? 5 = some false ∧
    (∀ r ∈ crossedServer.requests, r.socket.descriptor ∉ crossedServer.kernel.watched) ∧
    crossedServer.stats.droppedBusy = 0 ∧
    ∀ d e, (d, e) ∈ crossedServer.table → e.isBusy = false → d ∈ crossedServer.kernel.watched := by
  have hrun : (State.new 3).run promptly clientsCross = some crossedServer :=
    (Option.getD_of_ne_none (by decide) _).symm
  obtain ⟨hunwatched, hundropped, hidle⟩ := never_watched_in_flight hrun
  exact ⟨hrun, by decide, by decide, hunwatched, hundropped, hidle (by decide)⟩

end State

end PooledServer.Events
