import PooledServer.Proofs.Pool.Runs

/-!
# Calls of the application

    A call is carried out by a thread of its own, whose place in the end has what the call returns.  The
    caller collects the result and the thread is gone.  Such a thread has asked for nothing and holds no
    item, so a pool is as sane without it as it was with it. -/

namespace PooledServer.Pool

open Work (Item Note TaskId)

namespace State

variable {s s' : State} {t u : ThreadId} {a : Activity} {result : Result} {notes : List Note}

/-- Only a call that has returned can be collected. -/
theorem collect_eq (h : s.collect t = some (result, s')) :
    s.activity? t = some (.finished result) ∧
      s' = { s with threads := s.threads.filter (·.id != t) } := by
  simp only [collect] at h
  split at h
  · rename_i here
    obtain ⟨rfl, rfl⟩ := Prod.mk.inj (Option.some.inj h)
    exact ⟨here, rfl⟩
  · exact nomatch h

/-- A call that has returned can be collected. -/
theorem collect_of_finished (here : s.activity? t = some (.finished result)) :
    s.collect t = some (result, { s with threads := s.threads.filter (·.id != t) }) := by
  simp only [collect]
  rw [here]

/-- The other threads stay. -/
theorem activity?_collect (h : s.collect t = some (result, s')) :
    s'.activity? = Function.update s.activity? t none := by
  obtain ⟨-, rfl⟩ := collect_eq h
  exact activity?_remove t

/-- Whoever is there afterwards was there before, and is not the caller's thread. -/
theorem activity?_of_collect (h : s.collect t = some (result, s')) (hu : s'.activity? u = some a) :
    s.activity? u = some a ∧ u ≠ t := by
  rw [activity?_collect h] at hu
  by_cases hut : u = t
  · subst hut
    rw [Function.update_self] at hu
    exact nomatch hu
  · rw [Function.update_of_ne hut] at hu
    exact ⟨hu, hut⟩

/-- Whoever has not returned is there afterwards. -/
theorem activity?_collect_of_ne (h : s.collect t = some (result, s')) (hu : s.activity? u = some a)
    (hnot : a ≠ .finished result) : s'.activity? u = some a := by
  have hut : u ≠ t := by
    rintro rfl
    exact hnot (Option.some.inj (hu.symm.trans (collect_eq h).1))
  rw [activity?_collect h, Function.update_of_ne hut]
  exact hu

/-- Numbers stay as they were given. -/
theorem Placed.collect (hs : s.Placed) (h : s.collect t = some (result, s')) : s'.Placed := by
  have hstays := fun u a => activity?_collect_of_ne (u := u) (a := a) h
  have hback := fun u a => activity?_of_collect (u := u) (a := a) h
  obtain ⟨-, rfl⟩ := collect_eq h
  refine ⟨hs.distinct.sublist (List.filter_sublist.map _), ?_, hs.enrolled, hs.recent, ?_, ?_⟩
  · exact fun th hth => hs.numbered th (List.mem_filter.mp hth).1
  · intro w hw
    obtain ⟨p, hp⟩ := hs.staffed w hw
    exact ⟨p, hstays _ _ hp fun heq => nomatch heq⟩
  · exact fun u id p hu => hs.known u id p (hback _ _ hu).1

/-- Nobody asks for anything else. -/
theorem Asking.collect (hs : s.Asking) (h : s.collect t = some (result, s')) : s'.Asking := by
  have hactivity := activity?_collect h
  obtain ⟨here, rfl⟩ := collect_eq h
  refine ⟨fun u => ?_, hs.sound⟩
  rw [hactivity]
  refine (hs.asked u).trans ?_
  by_cases hut : u = t
  -- whoever has returned asks for nothing
  · subst hut
    rw [here, Function.update_self]
    rfl
  · rw [Function.update_of_ne hut]

/-- The thread holds nothing, so the books are as they were. -/
theorem Ledger.collect {said : List (Work.Fate × TaskId)} (h : s.Ledger said) (hs : s.Placed)
    (hcollect : s.collect t = some (result, s')) : s'.Ledger said := by
  have hback := fun u a => activity?_of_collect (u := u) (a := a) hcollect
  obtain ⟨here, rfl⟩ := collect_eq hcollect
  have hgather : ∀ {f : Activity → List TaskId}, f (.finished result) = [] →
      State.gather { s with threads := s.threads.filter (·.id != t) } f = s.gather f := by
    intro f hf
    have hremove := gather_remove (f := f) hs.distinct here
    rw [hf] at hremove
    exact (add_zero _).symm.trans hremove
  refine ⟨h.queue, ?_, ?_, ?_, ?_, h.executed, ?_⟩
  · rw [hgather rfl]
    exact h.held
  · rw [hgather rfl]
    exact h.begun
  · rw [hgather rfl]
    exact h.once
  · rw [hgather rfl]
    exact h.made
  · exact fun u item ok hu => h.answers u item ok (hback _ _ hu).1

/-- The tasks that are under way stay so: a call that has returned runs none of them. -/
theorem Calm.collect (h : s.Calm) (hcollect : s.collect t = some (result, s')) : s'.Calm := by
  have hstays := fun u a => activity?_collect_of_ne (u := u) (a := a) hcollect
  have hback := fun u a => activity?_of_collect (u := u) (a := a) hcollect
  obtain ⟨-, rfl⟩ := collect_eq hcollect
  refine ⟨h.guarded, h.tasks, h.queued, fun u c hu => h.threads u c (hback _ _ hu).1, ?_⟩
  intro task htask hbusy
  obtain ⟨u, c, hu, hc⟩ := h.busy task htask hbusy
  refine ⟨u, c, hstays _ _ hu ?_, hc⟩
  -- tasks are run by workers only
  rintro rfl
  obtain ⟨id, e, heq, -⟩ := hc
  cases heq

/-- The order that is under way stays the only one: a call that has returned is none. -/
theorem Orderly.collect (h : s.Orderly) (hcollect : s.collect t = some (result, s')) :
    s'.Orderly := by
  have hstays := fun u a => activity?_collect_of_ne (u := u) (a := a) hcollect
  have hback := fun u a => activity?_of_collect (u := u) (a := a) hcollect
  obtain ⟨-, rfl⟩ := collect_eq hcollect
  have hsteady : s.Steady { s with threads := s.threads.filter (·.id != t) } :=
    ⟨rfl, rfl, fun hw => hw, fun _ hu => hu, fun _ hi => hi⟩
  refine ⟨?_, ?_, ?_, ?_, h.asked⟩
  · exact fun u v p q hu hv => h.one u v p q (hback _ _ hu).1 (hback _ _ hv).1
  · exact fun u p hu => hsteady.fits (h.fits u p (hback _ _ hu).1)
  · exact fun hnone => hsteady.settled (h.settled fun u p hu =>
      hnone u p (hstays _ _ hu fun heq => nomatch heq))
  · exact fun u id p hu hp => h.out u id p (hback _ _ hu).1 hp

/-- **A POOL STAYS SANE** when the result of a call is collected. -/
theorem Sane.collect (h : s.Sane notes) (hcollect : s.collect t = some (result, s')) :
    s'.Sane notes :=
  ⟨h.placed.collect hcollect, h.asking.collect hcollect, h.books.collect h.placed hcollect,
    h.calm.collect hcollect, h.orderly.collect hcollect⟩

end State

end PooledServer.Pool
