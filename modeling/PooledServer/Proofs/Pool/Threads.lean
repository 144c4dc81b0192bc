import PooledServer.Pool.Basic
import PooledServer.Proofs.Keyed

/-!
# Threads and workers of a pool

    Every thread has a number of its own, and every worker a thread of its own.  Under this invariant,
    `State.Placed`, the threads of a pool are a map from numbers to places: a thread that moves changes
    the map at its number, a new thread extends it, a thread that is joined leaves it.

    What the threads hold together is a sum over the map, `State.gather`, and changes with it. -/

namespace PooledServer.Pool

open Work (TaskId)

/-- The worker whose thread this is. -/
def Activity.worker? : Activity → Option Nat
  | .worker id _ => some id
  | .request | .submission .. | .execution _ | .order _ | .finished _ => none

theorem Activity.worker?_eq_some {a : Activity} {id : Nat} (h : a.worker? = some id) :
    ∃ p, a = .worker id p := by
  cases a with
  | worker n p =>
      cases Option.some.inj h
      exact ⟨p, rfl⟩
  | request | submission | execution | order | finished => exact nomatch h

namespace State

/-- Thread numbers and worker numbers are given once, and each worker has a thread. -/
structure Placed (s : State) : Prop where
  distinct : (s.threads.map (·.id)).Nodup
  numbered : ∀ th ∈ s.threads, th.id < s.nextThread
  enrolled : (s.workers.map (·.id)).Nodup
  recent : ∀ w ∈ s.workers, w.id < s.nextWorker
  staffed : ∀ w ∈ s.workers, ∃ p, s.activity? w.thread = some (.worker w.id p)
  known : ∀ t id p, s.activity? t = some (.worker id p) → ∃ w ∈ s.workers, w.id = id ∧ w.thread = t

variable {s s' : State} {t u : ThreadId} {a b : Activity}

theorem mem_threads_of_activity? (h : s.activity? t = some a) : (⟨t, a⟩ : Thread) ∈ s.threads := by
  obtain ⟨th, hfind, rfl⟩ := Option.map_eq_some_iff.mp h
  obtain ⟨hth, rfl⟩ := Keyed.mem_of_find? (f := Thread.id) hfind
  exact hth

theorem activity?_of_mem (hd : (s.threads.map (·.id)).Nodup) (h : (⟨t, a⟩ : Thread) ∈ s.threads) :
    s.activity? t = some a := by
  have hfind := Keyed.find?_of_mem (f := Thread.id) hd h
  simp only [activity?]
  rw [hfind]
  rfl

theorem Placed.lt_nextThread (hs : s.Placed) (h : s.activity? t = some a) : t < s.nextThread :=
  hs.numbered _ (mem_threads_of_activity? h)

/-- The next thread number is free. -/
theorem activity?_nextThread (h : ∀ th ∈ s.threads, th.id < s.nextThread) :
    s.activity? s.nextThread = none := by
  cases hactivity : s.activity? s.nextThread with
  | none => rfl
  | some a => exact absurd (h _ (mem_threads_of_activity? hactivity)) (Nat.lt_irrefl _)

theorem Placed.activity?_nextThread (hs : s.Placed) : s.activity? s.nextThread = none :=
  State.activity?_nextThread hs.numbered

/-! ## A thread that moves -/

theorem activity?_place (h : s.activity? t = some a) :
    (s.place t b).activity? = Function.update s.activity? t (some b) := by
  funext u
  have hfind := Keyed.find?_map (f := Thread.id) (l := s.threads)
    (Keyed.key_map_at (g := fun th => { th with activity := b }) (k := t) fun _ => rfl) u
  unfold activity? place
  rw [hfind, Option.map_map]
  by_cases hu : u = t
  · subst hu
    obtain ⟨th, hth, -⟩ := Option.map_eq_some_iff.mp h
    rw [Function.update_self, hth]
    simp [(Keyed.mem_of_find? (f := Thread.id) hth).2]
  · rw [Function.update_of_ne hu]
    cases hth : s.threads.find? fun th => th.id == u with
    | none => rfl
    | some th =>
        have hne : th.id ≠ t := fun h => hu ((Keyed.mem_of_find? (f := Thread.id) hth).2 ▸ h)
        simp [hne]

/-- A thread that stays where it is changes nothing. -/
theorem place_self (hd : (s.threads.map (·.id)).Nodup) (h : s.activity? t = some a) :
    s.place t a = s := by
  have hmap : s.threads.map (fun th => if th.id = t then { th with activity := a } else th) =
      s.threads := by
    refine (List.map_congr_left fun th hth => ?_).trans (List.map_id _)
    split
    · rename_i hid
      subst hid
      exact (List.inj_on_of_nodup_map hd hth (mem_threads_of_activity? h) rfl).symm
    · rfl
  simp only [place]
  rw [hmap]

theorem map_id_place : ((s.place t b).threads.map (·.id)) = s.threads.map (·.id) :=
  Keyed.map_key_map (f := Thread.id) (Keyed.key_map_at fun _ => rfl)

theorem numbered_place (h : ∀ th ∈ s.threads, th.id < s.nextThread) :
    ∀ th ∈ (s.place t b).threads, th.id < s.nextThread := by
  intro th hth
  have hid : th.id ∈ s.threads.map (·.id) := by
    rw [← map_id_place (s := s) (t := t) (b := b)]
    exact List.mem_map_of_mem hth
  obtain ⟨th₀, hth₀, heq⟩ := List.mem_map.mp hid
  rw [← heq]
  exact h th₀ hth₀

/-- A thread that moves keeps its number and its role. -/
theorem Placed.place (hs : s.Placed) (h : s.activity? t = some a) (hrole : b.worker? = a.worker?) :
    (s.place t b).Placed := by
  -- the thread is the worker's that it was, at another place
  have hworker : ∀ u id, (∃ p, s.activity? u = some (.worker id p)) ↔
      ∃ p, (s.place t b).activity? u = some (.worker id p) := by
    intro u id
    rw [activity?_place h]
    by_cases hu : u = t
    · subst hu
      rw [Function.update_self, h]
      constructor
      · rintro ⟨p, hp⟩
        cases hp
        obtain ⟨q, rfl⟩ := Activity.worker?_eq_some hrole
        exact ⟨q, rfl⟩
      · rintro ⟨p, hp⟩
        cases hp
        obtain ⟨q, rfl⟩ := Activity.worker?_eq_some hrole.symm
        exact ⟨q, rfl⟩
    · rw [Function.update_of_ne hu]
  refine ⟨?_, numbered_place hs.numbered, hs.enrolled, hs.recent, ?_, ?_⟩
  · rw [map_id_place]
    exact hs.distinct
  · intro w hw
    exact (hworker w.thread w.id).mp (hs.staffed w hw)
  · intro u id p hu
    obtain ⟨q, hq⟩ := (hworker u id).mpr ⟨p, hu⟩
    exact hs.known u id q hq

/-- A change of the workers that keeps their numbers and threads, and any change of the rest. -/
theorem Placed.of_eq (hs : s.Placed) {f : Worker → Worker} (hthreads : s'.threads = s.threads)
    (hnext : s'.nextThread = s.nextThread) (hworker : s'.nextWorker = s.nextWorker)
    (hworkers : s'.workers = s.workers.map f) (hf : ∀ w, (f w).id = w.id ∧ (f w).thread = w.thread) :
    s'.Placed := by
  have hactivity : s'.activity? = s.activity? := by
    funext u
    simp only [activity?]
    rw [hthreads]
  refine ⟨hthreads ▸ hs.distinct, ?_, ?_, ?_, ?_, ?_⟩
  · rw [hthreads, hnext]
    exact hs.numbered
  · rw [hworkers, List.map_map, show (fun w : Worker => w.id) ∘ f = (·.id) from funext fun w => (hf w).1]
    exact hs.enrolled
  · intro w hw
    rw [hworkers] at hw
    obtain ⟨w₀, hw₀, rfl⟩ := List.mem_map.mp hw
    rw [(hf w₀).1, hworker]
    exact hs.recent w₀ hw₀
  · intro w hw
    rw [hworkers] at hw
    obtain ⟨w₀, hw₀, rfl⟩ := List.mem_map.mp hw
    rw [(hf w₀).1, (hf w₀).2, hactivity]
    exact hs.staffed w₀ hw₀
  · intro u id p hu
    rw [hactivity] at hu
    obtain ⟨w, hw, hid, hthread⟩ := hs.known u id p hu
    refine ⟨f w, ?_, (hf w).1.trans hid, (hf w).2.trans hthread⟩
    rw [hworkers]
    exact List.mem_map_of_mem hw

/-! ## A thread that begins -/

theorem activity?_launch_of_free (hfree : s.activity? s.nextThread = none) :
    (s.launch a).activity? = Function.update s.activity? s.nextThread (some a) := by
  funext u
  unfold activity? launch
  rw [List.find?_append, Option.map_or]
  by_cases hu : u = s.nextThread
  · subst hu
    simp only [activity?] at hfree
    rw [Function.update_self, hfree]
    simp
  · rw [Function.update_of_ne hu]
    have hne : ((s.nextThread == u) = true) = False := by simpa using fun h => hu h.symm
    simp [hne]

theorem activity?_launch (hs : s.Placed) :
    (s.launch a).activity? = Function.update s.activity? s.nextThread (some a) :=
  activity?_launch_of_free hs.activity?_nextThread

/-- The threads after one more has begun: it and the others. -/
theorem launch_cases (hs : s.Placed) {u : ThreadId} {c : Activity}
    (hu : (s.launch a).activity? u = some c) : s.activity? u = some c ∨ u = s.nextThread ∧ c = a := by
  rw [activity?_launch hs] at hu
  by_cases hun : u = s.nextThread
  · subst hun
    rw [Function.update_self] at hu
    exact Or.inr ⟨rfl, (Option.some.inj hu).symm⟩
  · rw [Function.update_of_ne hun] at hu
    exact Or.inl hu

theorem activity?_launch_of_some (hs : s.Placed) {u : ThreadId} {c : Activity}
    (hu : s.activity? u = some c) : (s.launch a).activity? u = some c := by
  rw [activity?_launch hs, Function.update_of_ne (Nat.ne_of_lt (hs.lt_nextThread hu))]
  exact hu

theorem nodup_launch (hs : s.Placed) : ((s.launch a).threads.map (·.id)).Nodup :=
  Keyed.nodup_concat (f := Thread.id) hs.distinct fun th hth => Nat.ne_of_lt (hs.numbered th hth)

theorem numbered_launch (h : ∀ th ∈ s.threads, th.id < s.nextThread) :
    ∀ th ∈ (s.launch a).threads, th.id < (s.launch a).nextThread := by
  intro th hth
  rcases List.mem_append.mp hth with hold | hnew
  · exact Nat.lt_succ_of_lt (h th hold)
  · rw [List.mem_singleton.mp hnew]
    exact Nat.lt_succ_self _

/-- A new thread that is no worker's. -/
theorem Placed.launch (hs : s.Placed) (hrole : a.worker? = none) : (s.launch a).Placed := by
  refine ⟨nodup_launch hs, numbered_launch hs.numbered, hs.enrolled, hs.recent, ?_, ?_⟩
  · intro w hw
    obtain ⟨p, hp⟩ := hs.staffed w hw
    exact ⟨p, activity?_launch_of_some hs hp⟩
  · intro u id p hu
    rcases launch_cases hs hu with hold | ⟨-, rfl⟩
    · exact hs.known u id p hold
    · exact nomatch hrole

/-- An attempt to make a worker uses up a worker number and an item number. -/
def attempted (s : State) : State :=
  { s with registry := s.registry.skipId.2, nextWorker := s.nextWorker + 1 }

/-- The pool with one more worker, whose thread is about to begin. -/
def enlarged (s : State) : State :=
  let worker : Worker := { id := s.nextWorker, thread := s.nextThread }
  { s.attempted with workers := s.workers ++ [worker] }.launch
    (.worker s.nextWorker (.starting s.registry.nextId))

theorem activity?_enlarged (hs : s.Placed) :
    s.enlarged.activity? = Function.update s.activity? s.nextThread
      (some (.worker s.nextWorker (.starting s.registry.nextId))) :=
  activity?_launch (s := s) hs

/-- A new worker has a new thread. -/
theorem Placed.enlarged (hs : s.Placed) : s.enlarged.Placed := by
  refine ⟨nodup_launch (s := s) hs, numbered_launch (s := s) hs.numbered, ?_, ?_, ?_, ?_⟩
  · exact Keyed.nodup_concat (f := Worker.id) hs.enrolled fun w hw => Nat.ne_of_lt (hs.recent w hw)
  · intro w hw
    rcases List.mem_append.mp hw with hold | hnew
    · exact Nat.lt_succ_of_lt (hs.recent w hold)
    · rw [List.mem_singleton.mp hnew]
      exact Nat.lt_succ_self _
  · intro w hw
    rcases List.mem_append.mp hw with hold | hnew
    · obtain ⟨q, hq⟩ := hs.staffed w hold
      exact ⟨q, activity?_launch_of_some (s := s) hs hq⟩
    · rw [List.mem_singleton.mp hnew, activity?_enlarged hs]
      exact ⟨_, Function.update_self ..⟩
  · intro u id q hu
    rcases launch_cases (s := s) hs hu with hold | ⟨rfl, hworker⟩
    · obtain ⟨w, hw, hid⟩ := hs.known u id q hold
      exact ⟨w, List.mem_append_left _ hw, hid⟩
    · cases hworker
      exact ⟨_, List.mem_append_right _ (List.mem_singleton.mpr rfl), rfl, rfl⟩

/-! ## A thread that is joined -/

theorem activity?_remove (t : ThreadId) :
    State.activity? { s with threads := s.threads.filter (·.id != t) } =
      Function.update s.activity? t none := by
  funext u
  have hfind := Keyed.find?_filter_ne (f := Thread.id) (l := s.threads) (k := t) u
  unfold activity?
  rw [hfind]
  by_cases hu : u = t
  · rw [if_pos hu, hu, Function.update_self]
    rfl
  · rw [if_neg hu, Function.update_of_ne hu]

/-- The pool without its first worker `w`, whose thread has ended. -/
def dropFirst (s : State) (w : Worker) (rest : List Worker) : State :=
  { s with
    workers := rest
    retired := s.retired + w.executed
    threads := s.threads.filter (·.id != w.thread) }

theorem activity?_dropFirst (w : Worker) (rest : List Worker) :
    (s.dropFirst w rest).activity? = Function.update s.activity? w.thread none :=
  activity?_remove (s := s) w.thread

/-- A worker leaves together with its thread. -/
theorem Placed.dropFirst (hs : s.Placed) {w : Worker} {rest : List Worker}
    (hw : s.workers = w :: rest) : (s.dropFirst w rest).Placed := by
  have hmem : ∀ v ∈ rest, v ∈ s.workers := by
    intro v hv
    rw [hw]
    exact List.mem_cons_of_mem _ hv
  have hnodup : w.id ∉ rest.map (·.id) ∧ (rest.map (·.id)).Nodup := by
    have h := hs.enrolled
    rw [hw, List.map_cons] at h
    exact List.nodup_cons.mp h
  obtain ⟨pw, hpw⟩ := hs.staffed w (hw ▸ List.mem_cons_self ..)
  refine ⟨hs.distinct.sublist (List.filter_sublist.map _), ?_, hnodup.2, ?_, ?_, ?_⟩
  · intro th hth
    exact hs.numbered th (List.mem_filter.mp hth).1
  · intro v hv
    exact hs.recent v (hmem v hv)
  · intro v hv
    obtain ⟨q, hq⟩ := hs.staffed v (hmem v hv)
    refine ⟨q, ?_⟩
    -- one thread is one worker's, and the numbers of the others differ
    have hne : v.thread ≠ w.thread := by
      intro heq
      rw [heq, hpw] at hq
      rw [(Activity.worker.inj (Option.some.inj hq)).1] at hnodup
      exact hnodup.1 (List.mem_map_of_mem hv)
    rw [activity?_dropFirst, Function.update_of_ne hne]
    exact hq
  · intro u id q hu
    rw [activity?_dropFirst] at hu
    by_cases heq : u = w.thread
    · subst heq
      rw [Function.update_self] at hu
      exact nomatch hu
    · rw [Function.update_of_ne heq] at hu
      obtain ⟨v, hv, hid, hthread⟩ := hs.known u id q hu
      rw [hw] at hv
      rcases List.mem_cons.mp hv with rfl | hrest
      · exact absurd hthread.symm heq
      · exact ⟨v, hrest, hid, hthread⟩

/-! ## What the threads hold together -/

/-- The sum of what the threads hold, each according to its place. -/
def gather (s : State) (f : Activity → List TaskId) : Multiset TaskId :=
  (s.threads.map fun th => (f th.activity : Multiset TaskId)).sum

variable {f : Activity → List TaskId}

theorem mem_gather {i : TaskId} : i ∈ s.gather f ↔ ∃ th ∈ s.threads, i ∈ f th.activity := by
  simp only [gather]
  rw [Keyed.mem_sum_map]
  simp only [Multiset.mem_coe]

theorem gather_eq_zero (h : ∀ th ∈ s.threads, f th.activity = []) : s.gather f = 0 := by
  refine Multiset.eq_zero_of_forall_notMem fun i hi => ?_
  obtain ⟨th, hth, hmem⟩ := mem_gather.mp hi
  rw [h th hth] at hmem
  exact nomatch hmem

/-- What a thread lays down and what it takes up when it moves. -/
theorem gather_place (hd : (s.threads.map (·.id)).Nodup) (h : s.activity? t = some a) :
    (s.place t b).gather f + ↑(f a) = s.gather f + ↑(f b) :=
  Keyed.sum_map_at (f := Thread.id) (g := fun th => { th with activity := b }) hd
    (mem_threads_of_activity? h) fun th => (f th.activity : Multiset TaskId)

theorem gather_launch : (s.launch a).gather f = s.gather f + ↑(f a) := by
  simp only [gather, launch]
  rw [List.map_append, List.sum_append, List.map_singleton, List.sum_singleton]

/-- A thread that leaves takes along what it holds. -/
theorem gather_remove (hd : (s.threads.map (·.id)).Nodup) (h : s.activity? t = some a) :
    State.gather { s with threads := s.threads.filter (·.id != t) } f + ↑(f a) = s.gather f :=
  Keyed.sum_filter_ne (f := Thread.id) hd (mem_threads_of_activity? h) fun th =>
    (f th.activity : Multiset TaskId)

end State

end PooledServer.Pool
