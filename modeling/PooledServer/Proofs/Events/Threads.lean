import PooledServer.Events.Step
import PooledServer.Proofs.Keyed

/-!
# Threads of an event server

    Every thread has a number of its own (`State.Numbered`), so the threads are a map from numbers to
    agendas, which a step changes at one number.  What the stages of all threads amount to is a sum
    over them, `State.gather`. -/

namespace PooledServer.Events

open Net

namespace State

/-- Thread numbers are given once. -/
structure Numbered (s : State) : Prop where
  distinct : (s.threads.map (·.id)).Nodup
  below : ∀ th ∈ s.threads, th.id < s.nextThread

variable {s s' s₁ : State} {t u : ThreadId} {a b rest : List Stage} {stage : Stage}

theorem mem_threads_of_agenda? (h : s.agenda? t = some a) : (⟨t, a⟩ : Thread) ∈ s.threads := by
  obtain ⟨th, hfind, rfl⟩ := Option.map_eq_some_iff.mp h
  obtain ⟨hth, rfl⟩ := Keyed.mem_of_find? (f := Thread.id) hfind
  exact hth

theorem agenda?_of_mem (hs : s.Numbered) {th : Thread} (hth : th ∈ s.threads) :
    s.agenda? th.id = some th.agenda := by
  have hfind := Keyed.find?_of_mem (f := Thread.id) hs.distinct hth
  simp only [agenda?]
  rw [hfind]
  rfl

/-! ## A thread that goes on -/

theorem map_id_setAgenda : ((s.setAgenda t b).threads.map (·.id)) = s.threads.map (·.id) :=
  Keyed.map_key_map (f := Thread.id) (Keyed.key_map_at fun _ => rfl)

theorem Numbered.setAgenda (hs : s.Numbered) : (s.setAgenda t b).Numbered := by
  constructor
  · rw [map_id_setAgenda]
    exact hs.distinct
  · intro th hth
    have hid : th.id ∈ s.threads.map (·.id) := by
      rw [← map_id_setAgenda (s := s) (t := t) (b := b)]
      exact List.mem_map_of_mem hth
    obtain ⟨th₀, hth₀, heq⟩ := List.mem_map.mp hid
    rw [← heq]
    exact hs.below th₀ hth₀

/-- The stages before a thread that goes on are its own new ones or those of others. -/
theorem of_mem_setAgenda {th : Thread} (hth : th ∈ (s.setAgenda t b).threads) :
    th = ⟨t, b⟩ ∨ th.id ≠ t ∧ th ∈ s.threads := by
  obtain ⟨th₀, hth₀, rfl⟩ := List.mem_map.mp hth
  split
  · rename_i hid
    exact Or.inl (by rw [← hid])
  · rename_i hid
    exact Or.inr ⟨hid, hth₀⟩

theorem mem_setAgenda_self (h : s.agenda? t = some a) :
    (⟨t, b⟩ : Thread) ∈ (s.setAgenda t b).threads :=
  List.mem_map.mpr ⟨_, mem_threads_of_agenda? h, if_pos rfl⟩

theorem mem_setAgenda_of_ne {th : Thread} (hth : th ∈ s.threads) (hne : th.id ≠ t) :
    th ∈ (s.setAgenda t b).threads :=
  List.mem_map.mpr ⟨th, hth, if_neg hne⟩

/-! ## A thread that begins -/

/-- The server with one more thread. -/
def launch (s : State) (a : List Stage) : State :=
  { s with nextThread := s.nextThread + 1, threads := s.threads ++ [⟨s.nextThread, a⟩] }

theorem Numbered.launch (hs : s.Numbered) : (s.launch a).Numbered := by
  constructor
  · exact Keyed.nodup_concat (f := Thread.id) hs.distinct fun th hth => Nat.ne_of_lt (hs.below th hth)
  · intro th hth
    rcases List.mem_append.mp hth with hold | hnew
    · exact Nat.lt_succ_of_lt (hs.below th hold)
    · rw [List.mem_singleton.mp hnew]
      exact Nat.lt_succ_self _

/-! ## What the stages amount to -/

variable {M : Type*} [AddCommMonoid M] {f : Stage → M}

/-- The sum over the stages of all threads. -/
def gather (s : State) (f : Stage → M) : M := (s.threads.map fun th => (th.agenda.map f).sum).sum

theorem mem_gather {α : Type*} {f : Stage → Multiset α} {x : α} :
    x ∈ s.gather f ↔ ∃ th ∈ s.threads, ∃ stage ∈ th.agenda, x ∈ f stage := by
  simp only [gather]
  rw [Keyed.mem_sum_map]
  simp only [Keyed.mem_sum_map]

theorem gather_launch : (s.launch a).gather f = s.gather f + (a.map f).sum := by
  show ((s.threads ++ [_]).map _).sum = _
  rw [List.map_append, List.sum_append, List.map_singleton, List.sum_singleton]
  rfl

/-- Stages that are carried out are replaced in the sum by those that follow them. -/
theorem exists_gather_rest {done rest : List Stage} (hd : (s.threads.map (·.id)).Nodup)
    (here : s.agenda? t = some (done ++ rest)) (f : Stage → M) :
    ∃ c, s.gather f = (done.map f).sum + c ∧
      ∀ next, (s.setAgenda t (next ++ rest)).gather f = (next.map f).sum + c := by
  obtain ⟨c, hbefore, hafter⟩ := Keyed.exists_sum_rest (f := Thread.id) hd
    (mem_threads_of_agenda? here) fun th => (th.agenda.map f).sum
  refine ⟨(rest.map f).sum + c, ?_, fun next => ?_⟩
  · rw [← add_assoc, ← List.sum_append, ← List.map_append]
    exact hbefore
  · rw [← add_assoc, ← List.sum_append, ← List.map_append]
    exact hafter fun th => { th with agenda := next ++ rest }

/-- A thread that has nothing before it adds to the sum when it gets something to do. -/
theorem Numbered.gather_of_idle (hs : s.Numbered) (idle : s.agenda? t = some []) (next : List Stage)
    (f : Stage → M) : (s.setAgenda t next).gather f = (next.map f).sum + s.gather f := by
  have hagenda : s.agenda? t = some ([] ++ []) := idle
  obtain ⟨c, hbefore, hafter⟩ := exists_gather_rest hs.distinct hagenda f
  have hnew := hafter next
  rw [List.append_nil] at hnew
  rw [hnew, hbefore, List.map_nil, List.sum_nil, zero_add]

/-- A stage, and what there is to do besides. -/
theorem Numbered.gather_split (hs : s.Numbered) (here : s.agenda? t = some (stage :: rest))
    (f : Stage → M) : s.gather f = f stage + (s.setAgenda t rest).gather f := by
  have hagenda : s.agenda? t = some ([stage] ++ rest) := here
  obtain ⟨c, hbefore, hafter⟩ := exists_gather_rest hs.distinct hagenda f
  have hrest := hafter []
  rw [List.nil_append, List.map_nil, List.sum_nil, zero_add] at hrest
  rw [hbefore, hrest, List.map_singleton, List.sum_singleton]

/-- What follows a stage, and what there was to do besides. -/
theorem Numbered.gather_next (hs : s.Numbered) (here : s.agenda? t = some (stage :: rest))
    (hthreads : s₁.threads = s.threads) (next : List Stage) (f : Stage → M) :
    (s₁.setAgenda t (next ++ rest)).gather f =
      (next.map f).sum + (s.setAgenda t rest).gather f := by
  have hagenda : s.agenda? t = some ([stage] ++ rest) := here
  obtain ⟨c, -, hafter⟩ := exists_gather_rest hs.distinct hagenda f
  have hrest := hafter []
  rw [List.nil_append, List.map_nil, List.sum_nil, zero_add] at hrest
  rw [hrest, ← hafter next]
  simp only [gather, State.setAgenda]
  rw [hthreads]

/-- What other threads have before them, and this one later, is the same before and after a stage. -/
theorem Numbered.exists_gather (hs : s.Numbered) (here : s.agenda? t = some (stage :: rest))
    (hthreads : s₁.threads = s.threads) (next : List Stage) (f : Stage → M) :
    ∃ c, s.gather f = f stage + c ∧
      (s₁.setAgenda t (next ++ rest)).gather f = (next.map f).sum + c :=
  ⟨_, hs.gather_split here f, hs.gather_next here hthreads next f⟩

end State

end PooledServer.Events
