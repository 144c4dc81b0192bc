import PooledServer.Sync.Guard
import PooledServer.Proofs.Keyed

/-!
# Guards give back what they have taken

    Threads make guards on one mutex, one inside the other if they like, unlock some early, wait through
    others and let all of them go.  What each guard believes is what is true: the mutex is held if and
    only if one guard says that it holds it, and then by its thread (`Guarded.Sound`).

    So no guard is ever refused what it asks of the mutex, and the deeds of an attempt follow one
    pattern: an attempt that has failed does nothing more, and one that has succeeded waits any number of
    times and gives the lock up once (`History`). -/

namespace PooledServer.Sync

/-! ## Calls on the mutex -/

namespace Mutex

variable {m : Mutex} {t : ThreadId} {called : Called Mutex}

/-- A lock that is taken was free and is the thread's; one that is refused stays as it was. -/
theorem callLock_eq_some (h : m.callLock t = some called) :
    called.result = true ∧ m.holder = none ∧ called.after.holder = some t ∨
      called.result = false ∧ called.after.holder = m.holder := by
  simp only [callLock, lock] at h
  cases hholder : m.holder with
  | none =>
      rw [hholder] at h
      obtain rfl := Option.some.inj h
      exact Or.inl ⟨rfl, rfl, rfl⟩
  | some u =>
      -- the holder itself is refused, anybody else has to wait
      rw [hholder] at h
      by_cases hu : u = t
      · simp only [if_pos hu] at h
        obtain rfl := Option.some.inj h
        exact Or.inr ⟨rfl, hholder⟩
      · simp only [if_neg hu] at h
        exact nomatch h

/-- So it is with a lock that is only tried. -/
theorem callTryLock_cases (m : Mutex) (t : ThreadId) :
    (m.callTryLock t).result = true ∧ m.holder = none ∧ (m.callTryLock t).after.holder = some t ∨
      (m.callTryLock t).result = false ∧ (m.callTryLock t).after.holder = m.holder := by
  simp only [callTryLock, tryLock]
  cases hholder : m.holder with
  | none => exact Or.inl ⟨rfl, rfl, rfl⟩
  | some u => exact Or.inr ⟨rfl, hholder⟩

/-- An attempt takes a free mutex, or leaves the mutex as it is. -/
theorem attempt_eq_some {block works : Bool} (h : m.attempt t block works = some called) :
    called.result = true ∧ m.holder = none ∧ called.after.holder = some t ∨
      called.result = false ∧ called.after.holder = m.holder := by
  cases works with
  | false =>
      obtain rfl := Option.some.inj h
      exact Or.inr ⟨rfl, rfl⟩
  | true =>
      cases block with
      | true => exact callLock_eq_some h
      | false =>
          obtain rfl := Option.some.inj h
          exact m.callTryLock_cases t

/-- The holder's unlocking is not refused. -/
theorem callUnlock_of_holder (h : m.holder = some t) :
    (m.callUnlock t).result = true ∧ (m.callUnlock t).after.holder = none := by
  simp only [callUnlock, unlock]
  rw [if_pos h]
  exact ⟨rfl, rfl⟩

end Mutex

/-! ## What one move can do -/

namespace LockGuard

/-- The guard has nothing of the mutex, now or after a wait. -/
def Idle (g : LockGuard) : Prop := g.holds = false ∧ g.waits = false

/-- The thread for which a guard has the lock. -/
def holder? (g : LockGuard) : Option ThreadId := if g.holds then some g.thread else none

theorem holder?_of_holds {g : LockGuard} (h : g.holds = true) : g.holder? = some g.thread := if_pos h

theorem holder?_of_not {g : LockGuard} (h : g.holds = false) : g.holder? = none :=
  if_neg (by rw [h]; exact Bool.false_ne_true)

theorem holder?_of_waits {g : LockGuard} (h : g.waits = true) : g.holder? = none := by
  cases g with
  | bare g => exact nomatch h
  | access g => exact holder?_of_not (by simp only [holds]; rw [show g.waiting = true from h]; rfl)

theorem Idle.holder? {g : LockGuard} (h : g.Idle) : g.holder? = none := holder?_of_not h.1

theorem waits_of_not_holds {g : LockGuard} (h : g.holds = true) : g.waits = false := by
  cases g with
  | bare g => rfl
  | access g => exact Bool.not_eq_true' _ ▸ h

end LockGuard

namespace Guarded

variable {s s' : Guarded} {n k : Nat} {g : LockGuard}

/-- The thread for which the guard of an attempt has the lock. -/
def holder? (s : Guarded) (n : Nat) : Option ThreadId := (s.guard? n).bind LockGuard.holder?

/-- One move changes the guard of one attempt, with the holder of the mutex and what is done. -/
inductive Moved (s s' : Guarded) : Nat → Option LockGuard → Option LockGuard → List Deed → Prop where
  | fails (new : Option LockGuard) (hnew : ∀ g ∈ new, g.Idle) (holder : s'.mutex.holder = s.mutex.holder)
      (next : s'.attempts = s.attempts + 1) : Moved s s' s.attempts none new [.failed s.attempts]
  | acquires (g : LockGuard) (hg : g.holds = true) (free : s.mutex.holder = none)
      (holder : s'.mutex.holder = some g.thread) (next : s'.attempts = s.attempts + 1) :
      Moved s s' s.attempts none (some g) [.acquired s.attempts]
  | releases (n : Nat) (g : LockGuard) (hg : g.holds = true) (new : Option LockGuard)
      (hnew : ∀ g ∈ new, g.Idle) (holder : s'.mutex.holder = none) (next : s'.attempts = s.attempts) :
      Moved s s' n (some g) new [.released n]
  | rests (n : Nat) (g : LockGuard) (hg : g.Idle) (new : Option LockGuard) (hnew : ∀ g ∈ new, g.Idle)
      (holder : s'.mutex.holder = s.mutex.holder) (next : s'.attempts = s.attempts) :
      Moved s s' n (some g) new []
  | suspends (n : Nat) (g g' : LockGuard) (hg : g.holds = true) (hg' : g'.waits = true)
      (holder : s'.mutex.holder = none) (next : s'.attempts = s.attempts) :
      Moved s s' n (some g) (some g') [.suspended n]
  | resumes (n : Nat) (g g' : LockGuard) (hg : g.waits = true) (hg' : g'.holds = true)
      (free : s.mutex.holder = none) (holder : s'.mutex.holder = some g'.thread)
      (next : s'.attempts = s.attempts) : Moved s s' n (some g) (some g') [.resumed n]

/-! ### The guards as a map -/

theorem guard?_without (mutex : Mutex) (attempts : Nat) :
    (⟨mutex, s.without n, attempts⟩ : Guarded).guard? = Function.update s.guard? n none :=
  Keyed.value?_filter_ne

/-- A guard that changes is the only one to change. -/
theorem guard?_replace (mutex : Mutex) :
    (s.replace n g mutex).guard? = Function.update s.guard? n (some g) := by
  show Keyed.value? ((n, g) :: s.guards.filter (·.1 != n)) = _
  rw [Keyed.value?_cons, Keyed.value?_filter_ne, Function.update_idem]
  rfl

/-- So is one that is new. -/
theorem guard?_enter (called : Called Mutex) (new : Option LockGuard)
    (hfresh : s.guard? s.attempts = none) :
    (s.enter called new).1.guard? = Function.update s.guard? s.attempts new := by
  cases new with
  | some g => exact Keyed.value?_cons
  | none =>
      -- nothing is made, and nothing was there
      exact (Function.update_eq_self_iff.mpr hfresh.symm).symm

/-- Who waits is blocked. -/
theorem waits_eq_false (h : s.guard? n = some g) (hfree : s.blocked g.thread = false) :
    g.waits = false := by
  have hmem : (n, g) ∈ s.guards := Keyed.mem_of_value? h
  by_contra hwaits
  have hblocked : s.blocked g.thread = true := by
    refine List.any_eq_true.mpr ⟨(n, g), hmem, ?_⟩
    simpa using hwaits
  exact Bool.false_ne_true (hfree.symm.trans hblocked)

/-! ### What guards say is true -/

/-- Nobody has the lock, or one thread by one guard. -/
inductive Sole : Option ThreadId → (Nat → Option ThreadId) → Prop where
  | free : Sole none fun _ => none
  | held (n : Nat) (t : ThreadId) : Sole (some t) (Function.update (fun _ => none) n (some t))

/-- The mutex is held as the guards say, and what is to come has no guard. -/
structure Sound (s : Guarded) : Prop where
  sole : Sole s.mutex.holder s.holder?
  fresh : ∀ n, s.attempts ≤ n → s.guard? n = none

namespace Sole

variable {holder : Option ThreadId} {view : Nat → Option ThreadId} {t : ThreadId}

/-- A guard that has the lock has the mutex. -/
theorem holder_eq (h : Sole holder view) (hn : view n = some t) : holder = some t := by
  cases h with
  | free => exact nomatch hn
  | held m u =>
      by_cases hm : n = m
      · rw [hm, Function.update_self] at hn
        exact hn
      · rw [Function.update_of_ne hm] at hn
        exact nomatch hn

/-- Who holds the mutex has a guard. -/
theorem exists_of_holder (h : Sole holder view) (hholder : holder = some t) :
    ∃ n, view n = some t := by
  cases h with
  | free => exact nomatch hholder
  | held n u => exact ⟨n, by rw [Function.update_self, hholder]⟩

/-- When a free mutex is taken by a guard, that guard is the only one. -/
theorem taken (h : Sole none view) (n : Nat) (t : ThreadId) :
    Sole (some t) (Function.update view n (some t)) := by
  cases h
  exact .held n t

/-- When the one guard gives the mutex up there is none. -/
theorem given (h : Sole holder view) (hn : view n = some t) :
    Sole none (Function.update view n none) := by
  cases h with
  | free => exact nomatch hn
  | held m u =>
      by_cases hm : n = m
      · subst hm
        rw [Function.update_idem, Function.update_eq_self]
        exact .free
      · rw [Function.update_of_ne hm] at hn
        exact nomatch hn

/-- No two guards hold the mutex. -/
theorem eq_of_holds {m : Nat} {u : ThreadId} (h : Sole holder view) (hn : view n = some t)
    (hm : view m = some u) : n = m := by
  cases h with
  | free => exact nomatch hn
  | held k v =>
      have hk : ∀ i, ∀ w, Function.update (fun _ => none) k (some v) i = some w → i = k := by
        intro i w hi
        by_contra hne
        rw [Function.update_of_ne hne] at hi
        exact nomatch hi
      rw [hk n t hn, hk m u hm]

end Sole

theorem holder?_eq (h : s.guard? n = some g) : s.holder? n = g.holder? := by
  simp only [holder?]
  rw [h]
  rfl

theorem holder?_eq_some {t : ThreadId} :
    s.holder? n = some t ↔ ∃ g, s.guard? n = some g ∧ g.holds = true ∧ g.thread = t := by
  simp only [holder?]
  rw [Option.bind_eq_some_iff]
  refine exists_congr fun g => and_congr_right fun _ => ?_
  simp only [LockGuard.holder?]
  rw [Option.ite_none_right_eq_some, Option.some_inj]

/-- The guard of a holding attempt belongs to the holder of the mutex. -/
theorem Sound.holder_eq (hs : s.Sound) (h : s.guard? n = some g) (hg : g.holds = true) :
    s.mutex.holder = some g.thread :=
  hs.sole.holder_eq ((holder?_eq h).trans (LockGuard.holder?_of_holds hg))

/-! ### Every move is one of these -/

section

variable {called : Called Mutex} {deeds : List Deed} {t : ThreadId}

/-- An attempt takes the lock for its guard, or makes at most an idle one. -/
theorem entered {block works : Bool} {new : Option LockGuard}
    (hcall : s.mutex.attempt t block works = some called) (h : s.enter called new = (s', deeds))
    (htaken : called.result = true → ∃ g, new = some g ∧ g.holds = true ∧ g.thread = t)
    (hfailed : called.result = false → ∀ g ∈ new, g.Idle) :
    s.Moved s' s.attempts none new deeds := by
  have hdeeds : deeds = [if called.result then .acquired s.attempts else .failed s.attempts] :=
    congrArg Prod.snd h.symm
  obtain rfl : s' = (s.enter called new).1 := congrArg Prod.fst h.symm
  rw [hdeeds]
  rcases Mutex.attempt_eq_some hcall with ⟨hresult, free, hholder⟩ | ⟨hresult, hholder⟩
  · obtain ⟨g, rfl, hg, rfl⟩ := htaken hresult
    rw [if_pos hresult]
    exact .acquires g hg free hholder rfl
  · rw [if_neg (by rw [hresult]; exact Bool.false_ne_true)]
    exact .fails new (hfailed hresult) hholder rfl

/-- What a guard that holds the lock unlocks, it gives back. -/
theorem Sound.moved_release (hs : s.Sound) (h : s.guard? n = some g) (hg : g.holds = true)
    {new : Option LockGuard} (hnew : ∀ g ∈ new, g.Idle)
    (hholder : s'.mutex = (s.mutex.callUnlock g.thread).after) (next : s'.attempts = s.attempts) :
    s.Moved s' n (some g) new (unlocked n true (s.mutex.callUnlock g.thread)) := by
  obtain ⟨hresult, hfree⟩ := Mutex.callUnlock_of_holder (hs.holder_eq h hg)
  rw [unlocked, if_pos rfl, if_pos hresult]
  exact .releases n g hg new hnew (by rw [hholder, hfree]) next

/-- A move changes nothing, or the guard of one attempt as above. -/
theorem Sound.moved (hs : s.Sound) {m : GuardMove} (h : s.move m = some (s', deeds)) :
    s' = s ∧ deeds = [] ∨
      ∃ n old new, s.guard? n = old ∧ s'.guard? = Function.update s.guard? n new ∧
        s.Moved s' n old new deeds := by
  have hfresh : s.guard? s.attempts = none := hs.fresh _ (Nat.le_refl _)
  cases m with
  | guard t works =>
      simp only [move] at h
      split at h
      · exact nomatch h
      · obtain ⟨called, hcall, henter⟩ := Option.map_eq_some_iff.mp h
        refine Or.inr ⟨s.attempts, none, _, hfresh, ?_,
          entered hcall henter (fun hr => ⟨_, rfl, hr, rfl⟩) ?_⟩
        · rw [← guard?_enter called _ hfresh, henter]
        · rintro hr g ⟨⟩
          exact ⟨hr, rfl⟩
  | access t block works =>
      simp only [move] at h
      split at h
      · exact nomatch h
      · obtain ⟨called, hcall, henter⟩ := Option.map_eq_some_iff.mp h
        refine Or.inr ⟨s.attempts, none, _, hfresh, ?_,
          entered hcall henter (fun hr => ⟨_, if_pos hr, rfl, rfl⟩) ?_⟩
        · rw [← guard?_enter called _ hfresh, henter]
        · intro hr g hg
          rw [if_neg (by rw [hr]; exact Bool.false_ne_true)] at hg
          exact nomatch hg
  | unlock n =>
      simp only [move] at h
      split at h
      · rename_i g hguard
        split at h
        · exact nomatch h
        · obtain ⟨rfl, rfl⟩ := Prod.mk.inj (Option.some.inj h)
          refine Or.inr ⟨n, _, _, hguard, guard?_replace _, ?_⟩
          simp only [Guard.unlock]
          cases hlocked : g.locked with
          | true =>
              exact hs.moved_release hguard hlocked (by rintro x ⟨⟩; exact ⟨rfl, rfl⟩) rfl rfl
          | false =>
              have hidle : (LockGuard.bare g).Idle := ⟨hlocked, rfl⟩
              exact .rests n _ hidle _ (by rintro x ⟨⟩; exact hidle) rfl rfl
      · exact nomatch h
  | drop n =>
      simp only [move] at h
      split at h
      · rename_i g hguard
        split at h
        · exact nomatch h
        · rename_i hfree
          have hwaits := waits_eq_false hguard (Bool.eq_false_iff.mpr hfree)
          obtain ⟨rfl, rfl⟩ := Prod.mk.inj (Option.some.inj h)
          refine Or.inr ⟨n, _, none, hguard, guard?_without _ _, ?_⟩
          cases g with
          | bare g =>
              simp only [LockGuard.drop, Guard.drop, LockGuard.unlocks]
              cases hlocked : g.locked with
              | true => exact hs.moved_release hguard hlocked (fun x hx => nomatch hx) rfl rfl
              | false =>
                  have hidle : (LockGuard.bare g).Idle := ⟨hlocked, rfl⟩
                  exact .rests n _ hidle _ (fun x hx => nomatch hx) rfl rfl
          | access g =>
              have hholds : (LockGuard.access g).holds = true := Bool.not_eq_true' _ ▸ hwaits
              exact hs.moved_release hguard hholds (fun x hx => nomatch hx) rfl rfl
      · exact nomatch h
  | wait n works =>
      simp only [move] at h
      split at h
      · rename_i g hguard
        split at h
        · exact nomatch h
        · rename_i hfree
          have hwaits := waits_eq_false hguard (Bool.eq_false_iff.mpr hfree)
          have hholds : (LockGuard.access g).holds = true := Bool.not_eq_true' _ ▸ hwaits
          split at h
          · have hholder : s.mutex.holder = some g.thread := hs.holder_eq hguard hholds
            rw [Mutex.release, if_pos hholder] at h
            obtain ⟨rfl, rfl⟩ := Prod.mk.inj (Option.some.inj h)
            exact Or.inr ⟨n, _, _, hguard, guard?_replace _, .suspends n _ _ hholds rfl rfl rfl⟩
          · obtain ⟨rfl, rfl⟩ := Prod.mk.inj (Option.some.inj h)
            exact Or.inl ⟨rfl, rfl⟩
      · exact nomatch h
  | resume n =>
      simp only [move] at h
      split at h
      · rename_i g hguard
        split at h
        · rename_i hwaits
          obtain ⟨mutex, hretake, heq⟩ := Option.map_eq_some_iff.mp h
          obtain ⟨rfl, rfl⟩ := Prod.mk.inj heq
          simp only [Mutex.retake] at hretake
          split at hretake
          · rename_i free
            obtain rfl := Option.some.inj hretake
            exact Or.inr ⟨n, _, _, hguard, guard?_replace _,
              .resumes n _ _ hwaits rfl free rfl rfl⟩
          · exact nomatch hretake
        · exact nomatch h
      · exact nomatch h

end

/-! ### What guards say stays true -/

theorem holder?_update {new : Option LockGuard}
    (h : s'.guard? = Function.update s.guard? n new) :
    s'.holder? = Function.update s.holder? n (new.bind LockGuard.holder?) := by
  funext m
  simp only [holder?]
  rw [h]
  by_cases hm : m = n
  · subst hm
    rw [Function.update_self, Function.update_self]
  · rw [Function.update_of_ne hm, Function.update_of_ne hm]
    rfl

/-- An idle guard holds nothing. -/
theorem bind_holder?_of_idle {new : Option LockGuard} (h : ∀ g ∈ new, g.Idle) :
    new.bind LockGuard.holder? = none :=
  Option.bind_eq_none_iff.mpr fun g hg => (h g hg).holder?

/-- A new attempt is the next one, and any other move is about an earlier one. -/
theorem Moved.attempts_eq {old new : Option LockGuard} {deeds : List Deed}
    (h : s.Moved s' n old new deeds) :
    old = none ∧ n = s.attempts ∧ s'.attempts = s.attempts + 1 ∨
      old ≠ none ∧ s'.attempts = s.attempts := by
  cases h with
  | fails new hnew holder next => exact Or.inl ⟨rfl, rfl, next⟩
  | acquires g hg free holder next => exact Or.inl ⟨rfl, rfl, next⟩
  | releases n g hg new hnew holder next => exact Or.inr ⟨Option.some_ne_none g, next⟩
  | rests n g hg new hnew holder next => exact Or.inr ⟨Option.some_ne_none g, next⟩
  | suspends n g g' hg hg' holder next => exact Or.inr ⟨Option.some_ne_none g, next⟩
  | resumes n g g' hg hg' free holder next => exact Or.inr ⟨Option.some_ne_none g, next⟩

/-- A guard's move leaves the mutex with the one guard that holds it. -/
theorem Moved.sole {old new : Option LockGuard} {deeds : List Deed} (h : s.Moved s' n old new deeds)
    (hs : Sole s.mutex.holder s.holder?) (hold : s.holder? n = old.bind LockGuard.holder?) :
    Sole s'.mutex.holder (Function.update s.holder? n (new.bind LockGuard.holder?)) := by
  cases h with
  | fails new hnew holder next =>
      rw [bind_holder?_of_idle hnew, holder, Function.update_eq_self_iff.mpr hold.symm]
      exact hs
  | acquires g hg free holder next =>
      rw [holder, Option.bind_some, LockGuard.holder?_of_holds hg]
      rw [free] at hs
      exact hs.taken _ _
  | releases n g hg new hnew holder next =>
      rw [bind_holder?_of_idle hnew, holder]
      exact hs.given (hold.trans (LockGuard.holder?_of_holds hg))
  | rests n g hg new hnew holder next =>
      rw [bind_holder?_of_idle hnew, holder, Function.update_eq_self_iff.mpr]
      · exact hs
      · exact (hold.trans hg.holder?).symm
  | suspends n g g' hg hg' holder next =>
      rw [holder, Option.bind_some, LockGuard.holder?_of_waits hg']
      exact hs.given (hold.trans (LockGuard.holder?_of_holds hg))
  | resumes n g g' hg hg' free holder next =>
      rw [holder, Option.bind_some, LockGuard.holder?_of_holds hg']
      rw [free] at hs
      exact hs.taken _ _

/-- Every move keeps the mutex and its guards in line. -/
theorem Sound.move (hs : s.Sound) {m : GuardMove} {deeds : List Deed}
    (h : s.move m = some (s', deeds)) : s'.Sound := by
  rcases hs.moved h with ⟨rfl, -⟩ | ⟨n, old, new, hold, hview, hmoved⟩
  · exact hs
  · refine ⟨?_, fun k hk => ?_⟩
    · rw [holder?_update hview]
      exact hmoved.sole hs.sole (by rw [holder?, hold])
    · rw [hview]
      rcases hmoved.attempts_eq with ⟨-, rfl, hnext⟩ | ⟨hsome, hnext⟩
      · rw [Function.update_of_ne (by omega)]
        exact hs.fresh k (by omega)
      · have hk' : s.guard? k = none := hs.fresh k (hnext ▸ hk)
        rw [Function.update_of_ne]
        · exact hk'
        · rintro rfl
          exact hsome (hold.symm.trans hk')

/-! ## The deeds of an attempt -/

/-- The deeds of one attempt. -/
def deedsOf (n : Nat) (deeds : List Deed) : List Deed := deeds.filter (·.attempt == n)

/-- A number of waits, each with its end. -/
def rounds (n k : Nat) : List Deed := (List.replicate k [.suspended n, .resumed n]).flatten

/-- What an attempt has done, with the guard that there is of it. -/
inductive History (n : Nat) : List Deed → Option LockGuard → Prop where
  | failed (guard : Option LockGuard) (hguard : ∀ g ∈ guard, g.Idle) : History n [.failed n] guard
  | holding (k : Nat) (g : LockGuard) (hg : g.holds = true) :
      History n (.acquired n :: rounds n k) (some g)
  | waiting (k : Nat) (g : LockGuard) (hg : g.waits = true) :
      History n (.acquired n :: rounds n k ++ [.suspended n]) (some g)
  | released (k : Nat) (guard : Option LockGuard) (hguard : ∀ g ∈ guard, g.Idle) :
      History n (.acquired n :: rounds n k ++ [.released n]) guard

theorem deedsOf_append (n : Nat) (past deeds : List Deed) :
    deedsOf n (past ++ deeds) = deedsOf n past ++ deedsOf n deeds :=
  List.filter_append ..

/-- A deed of an attempt is counted among those of the attempt. -/
theorem count_deedsOf {d : Deed} (h : d.attempt = n) (deeds : List Deed) :
    (deedsOf n deeds).count d = deeds.count d :=
  List.count_filter (beq_iff_eq.mpr h)

/-- One more wait is one more round. -/
theorem rounds_succ (n k : Nat) :
    rounds n k ++ [.suspended n] ++ [.resumed n] = rounds n (k + 1) := by
  simp only [rounds]
  rw [List.replicate_succ', List.flatten_append, List.append_assoc]
  rfl

theorem count_rounds {d : Deed} (h : d ≠ .suspended n) (h' : d ≠ .resumed n) (k : Nat) :
    (rounds n k).count d = 0 := by
  refine List.count_eq_zero.mpr fun hd => ?_
  obtain ⟨round, hround, hmem⟩ := List.mem_flatten.mp hd
  rw [List.eq_of_mem_replicate hround, List.mem_pair] at hmem
  exact hmem.elim h h'

theorem any_of_idle {guard : Option LockGuard} (h : ∀ g ∈ guard, g.Idle) :
    (guard.any fun g => g.holds || g.waits) = false := by
  cases guard with
  | none => rfl
  | some g =>
      rw [Option.any_some, (h g rfl).1, (h g rfl).2]
      rfl

namespace History

variable {past : List Deed}

/-- A guard that holds the mutex has acquired it and been through rounds of waiting. -/
theorem of_holds (h : History n past (some g)) (hg : g.holds = true) :
    ∃ k, past = .acquired n :: rounds n k := by
  cases h with
  | failed guard hguard => exact absurd hg (Bool.eq_false_iff.mp (hguard g rfl).1)
  | holding k g _ => exact ⟨k, rfl⟩
  | waiting k g hwaits =>
      exact absurd hwaits (Bool.eq_false_iff.mp (LockGuard.waits_of_not_holds hg))
  | released k guard hguard => exact absurd hg (Bool.eq_false_iff.mp (hguard g rfl).1)

/-- A guard that waits is in the middle of a round. -/
theorem of_waits (h : History n past (some g)) (hg : g.waits = true) :
    ∃ k, past = .acquired n :: rounds n k ++ [.suspended n] := by
  cases h with
  | failed guard hguard => exact absurd hg (Bool.eq_false_iff.mp (hguard g rfl).2)
  | holding k g hholds =>
      exact absurd hg (Bool.eq_false_iff.mp (LockGuard.waits_of_not_holds hholds))
  | waiting k g _ => exact ⟨k, rfl⟩
  | released k guard hguard => exact absurd hg (Bool.eq_false_iff.mp (hguard g rfl).2)

/-- Of an idle guard it does not matter whether it goes away. -/
theorem of_idle (h : History n past (some g)) (hg : g.Idle) {new : Option LockGuard}
    (hnew : ∀ g ∈ new, g.Idle) : History n past new := by
  cases h with
  | failed guard hguard => exact .failed new hnew
  | holding k g hholds => exact absurd hholds (Bool.eq_false_iff.mp hg.1)
  | waiting k g hwaits => exact absurd hwaits (Bool.eq_false_iff.mp hg.2)
  | released k guard hguard => exact .released k new hnew

/-- The deeds are those of one acquisition, given back unless the guard still has it, or one failure. -/
theorem counts {guard : Option LockGuard} (h : History n past guard) :
    past.count (.acquired n) =
        past.count (.released n) + (guard.any fun g => g.holds || g.waits).toNat ∧
      past.count (.acquired n) + past.count (.failed n) = 1 ∧ past.count (.refused n) = 0 := by
  cases h with
  | failed guard hguard =>
      rw [any_of_idle hguard]
      simp
  | holding k g hg =>
      rw [Option.any_some, hg]
      simp [count_rounds]
  | waiting k g hg =>
      rw [Option.any_some, hg]
      simp [count_rounds]
  | released k guard hguard =>
      rw [any_of_idle hguard]
      simp [count_rounds]

end History

/-! ## Runs -/

theorem Moved.attempt_eq {old new : Option LockGuard} {deeds : List Deed}
    (h : s.Moved s' n old new deeds) : ∀ d ∈ deeds, d.attempt = n := by
  cases h with
  | rests => exact fun d hd => nomatch hd
  | _ =>
      intro d hd
      rw [List.mem_singleton.mp hd]
      rfl

/-- What a move adds to the deeds of its attempt. -/
theorem Moved.history {old new : Option LockGuard} {deeds past : List Deed}
    (h : s.Moved s' n old new deeds) (hnone : old = none → past = [])
    (hpast : old ≠ none → History n past old) : History n (past ++ deeds) new := by
  cases h with
  | fails new hnew holder next =>
      rw [hnone rfl]
      exact .failed new hnew
  | acquires g hg free holder next =>
      rw [hnone rfl]
      exact .holding 0 g hg
  | releases n g hg new hnew holder next =>
      obtain ⟨k, rfl⟩ := (hpast (Option.some_ne_none g)).of_holds hg
      exact .released k new hnew
  | rests n g hg new hnew holder next =>
      rw [List.append_nil]
      exact (hpast (Option.some_ne_none g)).of_idle hg hnew
  | suspends n g g' hg hg' holder next =>
      obtain ⟨k, rfl⟩ := (hpast (Option.some_ne_none g)).of_holds hg
      exact .waiting k g' hg'
  | resumes n g g' hg hg' free holder next =>
      obtain ⟨k, rfl⟩ := (hpast (Option.some_ne_none g)).of_waits hg
      rw [List.cons_append, List.cons_append, rounds_succ]
      exact .holding (k + 1) g' hg'

/-- Every attempt so far has its history, and there is nothing of the others. -/
structure Recorded (s : Guarded) (deeds : List Deed) : Prop where
  made : ∀ n < s.attempts, History n (deedsOf n deeds) (s.guard? n)
  unmade : ∀ n, s.attempts ≤ n → deedsOf n deeds = []

/-- Every move adds to the history of its guard only. -/
theorem Recorded.move (hs : s.Sound) {past deeds : List Deed} (hpast : s.Recorded past)
    {m : GuardMove} (h : s.move m = some (s', deeds)) : s'.Recorded (past ++ deeds) := by
  rcases hs.moved h with ⟨rfl, rfl⟩ | ⟨n, old, new, hold, hview, hmoved⟩
  · rw [List.append_nil]
    exact hpast
  · have hself : deedsOf n deeds = deeds :=
      List.filter_eq_self.mpr fun d hd => beq_iff_eq.mpr (hmoved.attempt_eq d hd)
    have hothers : ∀ k ≠ n, deedsOf k (past ++ deeds) = deedsOf k past := by
      intro k hk
      have hnone : deedsOf k deeds = [] := by
        refine List.filter_eq_nil_iff.mpr fun d hd heq => hk ?_
        rw [← beq_iff_eq.mp heq, hmoved.attempt_eq d hd]
      rw [deedsOf_append, hnone, List.append_nil]
    -- an attempt with a guard has been made
    have hlt : old ≠ none → n < s.attempts := by
      intro hsome
      by_contra hle
      exact hsome (hold.symm.trans (hs.fresh n (Nat.not_lt.mp hle)))
    have hhistory : History n (deedsOf n (past ++ deeds)) new := by
      rw [deedsOf_append, hself]
      refine hmoved.history ?_ fun hsome => hold ▸ hpast.made n (hlt hsome)
      intro hnone
      rcases hmoved.attempts_eq with ⟨-, rfl, -⟩ | ⟨hsome, -⟩
      · exact hpast.unmade _ (Nat.le_refl _)
      · exact absurd hnone hsome
    refine ⟨fun k hk => ?_, fun k hk => ?_⟩
    · rw [hview]
      by_cases hkn : k = n
      · subst hkn
        rw [Function.update_self]
        exact hhistory
      · rw [Function.update_of_ne hkn, hothers k hkn]
        refine hpast.made k ?_
        rcases hmoved.attempts_eq with ⟨-, rfl, hnext⟩ | ⟨-, hnext⟩ <;> omega
    · have hne : k ≠ n := by
        rcases hmoved.attempts_eq with ⟨-, rfl, hnext⟩ | ⟨hsome, hnext⟩
        · omega
        · have := hlt hsome
          omega
      rw [hothers k hne]
      refine hpast.unmade k ?_
      rcases hmoved.attempts_eq with ⟨-, -, hnext⟩ | ⟨-, hnext⟩ <;> omega

/-- The histories of a run are those that guards can have. -/
theorem Recorded.run {moves : List GuardMove} (hs : s.Sound) {past deeds : List Deed}
    (hpast : s.Recorded past) (h : s.run moves = some (s', deeds)) :
    s'.Sound ∧ s'.Recorded (past ++ deeds) := by
  induction moves generalizing s past deeds with
  | nil =>
      obtain ⟨rfl, rfl⟩ := Prod.mk.inj (Option.some.inj h)
      rw [List.append_nil]
      exact ⟨hs, hpast⟩
  | cons m rest ih =>
      obtain ⟨⟨s₁, first⟩, h₁, h₂⟩ := Option.bind_eq_some_iff.mp h
      obtain ⟨⟨s₂, later⟩, h₃, h₄⟩ := Option.map_eq_some_iff.mp h₂
      obtain ⟨rfl, rfl⟩ := Prod.mk.inj h₄
      rw [← List.append_assoc]
      exact ih (hs.move h₁) (hpast.move hs h₁) h₃

/-- **GUARDS GIVE BACK WHAT THEY HAVE TAKEN**, whatever threads do with them on a mutex that was free.
    The mutex is held if and only if one guard holds it, by that guard's thread, and two guards never
    hold it.  Nothing that a guard asks of the mutex is refused.  Every attempt has acquired the mutex or
    failed, once.  What it has acquired its guard still has, perhaps while waiting, or it has been
    released, once; and one that has failed has released nothing.  The deeds of an attempt come in the
    order of its history. -/
theorem guards_release {mutex : Mutex} (free : mutex.holder = none) {moves : List GuardMove}
    {deeds : List Deed} (h : ({ mutex } : Guarded).run moves = some (s, deeds)) :
    (∀ t, s.mutex.holder = some t ↔ ∃ n g, s.guard? n = some g ∧ g.holds = true ∧ g.thread = t) ∧
    (∀ n g n' g', s.guard? n = some g → g.holds = true → s.guard? n' = some g' → g'.holds = true →
      n = n') ∧
    (∀ n, s.attempts ≤ n → s.guard? n = none ∧ deedsOf n deeds = []) ∧
    ∀ n < s.attempts,
      deeds.count (.acquired n) + deeds.count (.failed n) = 1 ∧
      deeds.count (.acquired n) =
        deeds.count (.released n) + ((s.guard? n).any fun g => g.holds || g.waits).toNat ∧
      (.failed n ∈ deeds → .released n ∉ deeds) ∧
      .refused n ∉ deeds ∧
      History n (deedsOf n deeds) (s.guard? n) := by
  have hnew : ({ mutex } : Guarded).Sound := ⟨by rw [free]; exact .free, fun n _ => rfl⟩
  have hnothing : ({ mutex } : Guarded).Recorded [] :=
    ⟨fun n hn => absurd hn (Nat.not_lt_zero n), fun n _ => rfl⟩
  obtain ⟨hs, hrecorded⟩ := hnothing.run hnew h
  rw [List.nil_append] at hrecorded
  refine ⟨fun t => ?_, ?_, fun n hn => ⟨hs.fresh n hn, hrecorded.unmade n hn⟩, fun n hn => ?_⟩
  · rw [← exists_congr fun n => holder?_eq_some (s := s) (n := n) (t := t)]
    exact ⟨hs.sole.exists_of_holder, fun ⟨n, hn⟩ => hs.sole.holder_eq hn⟩
  · intro n g n' g' hn hg hn' hg'
    exact hs.sole.eq_of_holds (holder?_eq_some.mpr ⟨g, hn, hg, rfl⟩)
      (holder?_eq_some.mpr ⟨g', hn', hg', rfl⟩)
  · have hhistory := hrecorded.made n hn
    have hcount : ∀ d : Deed, d.attempt = n → (deedsOf n deeds).count d = deeds.count d :=
      fun d hd => count_deedsOf hd deeds
    obtain ⟨hreleased, honce, hrefused⟩ := hhistory.counts
    rw [hcount _ rfl, hcount _ rfl] at hreleased honce
    rw [hcount _ rfl] at hrefused
    refine ⟨honce, hreleased, ?_, List.count_eq_zero.mp hrefused, hhistory⟩
    intro hfailed
    have hpos := List.count_pos_iff.mpr hfailed
    exact List.count_eq_zero.mp (by omega)

/-- Thread 1 makes a guard, asks again while it has the lock, unlocks the first guard and drops both;
    meanwhile thread 2 has tried in vain.  Then thread 2 gets the data and waits, thread 1 gets them and
    lets go, and thread 2 goes on. -/
def nested : List GuardMove :=
  [.guard 1 true, .guard 1 true, .access 2 false true, .unlock 0, .drop 1, .drop 0,
    .access 2 true true, .wait 3 true, .access 1 true true, .drop 4, .resume 3]

/-- The guards after these moves, with what they have done. -/
def afterNested : Guarded × List Deed :=
  (({ mutex := { name := "m" } } : Guarded).run nested).getD ({ mutex := { name := "m" } }, [])

theorem guards_release_nested :
    ({ mutex := { name := "m" } } : Guarded).run nested = some (afterNested.1, afterNested.2) ∧
    afterNested.2 = [.acquired 0, .failed 1, .failed 2, .released 0, .acquired 3, .suspended 3,
      .acquired 4, .released 4, .resumed 3] ∧
    afterNested.1.mutex.holder = some 2 ∧
    (∃ n g, afterNested.1.guard? n = some g ∧ g.holds = true ∧ g.thread = 2) ∧
    .released 1 ∉ afterNested.2 ∧ History 3 (deedsOf 3 afterNested.2) (afterNested.1.guard? 3) := by
  have hrun : ({ mutex := { name := "m" } } : Guarded).run nested =
      some (afterNested.1, afterNested.2) := by
    decide
  have hholder : afterNested.1.mutex.holder = some 2 := by decide
  obtain ⟨hheld, -, -, hattempts⟩ := guards_release rfl hrun
  obtain ⟨-, -, hfailed, -, -⟩ := hattempts 1 (by decide)
  obtain ⟨-, -, -, -, hhistory⟩ := hattempts 3 (by decide)
  exact ⟨hrun, by decide, hholder, (hheld 2).mp hholder, hfailed (by decide), hhistory⟩

end Guarded

end PooledServer.Sync
