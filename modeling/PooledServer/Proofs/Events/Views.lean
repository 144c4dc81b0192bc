import PooledServer.Proofs.Events.Custody

/-!
# One number at a time

    What the server and the system know of one descriptor is its view (`State.view`): its entry, whether
    it is watched, and how many live requests have its socket.  The stages that are at work on it are
    its claims (`State.claims`).  A stage changes the view and the claims of the number that it is at
    work on, or that it begins work on, and of no other (`Sound.frame`). -/

namespace PooledServer.Events

open Net

/-! ## Watches as a map -/

namespace Kernel

variable {k : Kernel} {luck : Luck} {d : Descriptor} {file : File}

/-- Whether `d` is watched. -/
def isWatched (k : Kernel) (d : Descriptor) : Bool := decide (d ∈ k.watched)

theorem isWatched_filter_ne (k : Kernel) (d : Descriptor) :
    (fun c => decide (c ∈ k.watched.filter (· != d))) = Function.update k.isWatched d false := by
  funext c
  by_cases hc : c = d
  · rw [hc, Function.update_self]
    simp
  · rw [Function.update_of_ne hc]
    simp [isWatched, hc]

theorem isWatched_unwatch : (k.unwatch d).isWatched = Function.update k.isWatched d false :=
  isWatched_filter_ne k d

theorem isWatched_close : (k.close d).isWatched = Function.update k.isWatched d false :=
  isWatched_filter_ne k d

/-- To close a number ends no other watch. -/
theorem isWatched_close_apart {c : Descriptor} (h : c = d → k.isWatched c = false) :
    (k.close d).isWatched c = k.isWatched c := by
  rw [isWatched_close]
  by_cases hsame : c = d
  · rw [h hsame, hsame, Function.update_self]
  · rw [Function.update_of_ne hsame]

theorem isWatched_watch : (k.watch d).isWatched = Function.update k.isWatched d true := by
  funext c
  by_cases hc : c = d
  · rw [hc, Function.update_self]
    simp [isWatched, watch]
  · rw [Function.update_of_ne hc]
    simp [isWatched, watch, hc]

theorem isWatched_unwatchIf_of_ne (k : Kernel) (luck : Luck) {c : Descriptor} (hc : c ≠ d) :
    (k.unwatchIf luck d).isWatched c = k.isWatched c := by
  simp only [unwatchIf]
  split
  · rw [isWatched_unwatch, Function.update_of_ne hc]
  · rfl

/-- A watch that cannot be ended is one that there is not. -/
theorem isWatched_unwatchIf (h : k.isWatched d = true → luck.backend = none) :
    (k.unwatchIf luck d).isWatched = Function.update k.isWatched d false := by
  simp only [unwatchIf]
  split
  · exact isWatched_unwatch
  · rename_i hfails
    have hnot : k.isWatched d = false := by
      refine Bool.eq_false_iff.mpr fun hwatched => hfails ?_
      rw [h hwatched]
      rfl
    rw [← hnot, Function.update_eq_self]

/-- No number is watched twice. -/
theorem nodup_watch (h : k.watched.Nodup) : (k.watch d).watched.Nodup := by
  refine List.nodup_cons.mpr ⟨?_, h.filter _⟩
  simp

theorem nodup_unwatchIf (h : k.watched.Nodup) : (k.unwatchIf luck d).watched.Nodup := by
  simp only [unwatchIf]
  split
  · exact h.filter _
  · exact h

end Kernel

/-! ## Stages at work on a number -/

namespace Stage

/-- The number that a stage is at work on.  Acting on an event, accepting and handing a request out
    begin work on a number, but are not yet at it. -/
def subject? : Stage → Option Descriptor
  | .track s | .comeBack s | .park s _ | .release s _ => some s.descriptor
  | .watch d | .close d | .unwatchClosed d _ | .forget d | .unwatchForgotten d _ | .unwatchReady _ d
  | .lend _ d | .rearm d => some d
  | .event .. | .accept | .serve _ | .panicked .. => none

/-- The stage, if it is at work on `d`. -/
def claim (d : Descriptor) (stage : Stage) : Multiset Stage :=
  if stage.subject? = some d then {stage} else 0

/-- How many requests for the socket of `d` the stage is about to hand out. -/
def loan (d : Descriptor) (stage : Stage) : Nat :=
  stage.request?.toList.countP (·.socket.descriptor = d)

variable {stage : Stage} {d : Descriptor}

theorem claim_of_subject (h : stage.subject? = some d) : stage.claim d = {stage} := if_pos h

theorem claim_of_ne (h : stage.subject? ≠ some d) : stage.claim d = 0 := if_neg h

theorem mem_claim {x : Stage} : x ∈ stage.claim d ↔ x = stage ∧ stage.subject? = some d := by
  by_cases h : stage.subject? = some d
  · rw [claim_of_subject h, Multiset.mem_singleton]
    exact (and_iff_left h).symm
  · rw [claim_of_ne h]
    exact iff_of_false (Multiset.notMem_zero x) fun hx => h hx.2

/-- A stage that is at work hands nothing out. -/
theorem loan_of_subject (h : stage.subject? = some d) (c : Descriptor) : stage.loan c = 0 := by
  cases stage with
  | serve r => exact nomatch h
  | _ => rfl

end Stage

/-- What there is to see of a number. -/
structure View where
  entry : Option Entry
  isWatched : Bool
  /-- The live requests that have its socket. -/
  live : Nat

namespace State

/-- How many live requests have the socket of `d`. -/
def live (s : State) (d : Descriptor) : Nat := s.requests.countP (·.socket.descriptor = d)

/-- What there is to see of `d`. -/
def view (s : State) (d : Descriptor) : View :=
  ⟨s.table.entry? d, s.kernel.isWatched d, s.live d⟩

/-- The stages that are at work on `d`. -/
def claims (s : State) (d : Descriptor) : Multiset Stage := s.gather (Stage.claim d)

variable {s s' s₁ : State} {t : ThreadId} {luck : Luck} {stage : Stage} {next rest : List Stage}
  {d : Descriptor}

theorem countP_of_ne {r : Request} (h : r.socket.descriptor ≠ d) :
    [r].countP (·.socket.descriptor = d) = 0 := by
  rw [List.countP_singleton, if_neg]
  simpa using h

theorem live_eq : s.live d =
    s.kept.countP (·.socket.descriptor = d) + s.gather (Stage.loan d) := by
  have hagenda : ∀ agenda : List Stage,
      (agenda.filterMap Stage.request?).countP (·.socket.descriptor = d) =
        (agenda.map (Stage.loan d)).sum := by
    intro agenda
    rw [List.filterMap_eq_flatMap_toList, List.countP_flatMap]
    rfl
  simp only [live, requests, gather]
  rw [List.countP_append, List.countP_flatMap]
  exact congrArg _ (congrArg List.sum (List.map_congr_left fun th _ => hagenda th.agenda))

/-- What is at work on a number is before some thread. -/
theorem exists_of_mem_claims (h : stage ∈ s.claims d) :
    stage.subject? = some d ∧ ∃ th ∈ s.threads, stage ∈ th.agenda := by
  obtain ⟨th, hth, x, hx, hmem⟩ := mem_gather.mp h
  obtain ⟨rfl, hsubject⟩ := Stage.mem_claim.mp hmem
  exact ⟨hsubject, th, hth, hx⟩

theorem mem_claims {th : Thread} (hth : th ∈ s.threads) (hstage : stage ∈ th.agenda)
    (hsubject : stage.subject? = some d) : stage ∈ s.claims d :=
  mem_gather.mpr ⟨th, hth, stage, hstage, Stage.mem_claim.mpr ⟨rfl, hsubject⟩⟩

/-! ## What a stage changes -/

/-- What a stage does to the requests and the claims of `d`, whatever the other stages are. -/
theorem Numbered.exists_view (hs : s.Numbered) (here : s.agenda? t = some (stage :: rest))
    (hthreads : s₁.threads = s.threads) (next : List Stage) (d : Descriptor) :
    ∃ n c, (s.live d = s.kept.countP (·.socket.descriptor = d) + stage.loan d + n ∧
        s.claims d = stage.claim d + c) ∧
      (s₁.setAgenda t (next ++ rest)).live d =
          s₁.kept.countP (·.socket.descriptor = d) + (next.map (Stage.loan d)).sum + n ∧
        (s₁.setAgenda t (next ++ rest)).claims d = (next.map (Stage.claim d)).sum + c := by
  obtain ⟨n, hlive, hlive'⟩ := hs.exists_gather here hthreads next (Stage.loan d)
  obtain ⟨c, hclaims, hclaims'⟩ := hs.exists_gather here hthreads next (Stage.claim d)
  refine ⟨n, c, ⟨?_, hclaims⟩, ?_, hclaims'⟩
  · rw [live_eq, hlive, add_assoc]
  · rw [live_eq, hlive', add_assoc]
    rfl

/-- The work that follows a stage at work is on the same number. -/
theorem Carries.subject_next (h : s.Carries luck stage s₁ next) {c : Descriptor}
    (hstage : stage.subject? = some c) : ∀ x ∈ next, x.subject? = some c ∨ x.subject? = none := by
  cases h with
  | tracks | watchFails | closes | forgets | forgetBarred | quiets | quietFails | comesBack | parks
  | retires | turnsAway | rearmFails =>
      intro x hx
      rw [List.mem_singleton.mp hx]
      exact Or.inl hstage
  | lends =>
      intro x hx
      rw [List.mem_singleton.mp hx]
      exact Or.inr rfl
  | accepts | hears | misses | hangsUp | readies | retries | finishes => exact nomatch hstage
  | _ => exact fun x hx => nomatch hx

/-- Work on another number is begun by a stage that is not at work itself. -/
theorem Carries.subject_eq_none (h : s.Carries luck stage s₁ next) (hstage : stage.subject? ≠ some d)
    {x : Stage} (hx : x ∈ next) (hsubject : x.subject? = some d) : stage.subject? = none := by
  cases hother : stage.subject? with
  | none => rfl
  | some c =>
      rcases h.subject_next hother x hx with hsame | hnone
      · exact absurd (hother.trans (hsame.symm.trans hsubject)) hstage
      · exact nomatch hnone.symm.trans hsubject

/-- The stages keep the requests, except when one is handed out. -/
theorem Carries.kept_eq (h : s.Carries luck stage s₁ next) (hstage : stage.subject? = some d) :
    s₁.kept = s.kept := by
  cases h with
  | tracks socket lock => cases s.table.socket? socket.descriptor <;> rfl
  | drops c socket => cases socket <;> rfl
  | keeps r => exact nomatch hstage
  | _ => rfl

/-! ## What a stage leaves alone -/

variable (hstage : stage.subject? ≠ some d) (hnext : ∀ x ∈ next, x.subject? ≠ some d)

include hstage

theorem Carries.entry?_apart (h : s.Carries luck stage s₁ next) :
    s₁.table.entry? d = s.table.entry? d := by
  have hinsert : ∀ {c : Descriptor} {e : Entry}, some c ≠ some d →
      Table.entry? (s.table.insert c e) d = s.table.entry? d := fun {c e} hc => by
    rw [Table.entry?_insert, Function.update_of_ne fun heq => hc (congrArg some heq.symm)]
  have herase : ∀ {c : Descriptor}, some c ≠ some d →
      Table.entry? (s.table.erase c) d = s.table.entry? d := fun {c} hc => by
    rw [Table.entry?_erase, Function.update_of_ne fun heq => hc (congrArg some heq.symm)]
  cases h with
  | tracks socket lock => cases s.table.socket? socket.descriptor <;> exact hinsert hstage
  | drops c socket => cases socket <;> rfl
  | lendsEmpty | lends | parks => exact hinsert hstage
  | closes | forgets | retires => exact herase hstage
  | _ => rfl

/-- Watches end and begin only for the number that a stage is at work on; a socket that is closed with
    its connection is that of this number. -/
theorem Sound.isWatched_apart (hs : s.Sound) (here : s.agenda? t = some (stage :: rest))
    (h : s.Carries luck stage s₁ next)
    (hown : ∀ c socket, stage = .unwatchClosed c (some socket) → socket.descriptor = c) :
    s₁.kernel.isWatched d = s.kernel.isWatched d := by
  have hne : ∀ {c : Descriptor}, some c ≠ some d → d ≠ c := fun hc heq => hc (congrArg some heq.symm)
  have hclose : ∀ {k : Kernel} {c : Descriptor}, some c ≠ some d →
      (k.close c).isWatched d = k.isWatched d := fun hc => by
    rw [Kernel.isWatched_close, Function.update_of_ne (hne hc)]
  cases h with
  | tracks socket lock =>
      rw [hs.socket?_of_track here]
      rfl
  | losesNew | parkBarred | releases => exact hclose hstage
  | watches c backend | rearms c backend =>
      show (s.kernel.watch c).isWatched d = _
      rw [Kernel.isWatched_watch, Function.update_of_ne (hne hstage)]
  | quiets index c backend =>
      show (s.kernel.unwatch c).isWatched d = _
      rw [Kernel.isWatched_unwatch, Function.update_of_ne (hne hstage)]
  | leaves c socket => exact s.kernel.isWatched_unwatchIf_of_ne luck (hne hstage)
  | drops c socket =>
      refine Eq.trans ?_ (s.kernel.isWatched_unwatchIf_of_ne luck (hne hstage))
      cases socket with
      | none => rfl
      | some socket =>
          refine hclose ?_
          rw [hown c socket rfl]
          exact hstage
  | _ => rfl

include hnext

theorem Sound.loan_apart (hs : s.Sound) (h : s.Carries luck stage s₁ next) :
    s₁.kept.countP (·.socket.descriptor = d) + (next.map (Stage.loan d)).sum =
      s.kept.countP (·.socket.descriptor = d) + stage.loan d := by
  cases h with
  | tracks socket lock => cases s.table.socket? socket.descriptor <;> rfl
  | drops c socket => cases socket <;> rfl
  | lends index c entry socket lock present idle parked =>
      have hsocket := hs.descriptor_of_socket? ((Table.socket?_eq present).trans parked)
      refine congrArg (_ + ·) (countP_of_ne ?_)
      rw [← hsocket] at hstage
      exact fun heq => hstage (congrArg some heq)
  | keeps r =>
      show (s.kept ++ [r]).countP _ + 0 = _
      rw [List.countP_append]
      rfl
  | finishes r isOpen pending panic =>
      -- the number of the socket is that of the stage that brings it back
      have hne : r.socket.descriptor ≠ d := fun heq =>
        hnext _ (List.mem_cons_self ..) (congrArg some heq)
      have hloan : (Stage.serve r).loan d = 0 := countP_of_ne hne
      rw [hloan]
      cases panic <;> rfl
  | _ => rfl

/-- **A STAGE LEAVES ALL OTHER NUMBERS ALONE**. -/
theorem Sound.frame (hs : s.Sound) (here : s.agenda? t = some (stage :: rest))
    (h : s.Carries luck stage s₁ next)
    (hown : ∀ c socket, stage = .unwatchClosed c (some socket) → socket.descriptor = c) :
    (s₁.setAgenda t (next ++ rest)).view d = s.view d ∧
      (s₁.setAgenda t (next ++ rest)).claims d = s.claims d := by
  obtain ⟨n, c, ⟨hlive, hclaims⟩, hlive', hclaims'⟩ :=
    hs.numbered.exists_view here h.threads.1 next d
  constructor
  · have hsame : (s₁.setAgenda t (next ++ rest)).live d = s.live d := by
      rw [hlive, hlive', hs.loan_apart hstage hnext h]
    have hentry := h.entry?_apart hstage
    have hwatched := hs.isWatched_apart hstage here h hown
    rw [view, view, hsame, View.mk.injEq]
    exact ⟨hentry, hwatched, rfl⟩
  · have hnone : (next.map (Stage.claim d)).sum = 0 := by
      refine List.sum_eq_zero fun x hx => ?_
      obtain ⟨y, hy, rfl⟩ := List.mem_map.mp hx
      exact Stage.claim_of_ne (hnext y hy)
    rw [hclaims, hclaims', hnone, Stage.claim_of_ne hstage]

end State

end PooledServer.Events
