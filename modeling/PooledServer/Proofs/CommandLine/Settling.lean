import PooledServer.Proofs.CommandLine.Schedules

/-!
# The program's own schedule

    The program lets all threads but the main one run until they wait, then the main thread goes on, and
    so in turns.  No failures await it, so its whole run is one of the schedules of a stress test
    (`Plan.run_is_schedule`), and what holds of all schedules holds of what it writes. -/

namespace PooledServer.CommandLine.PoolStress

open Work (Note)
open Pool (State Setting Luck Thread)

variable {r r' : Run} {g : Setting} {t : ThreadId} {before : List Note}

/-! ## Steps without failures -/

/-- A step in which no primitive fails. -/
def isLucky (luck : Luck) : Bool := (Move.step 0 luck).isSmooth

/-- Where no failures await, none comes and none is left. -/
theorem luck_nil (s : State) (t : ThreadId) : ∃ l, Pool.luck s t [] = (l, []) ∧ isLucky l = true := by
  have hqueue : ∃ l : Queue.Luck, Pool.queueLuck s t [] = (l, []) ∧ l.lock = true ∧ l.wait = true := by
    simp only [Pool.queueLuck, Sync.Faults.meet_nil]
    split
    · exact ⟨_, rfl, rfl, rfl⟩
    · split
      · simp only [Option.isSome_none, Bool.false_eq_true, if_false]
        split <;> exact ⟨_, rfl, rfl, rfl⟩
      · exact ⟨_, rfl, rfl, rfl⟩
      · split <;> exact ⟨_, rfl, rfl, rfl⟩
  have hlucky : ∀ l : Queue.Luck, l.lock = true → l.wait = true →
      isLucky { toLuck := l } = true := by
    rintro ⟨lock, wait, chosen⟩ rfl rfl
    rfl
  obtain ⟨l, hl, hlock, hwait⟩ := hqueue
  simp only [Pool.luck]
  split
  · exact ⟨_, rfl, rfl⟩
  · exact ⟨_, rfl, rfl⟩
  · split
    · exact ⟨_, rfl, rfl⟩
    · exact ⟨_, rfl, rfl⟩
  · rw [hl]
    exact ⟨_, rfl, hlucky l hlock hwait⟩

/-- The step that is chosen is one of some thread. -/
theorem exists_step {parked : Std.HashSet ThreadId} {threads : List Thread}
    {result : Setting × List Note} (h : g.stepFirst parked threads = some result) :
    ∃ t, g.step t = some result := by
  induction threads with
  | nil => cases h
  | cons th rest ih =>
      simp only [Setting.stepFirst] at h
      split at h
      all_goals
        split at h
        · exact ih h
        · split at h
          · cases h
            exact ⟨_, ‹_›⟩
          · exact ih h

/-! ## Settling -/

theorem after_after (r : Run) (pool pool' : State) (notes notes' : List Note) :
    (r.after pool notes).after pool' notes' = r.after pool' (notes ++ notes') := by
  simp only [Run.after, Run.log]
  rw [addAll_append, Note.records, Note.records, Note.records, List.filterMap_append,
    List.reverse_append, List.append_assoc]

/-- Smooth moves lead from one run to the other, whatever has been left behind before. -/
def ComesTo (r r' : Run) : Prop :=
  ∀ before, ∃ moves notes, (∀ m ∈ moves, m.isSmooth = true) ∧ r.run before moves = some (r', notes)

theorem ComesTo.refl (r : Run) : ComesTo r r := fun before => ⟨[], before, fun _ h => (nomatch h), rfl⟩

theorem ComesTo.move {m : Move} {new : List Note} (hsmooth : m.isSmooth = true)
    (hmove : r.move m = some (r', new)) : ComesTo r r' := by
  intro before
  refine ⟨[m], before ++ new, fun m' hm' => List.mem_singleton.mp hm' ▸ hsmooth, ?_⟩
  simp only [Run.run, hmove, Option.bind_some]

theorem run_append (r : Run) (before : List Note) (moves later : List Move) :
    r.run before (moves ++ later) =
      (r.run before moves).bind fun (r, notes) => r.run notes later := by
  induction moves generalizing r before with
  | nil => rfl
  | cons m rest ih =>
      simp only [List.cons_append, Run.run]
      cases r.move m with
      | none => rfl
      | some result => exact ih result.1 _

theorem ComesTo.trans {r₁ : Run} (h : ComesTo r r₁) (h' : ComesTo r₁ r') : ComesTo r r' := by
  intro before
  obtain ⟨moves, notes, hsmooth, hrun⟩ := h before
  obtain ⟨later, notes', hsmooth', hrun'⟩ := h' notes
  refine ⟨moves ++ later, notes', ?_, ?_⟩
  · intro m hm
    exact (List.mem_append.mp hm).elim (hsmooth m) (hsmooth' m)
  · rw [run_append, hrun]
    exact hrun'

/-- The other threads take their steps; the main thread waits meanwhile. -/
theorem comesTo_steps (fuel : Nat) (hunder : r.stage.isOver = false) (notes : List Note) :
    ∃ pool new, Setting.steps { state := r.pool } notes fuel = ({ state := pool }, new.reverse ++ notes) ∧
      ComesTo r (r.after pool new) := by
  have hself : ∀ r : Run, r.after r.pool [] = r := fun _ => rfl
  induction fuel generalizing r notes with
  | zero => exact ⟨r.pool, [], rfl, (hself r).symm ▸ .refl r⟩
  | succ fuel ih =>
      simp only [Setting.steps]
      split
      · exact ⟨r.pool, [], rfl, (hself r).symm ▸ .refl r⟩
      · rename_i g told hfirst
        obtain ⟨t, hstep⟩ := exists_step hfirst
        obtain ⟨l, hl, hlucky⟩ := luck_nil r.pool t
        simp only [Setting.step, hl] at hstep
        obtain ⟨⟨pool, new⟩, hpool, heq⟩ := Option.map_eq_some_iff.mp hstep
        cases heq
        have hmove : r.move (.step t l) = some (r.after pool new, new) := by
          simp only [Run.move, hunder, hpool]
          rfl
        obtain ⟨last, later, hsteps, hrest⟩ := ih (r := r.after pool new) hunder (new.reverse ++ notes)
        refine ⟨last, new ++ later, ?_, ?_⟩
        · rw [List.reverse_append, List.append_assoc]
          exact hsteps
        · rw [after_after] at hrest
          exact (ComesTo.move (m := .step t l) hlucky hmove).trans hrest

/-- Settling is a run of smooth moves. -/
theorem comesTo_settle (hunder : r.stage.isOver = false) : ComesTo r r.settle := by
  obtain ⟨pool, new, hsteps, hcomes⟩ := comesTo_steps (Setting.bound r.pool) hunder []
  have hsettle : r.settle = r.after pool new := by
    simp only [Run.settle, Setting.settle, hsteps, List.append_nil, List.reverse_reverse]
  rw [hsettle]
  exact hcomes

/-- So are the turns of the main thread and the others. -/
theorem comesTo_drive (fuel : Nat) : ComesTo r (r.drive fuel) := by
  induction fuel generalizing r with
  | zero => exact .refl r
  | succ fuel ih =>
      simp only [Run.drive]
      cases hunder : r.stage.isOver with
      | true => exact .refl r
      | false =>
          have hsettled := comesTo_settle hunder
          simp only [Bool.false_eq_true, if_false]
          split
          · rename_i r₁ hmain
            have hmove : r.settle.move .main = some (r₁, []) := by
              have hunder' : r.settle.stage.isOver = false := hunder
              simp only [Run.move, hunder', hmain]
              rfl
            exact (hsettled.trans (.move rfl hmove)).trans ih
          · exact hsettled

/-! ## The program -/

/-- **THE PROGRAM'S RUN IS ONE OF THE SCHEDULES**, for any number of workers but none: its report is that
    of a run of smooth moves from the beginning. -/
theorem Plan.run_is_schedule (p : Plan) (hworkers : p.workers ≠ 0) :
    ∃ made pool moves r notes, Pool.create "stress" p.workers [] = (made, [], .ok pool) ∧
      (∀ m ∈ moves, m.isSmooth = true) ∧
      (p.begin true made pool).run [] moves = some (r, notes) ∧ p.run = r.report := by
  obtain ⟨made, pool, hcreate⟩ := exists_create hworkers
  obtain ⟨moves, notes, hsmooth, hrun⟩ :=
    comesTo_drive (r := p.begin true made pool) (p.tasks.toNat + 2) []
  refine ⟨made, pool, moves, _, notes, hcreate, hsmooth, hrun, ?_⟩
  simp only [Plan.run, hcreate]

end PooledServer.CommandLine.PoolStress
