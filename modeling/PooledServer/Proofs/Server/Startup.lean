import PooledServer.Proofs.Server.Phases

/-!
# How a server is initialized

    Whatever fails in whichever start, a server is initialized exactly if a start has said so, and from
    then on starts change nothing.  The server has no pool or one that runs with all its workers.  A pool
    that cannot be started is let go when its workers have been joined; a pool that has been started
    before the listener fails is used by the next start.  The mode is the configured one, except that a
    readiness queue that cannot be made lowers it to the accept loop, and every other failure is the
    answer of the start. -/

namespace PooledServer.Server

open Work (Note)

namespace State

variable {s s' : State} {move : Move} {o : Outcome} {answer : Option Answer} {opening : Opening}
  {faults : Sync.Faults} {pool pool' : Pool.State} {order : ThreadId} {h h' : Chronicle}
  {moves rest : List Move} {config : Config} {e : PoolError}
  {before : List (Except ServerError Unit)}

/-! ## Errors -/

/-- Why a move ends a start with an error: there is no handler or a setting is not valid, the pool's
    queue cannot be made, the pool could not be started, or the listener cannot be opened. -/
inductive Fails (s : State) : Move → ServerError → Prop
  | objects (faults : Sync.Faults) (e : ServerError) (down : s.isInitialized = false)
      (objection : s.objection = some e) : Fails s (.start faults) e
  | poolless (faults : Sync.Faults) (e : PoolError) (down : s.isInitialized = false)
      (content : s.objection = none) (nothing : s.pool = none) (wanted : s.config.threadPoolSize ≠ 0)
      (failed : (Pool.create poolName s.config.threadPoolSize faults).2.2 = .error e) :
      Fails s (.start faults) (.pool e)
  | unstarted (opening : Opening) (faults : Sync.Faults) (pool left : Pool.State) (order : ThreadId)
      (e : PoolError) (starting : s.phase = .starting pool order)
      (returned : pool.collect order = some (.ordered (.error e), left)) :
      Fails s (.advance opening faults) (.pool e)
  | unopened (opening : Opening) (faults : Sync.Faults) (e : ServerError) (here : s.phase = .opening)
      (refused : s.refusal opening faults = some e) : Fails s (.advance opening faults) e

/-- **EVERY FAILURE IS ANSWERED**, and nothing else is answered with an error. -/
theorem Goes.fails_iff (hg : s.Goes move s' answer) (e : ServerError) :
    answer = some (.started (.error e)) ↔ s.Fails move e := by
  constructor
  · intro hanswer
    cases hg with
    | objects faults e' idle down objection =>
        cases hanswer
        exact .objects faults e down objection
    | poolless faults e' idle down content nothing wanted failed =>
        cases hanswer
        exact .poolless faults e' down content nothing wanted failed
    | startFails opening faults pool left order e' starting returned =>
        cases hanswer
        exact .unstarted opening faults pool left order e' starting returned
    | refuses opening faults e' here refused =>
        cases hanswer
        exact .unopened opening faults e here refused
    | _ => exact nomatch hanswer
  · intro hfails
    cases hfails with
    | objects faults e down objection =>
        cases hg with
        | again _ idle up => cases up.symm.trans down
        | objects _ e' idle _ objection' =>
            cases objection.symm.trans objection'
            rfl
        | poolless _ _ _ _ content | starts _ _ _ _ content | goesOn _ _ _ content =>
            cases objection.symm.trans content
    | poolless faults e down content nothing wanted failed =>
        cases hg with
        | again _ idle up => cases up.symm.trans down
        | objects _ e' idle _ objection => cases objection.symm.trans content
        | poolless _ e' _ _ _ _ _ failed' =>
            cases failed.symm.trans failed'
            rfl
        | starts _ _ _ _ _ _ made => cases failed.symm.trans made
        | goesOn _ _ _ _ ready =>
            rcases ready with hsome | hzero
            · rw [nothing] at hsome
              cases hsome
            · exact absurd hzero wanted
    | unstarted opening faults pool left order e starting returned =>
        cases hg with
        | startFails _ _ _ _ _ _ starting' returned' =>
            cases starting.symm.trans starting'
            cases returned.symm.trans returned'
            rfl
        | startReturns _ _ _ _ _ _ starting' returned' good =>
            cases starting.symm.trans starting'
            cases returned.symm.trans returned'
            exact absurd rfl (good e)
        | refuses _ _ _ here | listens _ _ _ here => cases starting.symm.trans here
        | stopped _ _ _ _ _ _ stopping => cases starting.symm.trans stopping
    | unopened opening faults e here refused =>
        cases hg with
        | startFails _ _ _ _ _ _ starting | startReturns _ _ _ _ _ _ starting =>
            cases here.symm.trans starting
        | refuses _ _ _ _ refused' =>
            cases refused.symm.trans refused'
            rfl
        | listens _ _ _ _ opened => cases refused.symm.trans opened
        | stopped _ _ _ _ _ _ stopping => cases here.symm.trans stopping

/-- A start that fails leaves the server idle and without a listener. -/
theorem Orderly.failed (ho : s.Orderly h) {e : ServerError}
    (hg : s.Goes move s' (some (.started (.error e)))) : s'.phase = .idle ∧ s'.listening = none := by
  cases hg with
  | objects faults e idle down objection => exact ⟨idle, listening_eq_none down⟩
  | poolless faults e idle down => exact ⟨idle, listening_eq_none down⟩
  | startFails opening faults pool left order e starting => exact ⟨rfl, (ho.starting starting).1⟩
  | refuses opening faults e here => exact ⟨rfl, ho.silent here⟩

/-- The start under way has failed with `e` and will answer that, or it has answered so after `before`. -/
def Answers (s : State) (h : Chronicle) (order : ThreadId) (e : PoolError)
    (before : List (Except ServerError Unit)) : Prop :=
  (∃ pool, s.phase = .starting pool order ∧ pool.FailsWith order e ∧ h.outcomes = before) ∨
    ∃ later, h.outcomes = before ++ .error (.pool e) :: later

/-- **A WORKER THAT CANNOT BE MADE** is what the start answers. -/
theorem Answers.goes (ha : s.Answers h order e before) (ho : s.Orderly h)
    (hregular : move.isRegular = true) (hg : s.Goes move s' answer) :
    s'.Answers (s.record h move s' answer) order e before := by
  rcases ha with ⟨pool, hphase, hfails, hbefore⟩ | ⟨later, hlater⟩
  · obtain ⟨-, -, hkept, -⟩ := ho.starting hphase
    have hreturned : ∀ {result left}, pool.collect order = some (result, left) →
        result = .ordered (.error e) := by
      intro result left hcollect
      have here := (Pool.State.collect_eq hcollect).1
      rcases hfails with there | ⟨rest, there⟩ | there | ⟨there, -⟩ <;> cases here.symm.trans there
      rfl
    cases hg with
    | again _ here | objects _ _ here | poolless _ _ here | starts _ _ here | goesOn _ here
    | stopsNothing here | stops _ _ here | setsHandler here | refuses _ _ _ here
    | listens _ _ _ here => cases hphase.symm.trans here
    | stopped _ _ _ _ _ _ stopping => cases hphase.symm.trans stopping
    | startFails opening faults started left order' e' starting returned =>
        cases hphase.symm.trans starting
        cases hreturned returned
        exact Or.inr ⟨[], congrArg (· ++ _) hbefore⟩
    | startReturns opening faults started left order' result starting returned good =>
        cases hphase.symm.trans starting
        exact absurd (hreturned returned) (good e)
    | pool move started pool' notes present moved =>
        cases (anyPool_of_starting hphase).symm.trans present
        obtain ⟨hregular, hnot⟩ := isRegular_pool hregular
        obtain ⟨hproceeds, -⟩ := hkept.goes hregular hnot moved
        rw [record_pool present]
        simp only [setPool, hphase]
        exact Or.inl ⟨pool', rfl, hfails.proceeds hkept.tended hproceeds, hbefore⟩
  · refine Or.inr ⟨later ++ (answer.bind Answer.outcome?).toList, ?_⟩
    simp only [record]
    rw [hlater, List.append_assoc, List.cons_append]

theorem Orderly.setback (ho : s.Orderly h) {luck : Pool.Luck} {left : Nat}
    (hphase : s.phase = .starting pool order)
    (here : pool.activity? order = some (.order (.hiring (left + 1))))
    (hfailed : (pool.hire luck).2.2 = .error e)
    (hrun : s.run h (.pool (.step order luck) :: moves) = some (s', h')) :
    s'.Answers h' order e h.outcomes := by
  obtain ⟨-, -, hkept, -⟩ := ho.starting hphase
  simp only [State.run] at hrun
  split at hrun
  · rename_i hregular
    obtain ⟨o, hmove, hrest⟩ := Option.bind_eq_some_iff.mp hrun
    have hgoes := goes_of_move hmove
    refine (run_keeps (P := fun s h₁ => s.Orderly h₁ ∧ s.Answers h₁ order e h.outcomes)
      (fun _ _ _ _ _ hboth hregular hg =>
        ⟨hboth.1.goes hregular hg, hboth.2.goes hboth.1 hregular hg⟩)
      ⟨ho.goes hregular hgoes, ?_⟩ hrest).2
    generalize o.server = s₁, o.answer = answer at hgoes
    cases hgoes with
    | pool move started pool' notes present moved =>
        cases (anyPool_of_starting hphase).symm.trans present
        obtain ⟨hregular, hnot⟩ := isRegular_pool hregular
        obtain ⟨hproceeds, -⟩ := hkept.goes hregular hnot moved
        rw [record_pool present]
        simp only [setPool, hphase]
        exact Or.inl ⟨pool', rfl, hproceeds.failsWith hkept.tended here hfailed, rfl⟩
  · cases hrun

/-! ## Pools -/

/-- **A POOL IS LET GO** only when it is shut and all its workers have been joined. -/
theorem Orderly.released (ho : s.Orderly h) (hg : s.Goes move s' answer)
    (hbefore : s.anyPool = some pool) (hafter : s'.anyPool = none) :
    pool.Shut ∧ h.annals.joined = h.annals.started := by
  have hshut : ∀ {size}, pool.Kept h.annals size → pool.Shut →
      pool.Shut ∧ h.annals.joined = h.annals.started :=
    fun hkept hshut => ⟨hshut, hkept.recorded.joined hshut.2⟩
  cases hg with
  | again _ idle | objects _ _ idle | poolless _ _ idle | goesOn _ idle | stopsNothing idle
  | setsHandler idle =>
      simp only [anyPool, idle] at hbefore hafter
      cases hbefore.symm.trans hafter
  | refuses _ _ _ here | listens _ _ _ here =>
      simp only [anyPool, here] at hbefore hafter
      cases hbefore.symm.trans hafter
  | starts | stops | startReturns => cases hafter
  | startFails opening faults started left order e starting returned =>
      cases (anyPool_of_starting starting).symm.trans hbefore
      obtain ⟨-, -, hkept, hstarts⟩ := ho.starting starting
      exact hshut hkept (hstarts.shut (Pool.State.collect_eq returned).1)
  | stopped opening faults ended left order result stopping returned =>
      cases (anyPool_of_stopping stopping).symm.trans hbefore
      obtain ⟨-, hkept, hstops⟩ := ho.stopping stopping
      exact hshut hkept (hstops.shut (Pool.State.collect_eq returned).1)
  | pool move before pool' notes present moved => cases anyPool_setPool.symm.trans hafter

/-- A pool in service has all the workers that it is meant to have. -/
theorem length_workers_of_own (ho : s.Orderly h) (hown : s.pool = some pool) :
    pool.running = true ∧ pool.workers.length = s.config.threadPoolSize.toNat ∧
      pool.Consistent h.annals := by
  obtain ⟨hkept, hrunning, -⟩ := ho.own pool hown
  refine ⟨hrunning, ?_, hkept.tended.consistent hkept.recorded⟩
  rw [hkept.tended.staffed.counted hrunning, hkept.size]

/-- A start of a server that has a pool makes none. -/
theorem Orderly.reused (hown : s.pool = some pool) (hmove : s.move (.start faults) = some o) :
    o.server.pool = some pool ∧ o.server.anyPool = some pool ∧ o.notes = [] ∧ o.faults = faults := by
  simp only [State.move] at hmove
  split at hmove
  · rename_i hidle
    cases hmove
    have hany : s.anyPool = some pool := by
      simp only [anyPool, hidle]
      exact hown
    simp only [start]
    split
    · exact ⟨hown, hany, rfl, rfl⟩
    · split
      · exact ⟨hown, hany, rfl, rfl⟩
      · simp [hown, anyPool]
  · cases hmove

/-! ## Starts return -/

theorem run_append (s : State) (h : Chronicle) (moves rest : List Move) :
    s.run h (moves ++ rest) = (s.run h moves).bind fun (s', h') => s'.run h' rest := by
  induction moves generalizing s h with
  | nil => rfl
  | cons move moves ih =>
      simp only [List.cons_append, run]
      split
      · cases s.move move with
        | none => rfl
        | some o => exact ih o.server _
      · rfl

/-- The server comes to an idle phase with one more answer of a start. -/
def Returns (s : State) (h : Chronicle) : Prop :=
  ∃ moves s' h' outcome, s.run h moves = some (s', h') ∧ s'.phase = .idle ∧
    h'.outcomes = h.outcomes ++ [outcome]

theorem Returns.of_run (hrun : s.run h moves = some (s', h')) (hsame : h'.outcomes = h.outcomes)
    (hreturns : s'.Returns h') : s.Returns h := by
  obtain ⟨rest, s'', h'', outcome, hrest, hidle, houtcomes⟩ := hreturns
  refine ⟨moves ++ rest, s'', h'', outcome, ?_, hidle, hsame ▸ houtcomes⟩
  rw [run_append, hrun]
  exact hrest

theorem run_singleton (hregular : move.isRegular = true) (hmove : s.move move = some o) :
    s.run h [move] = some (o.server, s.record h move o.server o.answer) := by
  simp only [run]
  rw [if_pos hregular, hmove]
  rfl

theorem returns_of_opening (here : s.phase = .opening) : s.Returns h := by
  -- whatever comes of the listener
  have hmove : s.move (.advance { listener := .ok s.config.listenEndpoint } []) =
      some (s.openListener { listener := .ok s.config.listenEndpoint } []) := by
    simp only [State.move, advance, here]
  have hrun := run_singleton (h := h) rfl hmove
  have hgoes := goes_of_move hmove
  generalize s.openListener _ _ = o at hrun hgoes
  obtain ⟨s', faults, notes, answer⟩ := o
  cases hgoes with
  | refuses _ _ e _ refused => exact ⟨_, _, _, _, hrun, rfl, rfl⟩
  | listens _ _ listening _ opened mode => exact ⟨_, _, _, _, hrun, rfl, rfl⟩
  | startFails _ _ _ _ _ _ starting | startReturns _ _ _ _ _ _ starting =>
      cases here.symm.trans starting
  | stopped _ _ _ _ _ _ stopping => cases here.symm.trans stopping

/-- What the pool can do by itself the server can do. -/
theorem run_career {moves : List Pool.Move} {annals : Pool.Annals}
    (hphase : s.phase = .starting pool order)
    (hcareer : pool.career h.annals moves = some (pool', annals))
    (hnot : ∀ order, Pool.Move.order order ∉ moves) :
    s.run h (moves.map .pool) =
      some ({ s with phase := .starting pool' order }, { h with annals }) := by
  induction moves generalizing s h pool with
  | nil =>
      obtain ⟨rfl, rfl⟩ := Prod.mk.inj (Option.some.inj hcareer)
      rw [← hphase]
      rfl
  | cons move rest ih =>
      simp only [Pool.State.career] at hcareer
      split at hcareer
      · rename_i hallows
        obtain ⟨⟨pool₁, notes⟩, hmoved, hrest⟩ := Option.bind_eq_some_iff.mp hcareer
        have hregular : (Move.pool move).isRegular = true := by
          have hmove := (Bool.and_eq_true_iff.mp hallows).1
          cases move with
          | order order => exact absurd (List.mem_cons_self ..) (hnot order)
          | _ => exact hmove
        have hany := anyPool_of_starting hphase
        have hmove : s.move (.pool move) = some { server := s.setPool pool₁, notes } := by
          simp only [State.move]
          rw [hany, Option.bind_some, hmoved]
          rfl
        have hset : s.setPool pool₁ = { s with phase := .starting pool₁ order } := by
          simp only [setPool, hphase]
        simp only [List.map_cons, run]
        rw [if_pos hregular, hmove, Option.bind_some, record_pool hany, hset]
        exact ih rfl hrest fun order hmem => hnot order (List.mem_cons_of_mem _ hmem)
      · cases hcareer

/-- **A START CAN ALWAYS RETURN**. -/
theorem Orderly.returns (ho : s.Orderly h)
    (here : s.phase = .opening ∨ ∃ pool order, s.phase = .starting pool order) : s.Returns h := by
  rcases here with here | ⟨pool, order, here⟩
  · exact returns_of_opening here
  · obtain ⟨-, -, hkept, hstarts⟩ := ho.starting here
    have hreturns : pool.Returns h.annals order := hstarts.returns hkept.tended
    obtain ⟨moves, pool', annals, outcome, hcareer, hnot, hreturned⟩ := hreturns
    have hrun := run_career here hcareer hnot
    refine Returns.of_run hrun rfl ?_
    obtain ⟨left, hcollect⟩ : ∃ left, pool'.collect order = some (.ordered outcome, left) :=
      ⟨_, Pool.State.collect_of_finished hreturned⟩
    generalize hs₁ : { s with phase := Phase.starting pool' order } = s₁
    have hphase : s₁.phase = .starting pool' order := by rw [← hs₁]
    cases outcome with
    | error e =>
        have hmove : s₁.move (.advance { listener := .ok s.config.listenEndpoint } []) =
            some { server := { s₁ with phase := .idle }, answer := some (.started (.error (.pool e))) } := by
          simp only [State.move, advance, hphase, hcollect]
        exact ⟨_, _, _, _, run_singleton rfl hmove, rfl, rfl⟩
    | ok _ =>
        have hmove : s₁.move (.advance { listener := .ok s.config.listenEndpoint } []) =
            some { server := { s₁ with pool := some left, phase := .opening } } := by
          simp only [State.move, advance, hphase, hcollect]
        exact Returns.of_run (run_singleton rfl hmove) (List.append_nil _) (returns_of_opening rfl)

/-! ## What is true of a server -/

/-- What is true at any time of a server with the settings `config`, whichever of its starts have failed
    and wherever.

    It is initialized exactly if a start has said so, and has no mode before.  From then on a start is
    answered at once and does nothing, and the mode stays.  Its pool, if it has one, runs and has all its
    workers; the server has none while one is being started or stopped.

    A start that fails answers why, and leaves the server idle and without a mode; a worker that cannot be
    made is what the start answers.  A pool is let go only when all its workers have been joined, and no
    other pool than the server's is left.  A pool that runs already is used by the next start, and stays
    when the listener cannot be opened. -/
structure Consistent (config : Config) (s : State) (h : Chronicle) : Prop where
  settings : s.config = config
  initialized : s.isInitialized = true ↔ Except.ok () ∈ h.outcomes
  unset : s.isInitialized = false → s.mode = none
  again : s.isInitialized = true →
    (∀ faults o, s.move (.start faults) = some o →
      o = { server := s, faults, answer := some (.started (.ok ())) }) ∧
    ∀ moves s' h', s.run h moves = some (s', h') → s'.isInitialized = true ∧ s'.mode = s.mode
  pool : ∀ pool, s.pool = some pool → pool.running = true ∧
    pool.workers.length = config.threadPoolSize.toNat ∧ pool.Consistent h.annals
  apart : ∀ pool order, s.phase = .starting pool order ∨ s.phase = .stopping pool order → s.pool = none
  mode : ∀ opening faults o, s.phase = .opening → s.move (.advance opening faults) = some o →
    o.answer = some (.started (.ok ())) →
      o.server.mode = some (if opening.queue.isSome then .acceptLoop else config.serverMode)
  errors : ∀ move o e, s.move move = some o →
    (o.answer = some (.started (.error e)) ↔ s.Fails move e)
  failed : ∀ move o e, s.move move = some o → o.answer = some (.started (.error e)) →
    o.server.phase = .idle ∧ o.server.isInitialized = false ∧ o.server.mode = none
  setback : ∀ pool order left luck e, s.phase = .starting pool order →
    pool.activity? order = some (.order (.hiring (left + 1))) → (pool.hire luck).2.2 = .error e →
      ∀ moves s' h', s.run h (.pool (.step order luck) :: moves) = some (s', h') →
        s'.Answers h' order e h.outcomes
  released : ∀ move o pool, s.move move = some o → s.anyPool = some pool → o.server.anyPool = none →
    pool.workers = [] ∧ pool.monitor.contents.running = false ∧ h.annals.joined = h.annals.started
  count : h.made = h.released + s.anyPool.toList.length
  reused : ∀ pool faults o, s.pool = some pool → s.move (.start faults) = some o →
    o.server.pool = some pool ∧ o.server.anyPool = some pool ∧ o.notes = [] ∧ o.faults = faults
  stays : ∀ opening faults o, s.phase = .opening → s.move (.advance opening faults) = some o →
    o.server.pool = s.pool
  returns : (s.phase = .opening ∨ ∃ pool order, s.phase = .starting pool order) → s.Returns h

/-- An initialized server stays so. -/
theorem Orderly.again (ho : s.Orderly h) (hup : s.isInitialized = true)
    (hrun : s.run h moves = some (s', h')) : s'.listening = s.listening := by
  refine (run_keeps (P := fun s₁ h₁ => s₁.Orderly h₁ ∧ s₁.listening = s.listening) ?_ ⟨ho, rfl⟩ hrun).2
  rintro s₁ h₁ move s₂ answer ⟨ho₁, hsame⟩ hregular hg
  refine ⟨ho₁.goes hregular hg, Eq.trans ?_ hsame⟩
  cases hg with
  | listens _ _ listening here =>
      -- to open a listener there must be none
      have hnone := hsame.symm.trans (ho₁.silent here)
      simp only [isInitialized, hnone] at hup
      cases hup
  | pool =>
      simp only [setPool]
      split <;> rfl
  | _ => rfl

theorem start_of_initialized (hup : s.isInitialized = true) (hmove : s.move (.start faults) = some o) :
    o = { server := s, faults, answer := some (.started (.ok ())) } := by
  simp only [State.move] at hmove
  split at hmove
  · cases hmove
    simp only [start]
    rw [if_pos hup]
  · cases hmove

/-- What a start has obtained when it opens the listener, and the pool that it leaves. -/
theorem Goes.opens (hg : s.Goes (.advance opening faults) s' answer) (here : s.phase = .opening) :
    s'.pool = s.pool ∧
      (answer = some (.started (.ok ())) → s'.mode = some (s.obtained opening)) := by
  cases hg with
  | refuses _ _ e _ refused => exact ⟨rfl, fun heq => nomatch heq⟩
  | listens _ _ listening _ opened mode => exact ⟨rfl, fun _ => congrArg some mode⟩
  | startFails _ _ _ _ _ _ starting | startReturns _ _ _ _ _ _ starting =>
      cases here.symm.trans starting
  | stopped _ _ _ _ _ _ stopping => cases here.symm.trans stopping

theorem Orderly.consistent (ho : s.Orderly h) : s.Consistent s.config h where
  settings := rfl
  initialized := ho.outcomes
  unset hdown := by
    simp only [mode]
    rw [listening_eq_none hdown]
    rfl
  again hup := by
    refine ⟨fun faults o => start_of_initialized hup, fun moves s' h' hrun => ?_⟩
    have hsame := ho.again hup hrun
    simp only [isInitialized, mode]
    rw [hsame]
    exact ⟨hup, rfl⟩
  pool pool hown := length_workers_of_own ho hown
  apart pool order here := by
    rcases here with here | here
    · exact (ho.starting here).2.1
    · exact (ho.stopping here).1
  mode opening faults o here hmove := ((goes_of_move hmove).opens here).2
  errors move o e hmove := (goes_of_move hmove).fails_iff e
  failed move o e hmove hanswer := by
    obtain ⟨hidle, hnone⟩ := ho.failed (hanswer ▸ goes_of_move hmove)
    simp only [isInitialized, mode]
    rw [hnone]
    exact ⟨hidle, rfl, rfl⟩
  setback pool order left luck e here hhiring hfailed moves s' h' hrun :=
    ho.setback here hhiring hfailed hrun
  released move o pool hmove hbefore hafter := by
    obtain ⟨hshut, hjoined⟩ := ho.released (goes_of_move hmove) hbefore hafter
    exact ⟨hshut.2, hshut.1.2.1, hjoined⟩
  count := ho.count
  reused pool faults o hown hmove := Orderly.reused hown hmove
  stays opening faults o here hmove := ((goes_of_move hmove).opens here).1
  returns := ho.returns

/-- **A SERVER IS INITIALIZED ONCE**, whatever fails before. -/
theorem starts_consistently {hasHandler : Bool}
    (hrun : (State.new config hasHandler).run {} moves = some (s, h)) : s.Consistent config h := by
  have ho := (orderly_new config hasHandler).run hrun
  have hconfig : s.config = config :=
    run_keeps (P := fun s _ => s.config = config) (fun _ _ _ _ _ hs _ hg => hg.settings.trans hs) rfl hrun
  exact hconfig ▸ ho.consistent

/-- Two workers, and readiness events if there can be any. -/
def pairConfig : Config := { threadPoolSize := 2, serverMode := .kernelEvents }

/-- A start without a handler; one whose second worker's thread cannot be started; one whose listener
    cannot be opened; one without a readiness queue; and one more. -/
def startsFiveTimes : List Move :=
  let step (t : ThreadId) : Move := .pool (.step t {})
  [.start [], .setHandler,
    .start [], step 0, step 0, step 0, .pool (.step 0 { spawn := false }), step 1, step 1, step 0,
    step 0, step 0, step 1, step 1, step 1, step 0, step 0,
    .advance { listener := .error (.system 98) } [],
    .start [], step 0, step 0, step 0, step 0, step 0, .advance { listener := .error (.system 98) } [],
    .advance { listener := .error (.system 98) } [],
    .start [], .advance { queue := some (.system 24), listener := .ok pairConfig.listenEndpoint } [],
    .start []]

/-- The server after that, and its chronicle. -/
def startedServer : State × Chronicle :=
  ((State.new pairConfig false).run {} startsFiveTimes).getD (State.new pairConfig false, {})

/-- The first three starts fail, the fourth uses the pool of the third and the accept loop, and the last
    does nothing. -/
theorem starts_consistently_atLast :
    (State.new pairConfig false).run {} startsFiveTimes = some startedServer ∧
    startedServer.2.outcomes.map Except.isOk = [false, false, false, true, true] ∧
    startedServer.1.mode = some .acceptLoop ∧ startedServer.2.made = 2 ∧
    startedServer.2.released = 1 ∧ startedServer.1.pool.isSome = true ∧
    startedServer.1.Consistent pairConfig startedServer.2 := by
  have hrun : (State.new pairConfig false).run {} startsFiveTimes = some startedServer :=
    (Option.getD_of_ne_none (by decide) _).symm
  exact ⟨hrun, by decide, by decide, by decide, by decide, by decide, starts_consistently hrun⟩

end State

end PooledServer.Server
