import PooledServer.Proofs.Pool.Owners
import PooledServer.Server.Step

/-!
# What a server can do between calls

    A start takes several moves, and the pool's threads have a say in some of them.  `State.Goes` lists
    every move of a server with what has failed, if anything has.

    Between moves a server is in one of four phases, and each of them says what there is of a pool and of
    a listener (`Phase.Fits`): a pool that is being started or stopped is not the server's own yet, or no
    more, and while a start is under way there is no listener.  That is the invariant `State.Orderly`,
    which also keeps the chronicle of the server: what its starts have answered, how many pools it has
    made and how many it has let go. -/

namespace PooledServer.Server

open Net
open Work (Note)

/-- What a start has answered. -/
def Answer.outcome? : Answer → Option (Except ServerError Unit)
  | started outcome => some outcome
  | stopped => none

/-- What has become of a server's starts and of its pools. -/
structure Chronicle where
  /-- What the starts have answered. -/
  outcomes : List (Except ServerError Unit) := []
  /-- How many pools have been made. -/
  made : Nat := 0
  /-- How many of them the server has let go. -/
  released : Nat := 0
  /-- The annals of the last of them. -/
  annals : Pool.Annals := {}

/-- In the pool locks and waits work, work comes in through its handles, and nobody but the server gives
    it orders. -/
def Move.isRegular : Move → Bool
  | .pool (.order _) => false
  | .pool move => move.isRegular
  | .start _ | .stop | .setHandler | .advance .. => true

/-- What there is of a pool and of a listener in each phase. -/
def Phase.Fits (s : State) (annals : Pool.Annals) : Phase → Prop
  | .idle => True
  | .starting pool order =>
    s.listening = none ∧ s.pool = none ∧ pool.Kept annals s.config.threadPoolSize ∧ pool.Starts order
  | .opening => s.listening = none
  | .stopping pool order =>
    s.pool = none ∧ pool.Kept annals s.config.threadPoolSize ∧ pool.Stops order

namespace State

/-- The mode that a start obtains if it succeeds. -/
def obtained (s : State) (opening : Opening) : ServerMode :=
  if opening.queue.isSome then .acceptLoop else s.config.serverMode

/-- Why the listener cannot be opened.  To serve readiness events it also has to be made not to wait and
    to be watched, after a mutex has been made for the table. -/
def refusal (s : State) (opening : Opening) (faults : Sync.Faults) : Option ServerError :=
  match opening.listener with
  | .error e => some (.io e)
  | .ok _ =>
    match s.obtained opening, (Sync.createMutex Events.tableMutexName faults).2.2 with
    | .acceptLoop, _ => none
    | .kernelEvents, .error e => some (.ofSync e)
    | .kernelEvents, .ok _ => (opening.nonBlocking.or opening.watch).map .io

/-- Every move of a server, with its answer. -/
inductive Goes (s : State) : Move → State → Option Answer → Prop
  | again (faults : Sync.Faults) (idle : s.phase = .idle) (up : s.isInitialized = true) :
      Goes s (.start faults) s (some (.started (.ok ())))
  | objects (faults : Sync.Faults) (e : ServerError) (idle : s.phase = .idle)
      (down : s.isInitialized = false) (objection : s.objection = some e) :
      Goes s (.start faults) s (some (.started (.error e)))
  | poolless (faults : Sync.Faults) (e : PoolError) (idle : s.phase = .idle)
      (down : s.isInitialized = false) (content : s.objection = none) (nothing : s.pool = none)
      (wanted : s.config.threadPoolSize ≠ 0)
      (failed : (Pool.create poolName s.config.threadPoolSize faults).2.2 = .error e) :
      Goes s (.start faults) { s with threshold := s.config.logLevel }
        (some (.started (.error (.pool e))))
  | starts (faults : Sync.Faults) (pool : Pool.State) (idle : s.phase = .idle)
      (down : s.isInitialized = false) (content : s.objection = none) (nothing : s.pool = none)
      (made : (Pool.create poolName s.config.threadPoolSize faults).2.2 = .ok pool) :
      Goes s (.start faults)
        { s with threshold := s.config.logLevel
                 phase := .starting (pool.order .start) pool.nextThread } none
  | goesOn (faults : Sync.Faults) (idle : s.phase = .idle) (down : s.isInitialized = false)
      (content : s.objection = none) (ready : s.pool.isSome = true ∨ s.config.threadPoolSize = 0) :
      Goes s (.start faults) { s with threshold := s.config.logLevel, phase := .opening } none
  | stopsNothing (idle : s.phase = .idle) (nothing : s.pool = none) : Goes s .stop s (some .stopped)
  | stops (pool : Pool.State) (measures : Bool) (idle : s.phase = .idle) (own : s.pool = some pool) :
      Goes s .stop
        { s with pool := none, phase := .stopping (pool.order (.stop measures)) pool.nextThread } none
  | setsHandler (idle : s.phase = .idle) : Goes s .setHandler { s with hasHandler := true } none
  | startFails (opening : Opening) (faults : Sync.Faults) (pool left : Pool.State) (order : ThreadId)
      (e : PoolError) (starting : s.phase = .starting pool order)
      (returned : pool.collect order = some (.ordered (.error e), left)) :
      Goes s (.advance opening faults) { s with phase := .idle } (some (.started (.error (.pool e))))
  | startReturns (opening : Opening) (faults : Sync.Faults) (pool left : Pool.State) (order : ThreadId)
      (result : Pool.Result) (starting : s.phase = .starting pool order)
      (returned : pool.collect order = some (result, left))
      (good : ∀ e, result ≠ .ordered (.error e)) :
      Goes s (.advance opening faults) { s with pool := some left, phase := .opening } none
  | refuses (opening : Opening) (faults : Sync.Faults) (e : ServerError) (here : s.phase = .opening)
      (refused : s.refusal opening faults = some e) :
      Goes s (.advance opening faults) { s with phase := .idle } (some (.started (.error e)))
  | listens (opening : Opening) (faults : Sync.Faults) (listening : Listening)
      (here : s.phase = .opening) (opened : s.refusal opening faults = none)
      (mode : listening.mode = s.obtained opening) :
      Goes s (.advance opening faults) { s with phase := .idle, listening := some listening }
        (some (.started (.ok ())))
  | stopped (opening : Opening) (faults : Sync.Faults) (pool left : Pool.State) (order : ThreadId)
      (result : Pool.Result) (stopping : s.phase = .stopping pool order)
      (returned : pool.collect order = some (result, left)) :
      Goes s (.advance opening faults) { s with phase := .idle } (some .stopped)
  | pool (move : Pool.Move) (pool pool' : Pool.State) (notes : List Note)
      (present : s.anyPool = some pool) (moved : pool.move move = some (pool', notes)) :
      Goes s (.pool move) (s.setPool pool') none

variable {s s' : State} {move : Move} {o : Outcome} {answer : Option Answer} {opening : Opening}
  {faults : Sync.Faults} {pool : Pool.State} {order : ThreadId}

/-- A listener is opened, in the mode that can be obtained, unless something is in the way. -/
theorem listen_allowedMode (s : State) (opening : Opening) (faults : Sync.Faults) :
    (∃ e, s.refusal opening faults = some e ∧
      (s.listen (s.allowedMode opening).1 opening faults).2.2 = .error e) ∨
    ∃ listening, s.refusal opening faults = none ∧
      (s.listen (s.allowedMode opening).1 opening faults).2.2 = .ok listening ∧
      listening.mode = s.obtained opening := by
  have hmode : (s.allowedMode opening).1 = s.obtained opening := by
    simp only [allowedMode, obtained]
    cases s.config.serverMode <;> cases opening.queue <;> rfl
  rw [hmode]
  simp only [listen, refusal]
  cases opening.listener with
  | error e => exact Or.inl ⟨_, rfl, rfl⟩
  | ok bound =>
      cases s.obtained opening with
      | acceptLoop => exact Or.inr ⟨_, rfl, rfl, rfl⟩
      | kernelEvents =>
          simp only [Events.State.create]
          cases (Sync.createMutex Events.tableMutexName faults).2.2 with
          | error e => exact Or.inl ⟨_, rfl, rfl⟩
          | ok mutex =>
              cases opening.nonBlocking with
              | some e => exact Or.inl ⟨_, rfl, rfl⟩
              | none =>
                  cases opening.watch with
                  | some e => exact Or.inl ⟨_, rfl, rfl⟩
                  | none => exact Or.inr ⟨_, rfl, rfl, rfl⟩

theorem goes_of_openListener (here : s.phase = .opening) :
    s.Goes (.advance opening faults) (s.openListener opening faults).server
      (s.openListener opening faults).answer := by
  have hlisten := s.listen_allowedMode opening faults
  simp only [openListener]
  split
  · rename_i faults' notes e heq
    have hfailed : (s.listen (s.allowedMode opening).1 opening faults).2.2 = .error e :=
      congrArg (·.2.2) heq
    rcases hlisten with ⟨e', hrefused, herror⟩ | ⟨listening, -, hok, -⟩
    · cases herror.symm.trans hfailed
      exact .refuses opening faults e here hrefused
    · cases hok.symm.trans hfailed
  · rename_i faults' notes listening heq
    have hopened : (s.listen (s.allowedMode opening).1 opening faults).2.2 = .ok listening :=
      congrArg (·.2.2) heq
    rcases hlisten with ⟨e', -, herror⟩ | ⟨listening', hnone, hok, hmode⟩
    · cases herror.symm.trans hopened
    · cases hok.symm.trans hopened
      exact .listens opening faults listening here hnone hmode

theorem goes_of_start (idle : s.phase = .idle) :
    s.Goes (.start faults) (s.start faults).server (s.start faults).answer := by
  simp only [start]
  split
  · rename_i hup
    exact .again faults idle hup
  · rename_i hdown
    have hdown : s.isInitialized = false := Bool.eq_false_iff.mpr hdown
    split
    · rename_i e hobjection
      exact .objects faults e idle hdown hobjection
    · rename_i hcontent
      split
      · rename_i hneeded
        obtain ⟨hnone, hwanted⟩ := Bool.and_eq_true_iff.mp hneeded
        have hnone : s.pool = none := Option.isNone_iff_eq_none.mp hnone
        split
        · rename_i notes faults' e hcreate
          exact .poolless faults e idle hdown hcontent hnone (by simpa using hwanted)
            (congrArg (·.2.2) hcreate)
        · rename_i notes faults' pool hcreate
          exact .starts faults pool idle hdown hcontent hnone (congrArg (·.2.2) hcreate)
      · rename_i hready
        refine .goesOn faults idle hdown hcontent ?_
        cases hpool : s.pool with
        | some pool => exact Or.inl rfl
        | none => exact Or.inr (by simpa [hpool] using hready)

theorem goes_of_advance (h : s.advance opening faults = some o) :
    s.Goes (.advance opening faults) o.server o.answer := by
  simp only [advance] at h
  split at h
  · exact nomatch h
  · rename_i pool order hstarting
    split at h
    · rename_i e left hcollect
      cases h
      exact .startFails opening faults pool left order e hstarting hcollect
    · rename_i result left hnot hcollect
      cases h
      exact .startReturns opening faults pool left order result hstarting hcollect hnot
    · exact nomatch h
  · rename_i hopening
    cases h
    exact goes_of_openListener hopening
  · rename_i pool order hstopping
    obtain ⟨⟨result, left⟩, hcollect, rfl⟩ := Option.map_eq_some_iff.mp h
    exact .stopped opening faults pool left order result hstopping hcollect

/-- **EVERY MOVE OF A SERVER** is one of these. -/
theorem goes_of_move (h : s.move move = some o) : s.Goes move o.server o.answer := by
  cases move with
  | start faults =>
      simp only [State.move] at h
      split at h
      · rename_i hidle
        cases h
        exact goes_of_start hidle
      · exact nomatch h
  | stop =>
      simp only [State.move] at h
      split at h
      · rename_i hidle
        cases h
        simp only [stop]
        split
        · rename_i hnone
          exact .stopsNothing hidle hnone
        · rename_i pool hpool
          exact .stops pool _ hidle hpool
      · exact nomatch h
  | setHandler =>
      simp only [State.move] at h
      split at h
      · rename_i hidle
        cases h
        exact .setsHandler hidle
      · exact nomatch h
  | advance opening faults => exact goes_of_advance h
  | pool move =>
      obtain ⟨pool, hpresent, hmoved⟩ := Option.bind_eq_some_iff.mp h
      obtain ⟨⟨pool', notes⟩, hmove, rfl⟩ := Option.map_eq_some_iff.mp hmoved
      exact .pool move pool pool' notes hpresent hmove

/-! ## Runs -/

/-- The chronicle after a move. -/
def record (s : State) (h : Chronicle) (move : Move) (s' : State) (answer : Option Answer) :
    Chronicle where
  outcomes := h.outcomes ++ (answer.bind Answer.outcome?).toList
  made := h.made + if (move matches .start _) && (s'.phase matches .starting ..) then 1 else 0
  released := h.released + if s.anyPool.isSome && s'.anyPool.isNone then 1 else 0
  annals :=
    match move, s.anyPool with
    | .pool move, some pool => pool.record h.annals move
    | .start _, none => {}
    | _, _ => h.annals

/-- A sequence of regular moves, with the chronicle at its end. -/
def run (s : State) (h : Chronicle) : List Move → Option (State × Chronicle)
  | [] => some (s, h)
  | move :: rest =>
    if move.isRegular then
      (s.move move).bind fun o => o.server.run (s.record h move o.server o.answer) rest
    else none

variable {h h' : Chronicle} {moves : List Move} {config : Config}

/-- What every regular move keeps holds at the end of a run. -/
theorem run_keeps {P : State → Chronicle → Prop}
    (hmove : ∀ s h move s' answer, P s h → move.isRegular = true → s.Goes move s' answer →
      P s' (s.record h move s' answer))
    (hstart : P s h) (hrun : s.run h moves = some (s', h')) : P s' h' := by
  induction moves generalizing s h with
  | nil =>
      obtain ⟨rfl, rfl⟩ := Prod.mk.inj (Option.some.inj hrun)
      exact hstart
  | cons move rest ih =>
      simp only [run] at hrun
      split at hrun
      · rename_i hregular
        obtain ⟨o, hgoes, hrest⟩ := Option.bind_eq_some_iff.mp hrun
        exact ih (hmove s h move o.server o.answer hstart hregular (goes_of_move hgoes)) hrest
      · exact nomatch hrun

/-! ## Phases -/

/-- The server is in order, and the chronicle is true of it. -/
structure Orderly (s : State) (h : Chronicle) : Prop where
  outcomes : s.isInitialized = true ↔ Except.ok () ∈ h.outcomes
  fits : s.phase.Fits s h.annals
  own : ∀ pool, s.pool = some pool → pool.InService h.annals s.config.threadPoolSize
  count : h.made = h.released + s.anyPool.toList.length

theorem Orderly.starting (ho : s.Orderly h) (here : s.phase = .starting pool order) :
    s.listening = none ∧ s.pool = none ∧ pool.Kept h.annals s.config.threadPoolSize ∧
      pool.Starts order := by
  have hfits := ho.fits
  rw [here] at hfits
  exact hfits

theorem Orderly.silent (ho : s.Orderly h) (here : s.phase = .opening) : s.listening = none := by
  have hfits := ho.fits
  rw [here] at hfits
  exact hfits

theorem Orderly.stopping (ho : s.Orderly h) (here : s.phase = .stopping pool order) :
    s.pool = none ∧ pool.Kept h.annals s.config.threadPoolSize ∧ pool.Stops order := by
  have hfits := ho.fits
  rw [here] at hfits
  exact hfits

theorem orderly_new (config : Config) (hasHandler : Bool) : (State.new config hasHandler).Orderly {} :=
  ⟨⟨fun hup => (nomatch hup), fun hmem => (nomatch hmem)⟩, trivial, fun _ hown => (nomatch hown), rfl⟩

theorem Goes.settings (hg : s.Goes move s' answer) : s'.config = s.config := by
  cases hg with
  | pool move pool pool' notes present moved =>
      simp only [setPool]
      split <;> rfl
  | _ => rfl

/-- The server is initialized exactly if a start has said so. -/
theorem Orderly.outcomes_record (ho : s.Orderly h) (hg : s.Goes move s' answer) :
    s'.isInitialized = true ↔ Except.ok () ∈ (s.record h move s' answer).outcomes := by
  have hsame : s'.listening = s.listening → (answer.bind Answer.outcome?).toList = [] →
      (s'.isInitialized = true ↔ Except.ok () ∈ (s.record h move s' answer).outcomes) := by
    intro hlistening hnone
    simp only [record, isInitialized]
    rw [hlistening, hnone, List.append_nil]
    exact ho.outcomes
  have herror : ∀ e, s'.listening = s.listening → (answer.bind Answer.outcome?).toList = [.error e] →
      (s'.isInitialized = true ↔ Except.ok () ∈ (s.record h move s' answer).outcomes) := by
    intro e hlistening hone
    simp only [record, isInitialized]
    rw [hlistening, hone, List.mem_append, List.mem_singleton]
    exact ho.outcomes.trans ⟨Or.inl, fun hmem => hmem.resolve_right fun heq => nomatch heq⟩
  cases hg with
  | again faults idle up =>
      exact ⟨fun _ => List.mem_append_right _ (List.mem_singleton_self _), fun _ => up⟩
  | listens opening faults listening here opened mode =>
      exact ⟨fun _ => List.mem_append_right _ (List.mem_singleton_self _), fun _ => rfl⟩
  | objects | poolless | startFails | refuses => exact herror _ rfl rfl
  | pool move pool pool' notes present moved =>
      refine hsame ?_ rfl
      simp only [setPool]
      split <;> rfl
  | _ => exact hsame rfl rfl

theorem anyPool_of_starting (h : s.phase = .starting pool order) : s.anyPool = some pool := by
  simp only [anyPool, h]

theorem anyPool_of_stopping (h : s.phase = .stopping pool order) : s.anyPool = some pool := by
  simp only [anyPool, h]

theorem listening_eq_none (h : s.isInitialized = false) : s.listening = none :=
  Option.not_isSome_iff_eq_none.mp (Bool.eq_false_iff.mp h)

theorem anyPool_setPool : (s.setPool pool).anyPool = some pool := by
  simp only [setPool, anyPool]
  cases s.phase <;> rfl

/-- What a move of its pool adds to a server's chronicle. -/
theorem record_pool {move : Pool.Move} {pool' : Pool.State} (present : s.anyPool = some pool) :
    s.record h (.pool move) (s.setPool pool') none =
      { h with annals := pool.record h.annals move } := by
  simp [record, anyPool_setPool, present]

theorem isRegular_pool {move : Pool.Move} (h : (Move.pool move).isRegular = true) :
    move.isRegular = true ∧ ∀ order, move ≠ .order order := by
  cases move with
  | order order => cases h
  | _ => exact ⟨h, fun _ heq => nomatch heq⟩

/-- Every pool that has been made is the server's, or has been let go. -/
theorem Orderly.count_record (ho : s.Orderly h) (hg : s.Goes move s' answer) :
    (s.record h move s' answer).made =
      (s.record h move s' answer).released + s'.anyPool.toList.length := by
  have hcount := ho.count
  cases hg with
  | again faults idle up | objects faults e idle | poolless faults e idle | goesOn faults idle
  | stopsNothing idle | setsHandler idle =>
      cases hpool : s.pool <;> simpa [record, anyPool, idle, hpool] using hcount
  | refuses opening faults e here | listens opening faults listening here =>
      cases hpool : s.pool <;> simpa [record, anyPool, here, hpool] using hcount
  | starts faults pool idle down content nothing made =>
      simpa [record, anyPool, idle, nothing] using hcount
  | stops pool measures idle own => simpa [record, anyPool, idle, own] using hcount
  | startFails opening faults pool left order e starting returned =>
      simpa [record, anyPool, starting, (ho.starting starting).2.1] using hcount
  | startReturns opening faults pool left order result starting returned good =>
      simpa [record, anyPool, starting] using hcount
  | stopped opening faults pool left order result stopping returned =>
      simpa [record, anyPool, stopping, (ho.stopping stopping).1] using hcount
  | pool move pool pool' notes present moved =>
      rw [record_pool present, anyPool_setPool]
      rwa [present] at hcount

/-- The annals go on with the pool that the server has. -/
theorem annals_record (hpresent : s.anyPool.isSome = true)
    (hmove : ∀ pool, move ≠ .pool pool) : (s.record h move s' answer).annals = h.annals := by
  obtain ⟨pool, hpool⟩ := Option.isSome_iff_exists.mp hpresent
  cases move with
  | pool move => exact absurd rfl (hmove move)
  | start faults => simp only [record, hpool]
  | stop | setHandler | advance => simp only [record]

theorem Orderly.fits_record (ho : s.Orderly h) (hregular : move.isRegular = true)
    (hg : s.Goes move s' answer) : s'.phase.Fits s' (s.record h move s' answer).annals := by
  cases hg with
  | again faults idle up | objects faults e idle | poolless faults e idle | stopsNothing idle
  | setsHandler idle =>
      show Phase.Fits _ _ s.phase
      rw [idle]
      trivial
  | starts faults pool idle down content nothing made =>
      have hcreate : Pool.create poolName s.config.threadPoolSize faults = (_, _, .ok pool) :=
        Prod.ext rfl (Prod.ext rfl made)
      obtain ⟨hkept, hnobody, hfresh, hidle⟩ := Pool.State.kept_create hcreate
      have hannals : (s.record h (.start faults) { s with
          threshold := s.config.logLevel
          phase := .starting (pool.order .start) pool.nextThread } none).annals = {} := by
        simp only [record, anyPool, idle, nothing]
      rw [hannals]
      exact ⟨listening_eq_none down, nothing, hkept.starts hnobody hfresh hidle⟩
  | goesOn faults idle down content ready => exact listening_eq_none down
  | stops pool measures idle own => exact ⟨rfl, (ho.own pool own).stops measures⟩
  | startFails | refuses | listens | stopped => trivial
  | startReturns opening faults pool left order result starting returned good =>
      exact (ho.starting starting).1
  | pool move pool pool' notes present moved =>
      obtain ⟨hregular, hnot⟩ := isRegular_pool hregular
      rw [record_pool present]
      cases hphase : s.phase with
      | idle =>
          simp only [setPool, hphase]
          trivial
      | opening =>
          simp only [setPool, hphase]
          exact ho.silent hphase
      | starting started order =>
          obtain ⟨hdown, hnone, hkept, hstarts⟩ := ho.starting hphase
          cases (anyPool_of_starting hphase).symm.trans present
          obtain ⟨hproceeds, hkept'⟩ := hkept.goes hregular hnot moved
          simp only [setPool, hphase]
          exact ⟨hdown, hnone, hkept', hstarts.proceeds hkept.tended hproceeds hnot⟩
      | stopping stopped order =>
          obtain ⟨hnone, hkept, hstops⟩ := ho.stopping hphase
          cases (anyPool_of_stopping hphase).symm.trans present
          obtain ⟨hproceeds, hkept'⟩ := hkept.goes hregular hnot moved
          simp only [setPool, hphase]
          exact ⟨hnone, hkept', hstops.proceeds hkept.tended hproceeds⟩

theorem Orderly.own_record (ho : s.Orderly h) (hregular : move.isRegular = true)
    (hg : s.Goes move s' answer) (hown : s'.pool = some pool) :
    pool.InService (s.record h move s' answer).annals s'.config.threadPoolSize := by
  have hsame : s'.pool = s.pool → s.anyPool = s.pool → (∀ pool, move ≠ .pool pool) →
      pool.InService (s.record h move s' answer).annals s'.config.threadPoolSize := by
    intro heq hany hmove
    rw [annals_record (by rw [hany, ← heq, hown]; rfl) hmove, hg.settings]
    exact ho.own pool (heq.symm.trans hown)
  cases hg with
  | again faults idle up | objects faults e idle | poolless faults e idle | goesOn faults idle
  | stopsNothing idle | setsHandler idle | starts faults made idle =>
      exact hsame rfl (by simp only [anyPool, idle]) fun _ heq => nomatch heq
  | refuses opening faults e here | listens opening faults listening here =>
      exact hsame rfl (by simp only [anyPool, here]) fun _ heq => nomatch heq
  | stops pool measures idle own => cases hown
  | startFails opening faults started left order e starting returned =>
      cases (ho.starting starting).2.1.symm.trans hown
  | startReturns opening faults started left order result starting returned good =>
      obtain ⟨-, -, hkept, hstarts⟩ := ho.starting starting
      cases hown
      obtain ⟨outcome, rfl⟩ := hstarts.ordered (Pool.State.collect_eq returned).1
      cases outcome with
      | error e => exact absurd rfl (good e)
      | ok _ => exact hstarts.inService hkept returned
  | stopped opening faults ended left order result stopping returned =>
      cases (ho.stopping stopping).1.symm.trans hown
  | pool move before pool' notes present moved =>
      rw [record_pool present, Goes.settings (.pool move before pool' notes present moved)]
      obtain ⟨hregular, hnot⟩ := isRegular_pool hregular
      cases hphase : s.phase with
      | idle | opening =>
          simp only [setPool, hphase] at hown
          cases hown
          simp only [anyPool, hphase] at present
          exact (ho.own before present).goes hregular hnot moved
      | starting started order =>
          simp only [setPool, hphase] at hown
          cases (ho.starting hphase).2.1.symm.trans hown
      | stopping stopped order =>
          simp only [setPool, hphase] at hown
          cases (ho.stopping hphase).1.symm.trans hown

/-- **A SERVER STAYS IN ORDER**. -/
theorem Orderly.goes (ho : s.Orderly h) (hregular : move.isRegular = true)
    (hg : s.Goes move s' answer) : s'.Orderly (s.record h move s' answer) :=
  ⟨ho.outcomes_record hg, ho.fits_record hregular hg, fun _ => ho.own_record hregular hg,
    ho.count_record hg⟩

theorem Orderly.run (ho : s.Orderly h) (hrun : s.run h moves = some (s', h')) : s'.Orderly h' :=
  run_keeps (fun _ _ _ _ _ ho hregular hg => ho.goes hregular hg) ho hrun

end State

end PooledServer.Server
