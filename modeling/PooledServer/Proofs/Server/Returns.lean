import PooledServer.Proofs.Events.Homecoming
import PooledServer.Proofs.Server.Ledger

/-!
# Every socket is handed back once

    Whatever the handler does and whatever becomes of the item of a request, the socket goes back to the
    event server once, and the handler is called at most once.  The socket that goes back is parked and
    watched again if it is open, and closed if not, unless its way home is disturbed
    (`Service.serves_once`).  Where events are prompt nobody disturbs it
    (`Service.comes_home_promptly`). -/

namespace PooledServer.Server

open Net
open Events (Request Stage)
open Work (TaskId)

namespace Service

variable {σ : Type} {s s' : Service σ} {e e' : Errand} {seen notes : List ServiceNote}
  {move : ServiceMove σ} {place : Nat} {id : TaskId}

/-! ## Items and the requests that are kept -/

/-- The owners before and after an item, and what a change of the item makes of them. -/
theorem exists_owners (here : s.errands[place]? = some e) (owns : e.owns = true) :
    ∃ before after, s.owners = before ++ e :: after ∧ before.length = s.rank place ∧
      (∀ e', (s.errands.set place e').filter Errand.owns =
        before ++ ([e'].filter Errand.owns ++ after)) ∧
      (s.errands.eraseIdx place).filter Errand.owns = before ++ after := by
  obtain ⟨hlt, hget⟩ := List.getElem?_eq_some_iff.mp here
  have hsplit : s.errands = s.errands.take place ++ e :: s.errands.drop (place + 1) := by
    rw [← hget, List.getElem_cons_drop, List.take_append_drop]
  refine ⟨(s.errands.take place).filter Errand.owns,
    (s.errands.drop (place + 1)).filter Errand.owns, ?_, ?_, ?_, ?_⟩
  · rw [owners, ← List.filter_cons_of_pos owns, ← List.filter_append, ← hsplit]
  · rw [← List.countP_eq_length_filter]
    rfl
  · intro e'
    rw [List.set_eq_take_append_cons_drop, if_pos hlt, List.filter_append,
      ← List.singleton_append, List.filter_append]
  · rw [List.eraseIdx_eq_take_drop_succ, List.filter_append]

/-- An item that has got rid of its closure has no more part in this. -/
theorem owners_lingers (here : s.errands[place]? = some e) (gone : e.owns = false)
    (gone' : e'.owns = false) : (s.errands.set place e').filter Errand.owns = s.owners := by
  obtain ⟨hlt, hget⟩ := List.getElem?_eq_some_iff.mp here
  have hsplit : s.errands = s.errands.take place ++ e :: s.errands.drop (place + 1) := by
    rw [← hget, List.getElem_cons_drop, List.take_append_drop]
  rw [List.set_eq_take_append_cons_drop, if_pos hlt, List.filter_append,
    List.filter_cons_of_neg (by rw [gone']; exact Bool.false_ne_true), owners]
  conv_rhs => rw [hsplit, List.filter_append,
    List.filter_cons_of_neg (by rw [gone]; exact Bool.false_ne_true)]

/-- The request of an item stands in the item's rank among those that are kept. -/
theorem Accounted.kept_rank (ha : s.Accounted seen) (here : s.errands[place]? = some e)
    (owns : e.owns = true) : s.hub.kept[s.rank place]? = some e.request := by
  obtain ⟨before, after, howners, hrank, -, -⟩ := exists_owners here owns
  rw [ha.kept, howners, ← hrank, List.map_append, List.map_cons, ← List.length_map (·.request),
    List.getElem?_append_right (Nat.le_refl _), Nat.sub_self, List.getElem?_cons_zero]

theorem owns_of_waits (waits : e.execution = { item := carrier id }) : e.owns = true := by
  simp only [Errand.owns, waits]

theorem owns_of_runs (runs : e.execution = { item := carrier id, phase := .acting 1 [] }) :
    e.owns = true := by
  simp only [Errand.owns, runs]

/-- A request that is about to be handed out is for an open socket. -/
theorem Accounted.isOpen_of_serve (ha : s.Accounted seen) {t : ThreadId} {r : Request}
    {rest : List Stage} (here : s.hub.agenda? t = some (.serve r :: rest)) :
    r.socket.isOpen = true := by
  have hmine := Events.State.mem_threads_of_agenda? here
  exact ha.lending.asked r (Events.State.mem_requests.mpr (Or.inr ⟨_, hmine, List.mem_cons_self ..⟩))

/-! ## Every move keeps the account -/

/-- Moves of an event server that have nothing to do with its requests leave those it keeps. -/
theorem kept_of_isOwn {hub hub' : Events.State} {m : Events.Move} (own : isOwn hub m = true)
    (h : hub.Goes m hub') : hub'.kept = hub.kept := by
  cases h with
  | carries here done =>
      cases done with
      | keeps r =>
          simp only [isOwn, here] at own
          exact nomatch own
      | tracks socket lock => cases hub.table.socket? socket.descriptor <;> rfl
      | drops c socket => cases socket <;> rfl
      | _ => rfl
  | completes => exact nomatch own
  | receives | steals | opens => rfl

/-- The rule that nobody else closes the number of a connection. -/
def spares (s : Service σ) : ServiceMove σ → Bool
  | .hub m => s.hub.spares m
  | _ => true

/-- The rule that a batch of events has numbers that are watched, and each of them once. -/
def promptly (s : Service σ) : ServiceMove σ → Bool
  | .hub m => s.hub.promptly m
  | _ => true

theorem spares_of_promptly (hrule : s.promptly move = true) : s.spares move = true := by
  cases move with
  | hub m =>
      have hprompt : s.hub.promptly m = true := hrule
      exact Events.State.spares_of_rule hprompt fun _ => rfl
  | _ => rfl

variable [ByteStream σ] {handler : RequestHandler σ}

/-- A move of a service is at most one move of its event server: one of the event server's own, a stage
    that hands a request out, or the end of a request that was kept. -/
theorem Goes.hub_goes_of_rule {rule : Events.State → Events.Move → Bool}
    (h : s.Goes handler move s' notes) (hown : ∀ m, move = .hub m → rule s.hub m = true)
    (hserve : ∀ t r rest, s.hub.agenda? t = some (.serve r :: rest) →
      rule s.hub (.step t {}) = true)
    (hcomplete : ∀ place isOpen pending, rule s.hub (.complete place isOpen pending) = true) :
    s'.hub = s.hub ∨ ∃ m, rule s.hub m = true ∧ s.hub.Goes m s'.hub := by
  cases h with
  | hub m hub own goes => exact Or.inr ⟨m, hown m rfl, goes⟩
  | queues t r rest here =>
      exact Or.inr ⟨.step t {}, hserve t r rest here, .carries here (.keeps r)⟩
  | refuses t r rest record here =>
      exact Or.inr ⟨.step t {}, hserve t r rest here,
        .carries here (.finishes r r.socket.isOpen r.socket.pending none)⟩
  | serves t r rest after e later here calls =>
      obtain ⟨-, hrequest, -⟩ := call_eq calls
      have hsocket : e.socket = { r.socket with isOpen := e.isOpen, pending := e.pending } := by
        rw [Errand.socket, hrequest]
        rfl
      rw [hsocket]
      exact Or.inr ⟨.step t {}, hserve t r rest here,
        .carries here (.finishes r e.isOpen e.pending none)⟩
  | begins place e id after e' later here waits calls =>
      obtain ⟨⟨streams, rfl⟩, -⟩ := call_eq calls
      exact Or.inl rfl
  | ends place e id r here runs kept =>
      exact Or.inr ⟨_, hcomplete .., .completes _ r e.isOpen e.pending kept⟩
  | destroys place e id r here waits kept =>
      exact Or.inr ⟨_, hcomplete .., .completes _ r e.isOpen e.pending kept⟩
  | lingers | streams => exact Or.inl rfl

theorem Goes.hub_goes (h : s.Goes handler move s' notes) (hrule : s.spares move = true) :
    s'.hub = s.hub ∨ ∃ m, s.hub.spares m = true ∧ s.hub.Goes m s'.hub := by
  refine h.hub_goes_of_rule ?_ (fun _ _ _ _ => rfl) (fun _ _ _ => rfl)
  rintro m rfl
  exact hrule

theorem Accounted.hub_sound (ha : s.Accounted seen) (h : s.Goes handler move s' notes)
    (hrule : s.spares move = true) : s'.hub.Sound ∧ s'.hub.Lending := by
  rcases h.hub_goes hrule with heq | ⟨m, hspares, hgoes⟩
  · rw [heq]
    exact ⟨ha.sound, ha.lending⟩
  · exact ⟨ha.sound.goes hspares hgoes, ha.lending.goes ha.sound hgoes⟩

theorem Accounted.turn (ha : s.Accounted seen) (h : s.Goes handler move s' notes) :
    Turn s s' notes := by
  cases h with
  | hub m hub own goes => exact .quiet rfl (kept_of_isOwn own goes) rfl rfl
  | queues t r rest here =>
      refine .takes r ?_ rfl rfl rfl
      show (s.errands ++ [_]).filter Errand.owns = _
      rw [List.filter_append]
      rfl
  | refuses t r rest record here =>
      refine .answers t r .rejected r.socket [.log record] rfl rfl rfl rfl
        ⟨rfl, List.nil_sublist _, rfl⟩ ?_
      exact .unexecuted .rejected r rfl (List.mem_cons_self ..) List.not_mem_nil
        (ha.isOpen_of_serve here)
  | serves t r rest after e later here calls =>
      obtain ⟨⟨streams, rfl⟩, hrequest, -, verdict, left, records, rfl, hopen⟩ := call_eq calls
      obtain ⟨hmade, hcalled, hback⟩ := @seen_call s.nextId verdict left records
      have hsocket : e.socket =
          { r.socket with isOpen := verdict.isKeep && left, pending := e.pending } := by
        rw [Errand.socket, hrequest, hopen]
        rfl
      rw [hsocket]
      refine .answers t r .inline _ _ rfl rfl rfl rfl ⟨hmade, ?_, hback⟩ ?_
      · exact hcalled ▸ List.Sublist.refl _
      · exact .executed .inline r verdict left e.pending rfl (List.mem_cons_self ..)
          (List.mem_cons_of_mem _ (List.mem_append_left _ (List.mem_cons_self ..)))
  | begins place e id after e' later here waits calls =>
      obtain ⟨⟨streams, rfl⟩, hrequest, hexecution, verdict, left, records, rfl, hopen⟩ :=
        call_eq calls
      have hid : e.id = id := congrArg (·.item.id) waits
      have howns : e'.owns = true := owns_of_runs hexecution
      obtain ⟨before, after, howners, -, hset, -⟩ := exists_owners here (owns_of_waits waits)
      refine .begins e e' before after howners ?_ rfl rfl ⟨?_, hrequest⟩ (congrArg (·.phase) waits)
        (congrArg (·.phase) hexecution) verdict left records ?_ hopen
      · rw [owners, hset, List.filter_cons_of_pos howns]
        rfl
      · exact (congrArg (·.item.id) hexecution).trans hid.symm
      · rw [hid]
        rfl
  | ends place e id r here runs kept =>
      have hid : e.id = id := congrArg (·.item.id) runs
      obtain ⟨before, after, howners, hrank, hset, -⟩ := exists_owners here (owns_of_runs runs)
      refine .returns e before after howners ?_ ?_ rfl s.hub.nextThread .onWorker ?_ ?_
      · exact hset _
      · rw [hrank]
        rfl
      · rw [hid]
      · rw [runs]
        rfl
  | lingers place e e' id here gone item gone' =>
      exact .quiet (owners_lingers here gone gone') rfl rfl rfl
  | destroys place e id r here waits kept =>
      have hid : e.id = id := congrArg (·.item.id) waits
      obtain ⟨before, after, howners, hrank, -, herase⟩ := exists_owners here (owns_of_waits waits)
      refine .returns e before after howners herase ?_ rfl s.hub.nextThread .discarded ?_ ?_
      · rw [hrank]
        rfl
      · rw [hid]
      · rw [waits]
        rfl
  | streams connection stream => exact .quiet rfl rfl rfl rfl

theorem Goes.stands (h : s.Goes handler move s' notes) (hstands : ∀ e ∈ s.errands, e.Stands) :
    ∀ e ∈ s'.errands, e.Stands := by
  have hset : ∀ {place : Nat} {e' : Errand}, e'.Stands → ∀ x ∈ s.errands.set place e', x.Stands := by
    intro place e' he' x hx
    rcases List.mem_or_eq_of_mem_set hx with hold | rfl
    · exact hstands x hold
    · exact he'
  intro x hx
  cases h with
  | queues t r rest here =>
      rcases List.mem_append.mp hx with hold | hnew
      · exact hstands x hold
      · rw [List.mem_singleton.mp hnew]
        exact Errand.stands_new
  | serves t r rest after e later here calls =>
      obtain ⟨⟨streams, rfl⟩, -⟩ := call_eq calls
      exact hstands x hx
  | begins place e id after e' later here waits calls =>
      obtain ⟨-, -, hexecution, -⟩ := call_eq calls
      exact hset (.runs id hexecution) x hx
  | ends place e id r here runs kept =>
      have hover : Errand.Stands
          { e with execution := { item := carrier id, phase := .ran .completed } } := .ended id rfl rfl
      exact hset hover x hx
  | lingers place e e' id here gone item gone' => exact hset (.ended id item gone') x hx
  | destroys place e id r here waits kept => exact hstands x (List.mem_of_mem_eraseIdx hx)
  | hub | refuses | streams => exact hstands x hx

/-- **EVERY MOVE KEEPS THE ACCOUNT**. -/
theorem Accounted.goes (ha : s.Accounted seen) (h : s.Goes handler move s' notes)
    (hrule : s.spares move = true) : s'.Accounted (seen ++ notes) := by
  obtain ⟨hsound, hlending⟩ := ha.hub_sound h hrule
  have hturn := ha.turn h
  obtain ⟨hfresh, honce⟩ := ha.fresh_next hturn
  obtain ⟨hcalled, hmade⟩ := ha.called_next hturn
  exact
    { sound := hsound
      lending := hlending
      kept := ha.kept_next hturn
      stands := h.stands ha.stands
      heard := ha.heard_next hturn
      fresh := hfresh
      once := honce
      back := ha.back_next hturn
      calledOnce := hcalled
      calledMade := hmade
      returned := fun _ _ _ _ hback => ha.returned_next hturn hback }

/-! ## Runs -/

/-- The service after a sequence of moves that keep to `rule`, and what has been seen of it. -/
def run (handler : RequestHandler σ) (rule : Service σ → ServiceMove σ → Bool) (s : Service σ) :
    List (ServiceMove σ) → Option (Service σ × List ServiceNote)
  | [] => some (s, [])
  | move :: rest =>
    if rule s move then
      (s.move handler move).bind fun (s', notes) =>
        (s'.run handler rule rest).map fun (s'', later) => (s'', notes ++ later)
    else none

/-- A property that every move within the rule keeps holds at the end of a run. -/
theorem run_keeps {rule : Service σ → ServiceMove σ → Bool} {moves : List (ServiceMove σ)}
    {later : List ServiceNote} {P : Service σ → List ServiceNote → Prop}
    (hmove : ∀ s seen move s' notes, move ∈ moves → P s seen → rule s move = true →
      s.move handler move = some (s', notes) → P s' (seen ++ notes))
    (h : P s seen) (hrun : s.run handler rule moves = some (s', later)) : P s' (seen ++ later) := by
  induction moves generalizing s seen later with
  | nil =>
      cases hrun
      rwa [List.append_nil]
  | cons move rest ih =>
      simp only [run] at hrun
      split at hrun
      · rename_i hrule
        obtain ⟨⟨s₁, notes⟩, hfirst, hrun⟩ := Option.bind_eq_some_iff.mp hrun
        obtain ⟨⟨s₂, rest'⟩, hrest, heq⟩ := Option.map_eq_some_iff.mp hrun
        cases heq
        rw [← List.append_assoc]
        refine ih ?_ (hmove s seen move s₁ notes (List.mem_cons_self ..) h hrule hfirst) hrest
        intro s seen move s' notes hmem
        exact hmove s seen move s' notes (List.mem_cons_of_mem _ hmem)
      · exact nomatch hrun

theorem accounted_of_run {listener : Descriptor} {streams : Nat → σ} {moves : List (ServiceMove σ)}
    (hrun : (Service.new listener streams).run handler spares moves = some (s, seen)) :
    s.Accounted seen := by
  refine run_keeps (P := Accounted) ?_ (accounted_new listener streams) hrun
  intro s seen move s' notes _ ha hrule h
  exact ha.goes (goes_of_move ha.stands h) hrule

/-! ## Progress -/

/-- An item whose closure is still there can go on. -/
theorem Accounted.isSome_work (ha : s.Accounted seen) (here : s.errands[place]? = some e)
    (owns : e.owns = true) : (s.move handler (.work place)).isSome = true := by
  cases ha.stands e (List.mem_of_getElem? here) with
  | waits id execution =>
      simp only [Service.move, work, here, Option.bind_some, execution, step_waiting]
      rfl
  | runs id execution =>
      have hkept := ha.kept_rank here owns
      simp only [Service.move, work, here, Option.bind_some, execution, step_running,
        Events.State.complete, hkept]
      rfl
  | ended id item gone => cases gone.symm.trans owns

/-- It calls the handler, and then its socket goes back. -/
theorem Accounted.work (ha : s.Accounted seen) (here : s.errands[place]? = some e)
    (owns : e.owns = true) : ∃ s' notes, s.move handler (.work place) = some (s', notes) ∧
      (e.id ∈ called notes ∨ e.id ∈ handedBack notes) := by
  have hsome : (s.move handler (.work place)).isSome = true := ha.isSome_work here owns
  obtain ⟨⟨s', notes⟩, hmove⟩ := Option.isSome_iff_exists.mp hsome
  refine ⟨s', notes, hmove, ?_⟩
  cases goes_of_move ha.stands hmove with
  | begins _ e₁ id after e' later here₁ waits calls =>
      cases Option.some.inj (here.symm.trans here₁)
      obtain ⟨-, -, -, verdict, left, records, rfl, -⟩ := call_eq calls
      have hid : e.id = id := congrArg (·.item.id) waits
      rw [hid]
      exact Or.inl (mem_called (List.mem_cons_self ..))
  | ends _ e₁ id r here₁ runs kept =>
      cases Option.some.inj (here.symm.trans here₁)
      have hid : e.id = id := congrArg (·.item.id) runs
      rw [hid]
      exact Or.inr (mem_handedBack (List.mem_cons_self ..))
  | lingers _ e₁ e' id here₁ gone item gone' =>
      cases Option.some.inj (here.symm.trans here₁)
      exact nomatch gone.symm.trans owns

/-- A request that is to be handed out gets an item, whatever the pool does with it. -/
theorem dispatch_made {t : ThreadId} {r : Request} {rest : List Stage} {reception : Reception}
    (hstands : ∀ e ∈ s.errands, e.Stands) (here : s.hub.agenda? t = some (.serve r :: rest)) :
    ∃ s' notes, s.move handler (.dispatch t reception) = some (s', notes) ∧
      .made s.nextId r ∈ notes := by
  have hsome : (s.move handler (.dispatch t reception)).isSome = true := by
    cases reception with
    | queued =>
        simp only [Service.move, dispatch, here, step_keeps here]
        rfl
    | refused =>
        simp only [Service.move, dispatch, here]
        exact isSome_atOnce here rfl
    | alone =>
        simp only [Service.move, dispatch, here, Option.isSome_map]
        exact isSome_atOnce here rfl
  obtain ⟨⟨s', notes⟩, hmove⟩ := Option.isSome_iff_exists.mp hsome
  refine ⟨s', notes, hmove, ?_⟩
  cases goes_of_move hstands hmove with
  | queues _ r₁ _ here₁ | refuses _ r₁ _ _ here₁ | serves _ r₁ _ _ _ _ here₁ =>
      cases Option.some.inj (here.symm.trans here₁)
      exact List.mem_cons_self ..

/-! ## Sockets that go back -/

theorem agenda?_launch {hub : Events.State} {a : List Stage} (h : (hub.launch a).Numbered) :
    (hub.launch a).agenda? hub.nextThread = some a := by
  have hnew : (⟨hub.nextThread, a⟩ : Events.Thread) ∈ (hub.launch a).threads :=
    List.mem_append_right _ (List.mem_cons_self ..)
  exact Events.State.agenda?_of_mem h hnew

/-- Whatever is seen to go back is what a thread brings back. -/
theorem Accounted.comesBack (ha : s.Accounted seen) (h : s.Goes handler move s' notes)
    (hnumbered : s'.hub.Numbered) {fate : Fate} {t : ThreadId} {socket : Socket}
    (hback : .handedBack id fate t socket ∈ notes) :
    ∃ rest, s'.hub.agenda? t = some (.comeBack socket :: rest) := by
  cases h with
  | refuses u r rest record here =>
      have heq : ServiceNote.handedBack id fate t socket = .handedBack s.nextId .rejected u r.socket := by
        rcases List.mem_cons.mp hback with hmade | hback
        · exact nomatch hmade
        rcases List.mem_cons.mp hback with hlog | hback
        · exact nomatch hlog
        exact List.mem_singleton.mp hback
      cases heq
      exact ⟨rest, Events.State.agenda?_setAgenda hnumbered here⟩
  | serves u r rest after e later here calls =>
      obtain ⟨-, -, -, verdict, left, records, rfl, -⟩ := call_eq calls
      have heq : ServiceNote.handedBack id fate t socket = .handedBack s.nextId .inline u e.socket := by
        rcases List.mem_cons.mp hback with hmade | hback
        · exact nomatch hmade
        rcases List.mem_append.mp hback with hcall | hback
        · have hmem := mem_handedBack hcall
          rw [(seen_call records).2.2] at hmem
          exact nomatch hmem
        exact List.mem_singleton.mp hback
      cases heq
      exact ⟨rest, Events.State.agenda?_setAgenda hnumbered here⟩
  | ends place e id r here runs kept =>
      cases List.mem_singleton.mp hback
      have hsame := (ha.kept_rank here (owns_of_runs runs)).symm.trans kept
      cases Option.some.inj hsame
      exact ⟨[], agenda?_launch hnumbered⟩
  | destroys place e id r here waits kept =>
      cases List.mem_singleton.mp hback
      have hsame := (ha.kept_rank here (owns_of_waits waits)).symm.trans kept
      cases Option.some.inj hsame
      exact ⟨[], agenda?_launch hnumbered⟩
  | queues t r rest here => exact nomatch List.mem_singleton.mp hback
  | begins place e id after e' later here waits calls =>
      obtain ⟨-, -, -, verdict, left, records, rfl, -⟩ := call_eq calls
      have hmem := mem_handedBack hback
      rw [(seen_call records).2.2] at hmem
      exact nomatch hmem
  | hub | lingers | streams => exact nomatch hback

/-- No socket is handed back by what the event server does by itself. -/
theorem Goes.spares_of_handedBack (h : s.Goes handler move s' notes) {fate : Fate} {t : ThreadId}
    {socket : Socket} (hback : .handedBack id fate t socket ∈ notes) :
    s.spares move = true ∧ s.promptly move = true := by
  cases h with
  | hub => exact nomatch hback
  | _ => exact ⟨rfl, rfl⟩

/-- What a service does with its requests. -/
structure ServesOnce (handler : RequestHandler σ) (s : Service σ) (seen : List ServiceNote) : Prop where
  /-- Each request has an item of its own. -/
  distinct : (made seen).Nodup
  /-- Each item calls the handler at most once. -/
  calls : (called seen).Nodup ∧ called seen ⊆ made seen
  /-- Each item has its closure still, or its socket has gone back, once. -/
  back : (handedBack seen ++ s.owners.map Errand.id).Perm (made seen)
  /-- What goes back is the socket of the request, as the handler has left it or untouched. -/
  returned : ∀ id fate t socket, .handedBack id fate t socket ∈ seen → Returned seen id fate socket
  /-- An item whose closure is still there can go on; it calls the handler or lets the socket go. -/
  goesOn : ∀ place e, s.errands[place]? = some e → e.owns = true →
    ∃ s' notes, s.move handler (.work place) = some (s', notes) ∧
      (e.id ∈ called notes ∨ e.id ∈ handedBack notes)
  /-- A request that is to be handed out gets an item. -/
  handsOut : ∀ t r rest reception, s.hub.agenda? t = some (.serve r :: rest) →
    ∃ s' notes, s.move handler (.dispatch t reception) = some (s', notes) ∧ .made s.nextId r ∈ notes
  /-- A socket that goes back is parked and watched again if it is open, and closed if not. -/
  comesHome : ∀ move s' notes id fate t socket, s.move handler move = some (s', notes) →
    .handedBack id fate t socket ∈ notes →
      s'.hub.ComesHome (Events.State.undisturbed t socket.descriptor) t socket

/-- **EVERY SOCKET IS HANDED BACK ONCE AND COMES HOME, AND THE HANDLER IS CALLED AT MOST ONCE**, for every
    request, whatever the handler does with it and whatever becomes of its item. -/
theorem serves_once {listener : Descriptor} {streams : Nat → σ} {moves : List (ServiceMove σ)}
    (hrun : (Service.new listener streams).run handler spares moves = some (s, seen)) :
    s.ServesOnce handler seen := by
  have ha := accounted_of_run hrun
  refine ⟨ha.once, ⟨ha.calledOnce, ha.calledMade⟩, ha.back, ha.returned, ?_, ?_, ?_⟩
  · intro place e here owns
    exact ha.work here owns
  · intro t r rest reception here
    exact dispatch_made ha.stands here
  · intro move s' notes id fate t socket hmove hback
    have hgoes := goes_of_move ha.stands hmove
    obtain ⟨hsound, hlending⟩ := ha.hub_sound hgoes (hgoes.spares_of_handedBack hback).1
    obtain ⟨rest, hhere⟩ := ha.comesBack hgoes hsound.numbered hback
    exact hlending.comesHome hsound hhere

/-! ## Prompt events -/

/-- A move with prompt events keeps them prompt, and all numbers regular. -/
theorem Accounted.hub_prompt (ha : s.Accounted seen) (hr : s.hub.Regular) (hp : s.hub.Prompt)
    (h : s.Goes handler move s' notes) (hrule : s.promptly move = true) :
    s'.hub.Regular ∧ s'.hub.Prompt := by
  have hmoves : s'.hub = s.hub ∨ ∃ m, s.hub.promptly m = true ∧ s.hub.Goes m s'.hub := by
    refine h.hub_goes_of_rule ?_ (fun t r rest here => ?_) (fun _ _ _ => rfl)
    · rintro m rfl
      exact hrule
    · simp only [Events.State.promptly, here]
      rfl
  rcases hmoves with heq | ⟨m, hprompt, hgoes⟩
  · rw [heq]
    exact ⟨hr, hp⟩
  · exact hp.goes hr ha.sound hprompt hgoes

/-- **WHERE EVENTS ARE PROMPT EVERY SOCKET THAT IS HANDED BACK COMES HOME**, whatever the other threads
    work on meanwhile: it is parked and watched again if it is open, and closed if not. -/
theorem comes_home_promptly {listener : Descriptor} {streams : Nat → σ}
    {moves : List (ServiceMove σ)} {fate : Fate} {t : ThreadId} {socket : Socket}
    (hrun : (Service.new listener streams).run handler promptly moves = some (s, seen))
    (hmove : s.move handler move = some (s', notes)) (hback : .handedBack id fate t socket ∈ notes) :
    s'.hub.ComesHome (Events.State.promptlyFor t) t socket := by
  have haccount : s.Accounted seen ∧ s.hub.Regular ∧ s.hub.Prompt := by
    refine run_keeps (P := fun s seen => s.Accounted seen ∧ s.hub.Regular ∧ s.hub.Prompt) ?_
      ⟨accounted_new listener streams, Events.State.regular_new listener,
        Events.State.prompt_new listener⟩ hrun
    intro s seen move s' notes _ ⟨ha, hr, hp⟩ hrule hmove
    have hgoes := goes_of_move ha.stands hmove
    exact ⟨ha.goes hgoes (spares_of_promptly hrule), ha.hub_prompt hr hp hgoes hrule⟩
  obtain ⟨ha, hr, hp⟩ := haccount
  have hgoes := goes_of_move ha.stands hmove
  obtain ⟨hspares, hprompt⟩ := hgoes.spares_of_handedBack hback
  obtain ⟨hsound, hlending⟩ := ha.hub_sound hgoes hspares
  obtain ⟨hr', hp'⟩ := ha.hub_prompt hr hp hgoes hprompt
  obtain ⟨rest, hhere⟩ := ha.comesBack hgoes hsound.numbered hback
  exact hlending.comesHome_promptly hsound hr' hp' hhere

/-! ## A run -/

/-- Three clients connect and get the numbers 4, 5 and 6. -/
def clientsJoin : List Events.Move :=
  let join (d : Descriptor) : List Events.Move :=
    [.step 0 { arrival := .connection d { address := .loopback, port := 4000 } none none },
      .step 0 {}, .step 0 {}]
  [.receive [⟨3, .readable⟩], .step 0 {}] ++ join 4 ++ join 5 ++ join 6 ++ [.step 0 {}]

/-- Keeps the first connection, panics on the third. -/
def fickle (socket : Socket) (stream : Arrivals) : Verdict × Socket × Arrivals × List Log.Record :=
  (if socket.connection = 2 then .panic "no" else .keep, socket, stream, [])

/-- All three are ready.  The first request is executed by a worker, the second refused by the pool, the
    third executed at once. -/
def threeFates : List (ServiceMove Arrivals) :=
  let three : List (ServiceMove Arrivals) := List.replicate 3 (.hub (.step 0 {}))
  clientsJoin.map .hub ++
    .hub (.receive [⟨4, .readable⟩, ⟨5, .readable⟩, ⟨6, .readable⟩]) ::
    (three ++ .dispatch 0 .queued :: three ++ .dispatch 0 .refused :: three ++ three ++
      .dispatch 0 .alone :: three ++ [.work 0, .work 0])

/-- The service after these moves, with what has been seen of it. -/
def servedThree : Service Arrivals × List ServiceNote :=
  ((Service.new 3 fun _ => { pieces := [] }).run fickle spares threeFates).getD
    (Service.new 3 fun _ => { pieces := [] }, [])

theorem serves_once_threeFates :
    (Service.new 3 fun _ => { pieces := [] }).run fickle spares threeFates =
      some (servedThree.1, servedThree.2) ∧
    made servedThree.2 = [1, 2, 3] ∧ called servedThree.2 = [3, 1] ∧
    handedBack servedThree.2 = [2, 3, 1] ∧
    servedThree.1.ServesOnce fickle servedThree.2 := by
  have hsome : ((Service.new 3 fun _ => { pieces := [] }).run fickle spares threeFates).isSome =
      true := by decide +kernel
  have hrun : (Service.new 3 fun _ => { pieces := [] }).run fickle spares threeFates =
      some (servedThree.1, servedThree.2) := by
    rw [Prod.mk.eta]
    exact (Option.getD_of_ne_none (Option.isSome_iff_ne_none.mp hsome) _).symm
  exact ⟨hrun, by decide +kernel, by decide +kernel, by decide +kernel, serves_once hrun⟩

end Service

end PooledServer.Server
