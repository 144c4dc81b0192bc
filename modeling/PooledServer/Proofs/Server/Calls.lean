import PooledServer.Proofs.Events.Bearers
import PooledServer.Proofs.Server.Returns

/-!
# Connections and calls

    Seen from a connection a move of a service is one of three things (`Service.Touch`): it leaves the
    connection alone, the system changes its stream, or the handler is called for it, once, with the
    socket that the service has and the stream as it stands. -/

namespace PooledServer.Server

open Net
open Events (Request Stage Handle)
open Work (TaskId)

/-- The socket as it was when its connection was new. -/
def anew (socket : Socket) : Socket := { socket with isOpen := true, pending := .empty }

/-! ## How often the handler is called -/

section Seen

variable {seen notes : List ServiceNote} {id : TaskId} {r : Request} {n : Nat}

/-- The connection that an item was made for. -/
def connectionOf? (seen : List ServiceNote) (id : TaskId) : Option Nat :=
  seen.findSome? fun
    | .made made r => if made = id then some r.socket.connection else none
    | _ => none

/-- How often the handler was called for a connection. -/
def callsFor (seen : List ServiceNote) (n : Nat) : Nat :=
  (called seen).countP fun id => connectionOf? seen id == some n

theorem exists_made (h : id ∈ made seen) : ∃ r, .made id r ∈ seen := by
  obtain ⟨note, hnote, hid⟩ := List.mem_filterMap.mp h
  cases note with
  | made made r =>
      cases hid
      exact ⟨r, hnote⟩
  | _ => exact nomatch hid

theorem connectionOf?_of_mem (honce : (made seen).Nodup) (h : .made id r ∈ seen) :
    connectionOf? seen id = some r.socket.connection := by
  induction seen with
  | nil => exact nomatch h
  | cons note rest ih =>
      rcases List.mem_cons.mp h with rfl | hmem
      · simp only [connectionOf?, List.findSome?_cons, if_true]
      · cases note with
        | made first r₁ =>
            have hcons : (first :: made rest).Nodup := honce
            have hne : first ≠ id := by
              rintro rfl
              exact (List.nodup_cons.mp hcons).1 (mem_made hmem)
            simp only [connectionOf?, List.findSome?_cons, if_neg hne]
            exact ih (List.nodup_cons.mp hcons).2 hmem
        | called | handedBack | log => exact ih honce hmem

/-- Who has called was made for a connection. -/
theorem exists_made_of_callsFor (hmade : called seen ⊆ made seen) (honce : (made seen).Nodup)
    (h : callsFor seen n ≠ 0) : ∃ id r, .made id r ∈ seen ∧ r.socket.connection = n := by
  obtain ⟨id, hid, hconnection⟩ := List.countP_pos_iff.mp (Nat.pos_of_ne_zero h)
  obtain ⟨r, hr⟩ := exists_made (hmade hid)
  rw [connectionOf?_of_mem honce hr] at hconnection
  exact ⟨id, r, hr, Option.some.inj (eq_of_beq hconnection)⟩

/-- Calls add up, since every item that calls has been made, once. -/
theorem callsFor_append (hmade : called seen ⊆ made seen) (honce : (made (seen ++ notes)).Nodup) :
    callsFor (seen ++ notes) n =
      callsFor seen n + (called notes).countP fun id => connectionOf? (seen ++ notes) id == some n := by
  have hold : ∀ id ∈ called seen, connectionOf? (seen ++ notes) id = connectionOf? seen id := by
    intro id hid
    obtain ⟨r, hr⟩ := exists_made (hmade hid)
    have hfirst : (made seen).Nodup := by
      rw [made_append] at honce
      exact honce.of_append_left
    rw [connectionOf?_of_mem honce (List.mem_append_left _ hr), connectionOf?_of_mem hfirst hr]
  simp only [callsFor, called_append, List.countP_append]
  congr 1
  exact List.countP_congr fun id hid => by rw [hold id hid]

end Seen

namespace Service

variable {σ : Type} {s s' : Service σ} {e : Errand} {seen notes : List ServiceNote}
  {move : ServiceMove σ} {socket : Socket}

/-! ## The sockets of a service -/

/-- The event server has the socket, or an item has it. -/
def Has (s : Service σ) (socket : Socket) : Prop :=
  s.hub.Bears socket ∨ ∃ e ∈ s.owners, e.socket = socket

theorem Accounted.kept_handles (ha : s.Accounted seen) :
    (↑(s.hub.kept.map (·.socket.handle)) : Multiset Handle) =
      ↑(s.owners.map (·.request.socket.handle)) := by
  rw [ha.kept, List.map_map]
  rfl

theorem Accounted.recent (ha : s.Accounted seen) (h : s.Has socket) :
    socket.connection < s.hub.stats.accepted := by
  refine ha.sound.owned.recent socket.handle ?_
  rcases h with hbears | ⟨e, he, rfl⟩
  · rcases Multiset.mem_add.mp hbears.mem_handles with htable | hgather
    · exact Multiset.mem_add.mpr (Or.inl (Multiset.mem_add.mpr (Or.inl htable)))
    · exact Multiset.mem_add.mpr (Or.inr hgather)
  · have hkept : e.request ∈ s.hub.kept := by
      rw [ha.kept]
      exact List.mem_map_of_mem he
    exact Events.State.mem_held_of_request (List.mem_append_left _ hkept)

/-- What other items and the rest of the event server have is of other connections. -/
theorem connection_ne_of_held {hub others : Events.State} (howned : hub.Owned) {x : Handle}
    {items : List Errand}
    (hheld : hub.held = {x} + (↑(items.map (·.request.socket.handle)) +
      (others.table.handles + others.gather Stage.handles)))
    (h : others.Bears socket ∨ ∃ e ∈ items, e.socket = socket) : socket.connection ≠ x.2 := by
  refine howned.ne_of_split (y := socket.handle) hheld ?_
  rcases h with hbears | ⟨e, he, rfl⟩
  · exact Multiset.mem_add.mpr (Or.inr hbears.mem_handles)
  · exact Multiset.mem_add.mpr (Or.inl (Multiset.mem_coe.mpr
      (List.mem_map_of_mem (f := fun e : Errand => e.request.socket.handle) he)))

/-- Nobody else has a socket of an item's connection. -/
theorem Accounted.apart_of_owner (ha : s.Accounted seen) {before after : List Errand}
    (howners : s.owners = before ++ e :: after)
    (h : s.hub.Bears socket ∨ ∃ x ∈ before ++ after, x.socket = socket) :
    socket.connection ≠ e.request.socket.connection := by
  refine connection_ne_of_held ha.sound.owned (x := e.request.socket.handle) ?_ h
  have hperm : (s.owners.map (·.request.socket.handle)).Perm
      (e.request.socket.handle :: (before ++ after).map (·.request.socket.handle)) := by
    rw [howners]
    exact List.perm_middle.map _
  show s.hub.table.handles + ↑(s.hub.kept.map (·.socket.handle)) + s.hub.gather Stage.handles = _
  rw [ha.kept_handles, Multiset.coe_eq_coe.mpr hperm, ← Multiset.cons_coe,
    ← Multiset.singleton_add]
  abel

/-- Nobody else has a socket of the connection of a request that is to be handed out. -/
theorem Accounted.apart_of_serve (ha : s.Accounted seen) {t : ThreadId} {r : Request}
    {rest : List Stage} (here : s.hub.agenda? t = some (.serve r :: rest))
    (h : (s.hub.setAgenda t rest).Bears socket ∨ ∃ x ∈ s.owners, x.socket = socket) :
    socket.connection ≠ r.socket.connection := by
  refine connection_ne_of_held ha.sound.owned (x := r.socket.handle) ?_ h
  rw [ha.sound.held_split here]
  show s.hub.table.handles + ↑(s.hub.kept.map (·.socket.handle)) + {r.socket.handle} + _ =
    {r.socket.handle} + (_ + (s.hub.table.handles + _))
  rw [ha.kept_handles]
  abel

theorem subset_owners {before behind : List Errand} (howners : s.owners = before ++ e :: behind) :
    before ++ behind ⊆ s.owners := by
  rw [howners]
  exact ((List.sublist_cons_self e behind).append_left before).subset

/-- Only a socket that comes back is in a thread that begins to bring it back. -/
theorem bears_comeBack {x : Stage} {other : Socket} (hx : x ∈ [Stage.comeBack other])
    (h : x.Bears socket) : other = socket := by
  rw [List.mem_singleton.mp hx] at h
  rcases h with ⟨r, hr, -⟩ | hcarried
  · exact nomatch hr
  · exact Option.some.inj hcarried

theorem bears_of_comeBack {hub : Events.State} {t : ThreadId} {stage : Stage} {rest : List Stage}
    {other : Socket} (here : hub.agenda? t = some (stage :: rest))
    (h : (hub.setAgenda t (.comeBack other :: rest)).Bears socket) :
    other = socket ∨ (hub.setAgenda t rest).Bears socket := by
  have hstages : (hub.setAgenda t ([.comeBack other] ++ rest)).Bears socket := h
  rcases hstages.of_setAgenda here with ⟨x, hx, hback⟩ | hrest
  · exact Or.inl (bears_comeBack hx hback)
  · exact Or.inr hrest

theorem has_of_serve {t : ThreadId} {r : Request} {rest : List Stage}
    (here : s.hub.agenda? t = some (.serve r :: rest)) : s.Has r.socket :=
  Or.inl (Events.State.Bears.of_stage here (Or.inl ⟨r, rfl, rfl⟩))

theorem Accounted.isOpen_of_waits (ha : s.Accounted seen) (he : e ∈ s.owners)
    (waits : e.execution.phase = .ready) : e.isOpen = true := by
  have hasked : e.request.socket.isOpen = true := by
    refine ha.lending.asked e.request (List.mem_append_left _ ?_)
    rw [ha.kept]
    exact List.mem_map_of_mem he
  have hsame := ((ha.heard e he).waits waits).2
  exact (congrArg (·.isOpen) hsame).trans hasked

/-- A socket that comes back from an item was the item's. -/
theorem Accounted.has_of_launch (ha : s.Accounted seen) {place : Nat} {r : Request}
    (here : s.errands[place]? = some e) (owns : e.owns = true)
    (kept : s.hub.kept[s.rank place]? = some r) {others : List Errand}
    (hothers : others ⊆ s.owners)
    (h : (Events.State.launch { s.hub with kept := s.hub.kept.eraseIdx (s.rank place) }
        [.comeBack { r.socket with isOpen := e.isOpen, pending := e.pending }]).Bears socket ∨
      ∃ x ∈ others, x.socket = socket) : s.Has socket := by
  have howner : e ∈ s.owners := List.mem_filter.mpr ⟨List.mem_of_getElem? here, owns⟩
  cases Option.some.inj ((ha.kept_rank here owns).symm.trans kept)
  rcases h with (hparked | ⟨th, hth, x, hx, hbears⟩) | ⟨x, hx, heq⟩
  · exact Or.inl (Or.inl hparked)
  · rcases List.mem_append.mp hth with hold | hnew
    · exact Or.inl (Or.inr ⟨th, hold, x, hx, hbears⟩)
    · rw [List.mem_singleton.mp hnew] at hx
      exact Or.inr ⟨e, howner, bears_comeBack hx hbears⟩
  · exact Or.inr ⟨x, hothers hx, heq⟩

/-! ## What a move is to the connections -/

variable [ByteStream σ] {handler : RequestHandler σ}

/-- The handler is called for the item `e`, which becomes `e'`: the service has its socket, and nobody has
    another socket of that connection afterwards. -/
structure Calls (handler : RequestHandler σ) (s s' : Service σ) (seen notes : List ServiceNote)
    (e e' : Errand) (after : Service σ) (later : List ServiceNote) : Prop where
  call : s.call handler e = (after, e', later)
  had : s.Has e.socket
  usable : e.isOpen = true
  asked : .made e.id e.request ∈ seen ++ notes
  asks : ∀ id r, .made id r ∈ notes → r.socket = e.socket
  once : called notes = [e.id]
  streams : s'.streams = after.streams
  held : ∀ socket, s'.Has socket →
    socket = e'.socket ∨ s.Has socket ∧ socket.connection ≠ e.request.socket.connection

/-- New requests are for sockets that the service has, and nobody has another one of their connections
    afterwards. -/
def Asks (s s' : Service σ) (notes : List ServiceNote) : Prop :=
  ∀ id r, .made id r ∈ notes → s.Has r.socket ∧
    ∀ socket, s'.Has socket → socket.connection = r.socket.connection → socket = r.socket

/-- A move passes sockets on and at most brings a new one, the system changes a stream, or the handler
    is called. -/
inductive Touch (handler : RequestHandler σ) (s s' : Service σ) (seen : List ServiceNote) :
    ServiceMove σ → List ServiceNote → Prop
  | passes {move : ServiceMove σ} {notes : List ServiceNote}
      (held : ∀ socket, s'.Has socket → s.Has socket ∨
        (∃ d peer, socket = s.hub.newSocket d peer) ∧
          s'.hub.stats.accepted = s.hub.stats.accepted + 1)
      (asks : s.Asks s' notes) (streams : s'.streams = s.streams) (uncalled : called notes = []) :
      s.Touch handler s' seen move notes
  | changes (n : Nat) (stream : σ) (system : s' = s.setStream n stream) :
      s.Touch handler s' seen (.stream n stream) []
  | calls {move : ServiceMove σ} {notes : List ServiceNote} (e e' : Errand) (after : Service σ)
      (later : List ServiceNote) (h : s.Calls handler s' seen notes e e' after later) :
      s.Touch handler s' seen move notes

/-- A handler that is called makes no request. -/
theorem not_made_call {id called : TaskId} {r : Request} {verdict : Verdict} {left : Bool}
    {records : List Log.Record} :
    ServiceNote.made id r ∉ .called called verdict left :: records.map .log := by
  intro hmade
  have hid := mem_made hmade
  rw [(seen_call records).1] at hid
  cases hid

/-- An item that is executed at once calls the handler. -/
theorem Accounted.calls_of_serves (ha : s.Accounted seen) {t : ThreadId} {r : Request}
    {rest : List Stage} {after : Service σ} {later : List ServiceNote}
    (here : s.hub.agenda? t = some (.serve r :: rest))
    (calls : s.call handler (.new s.nextId r) = (after, e, later)) :
    s.Calls handler
      { after with hub := s.hub.setAgenda t (.comeBack e.socket :: rest), nextId := s.nextId + 1 } seen
      (.made s.nextId r :: (later ++ [.handedBack s.nextId .inline t e.socket]))
      (.new s.nextId r) e after later := by
  obtain ⟨⟨streams, rfl⟩, -, -, verdict, left, records, rfl, -⟩ := call_eq calls
  have hopen : (Errand.new s.nextId r).isOpen = true := ha.isOpen_of_serve here
  refine ⟨calls, has_of_serve here, hopen, List.mem_append_right _ (List.mem_cons_self ..), ?_, ?_,
    rfl, ?_⟩
  · intro id r' hmade
    rcases List.mem_cons.mp hmade with heq | hmade
    · cases heq
      rfl
    · rcases List.mem_append.mp hmade with hcall | hback
      · exact absurd hcall not_made_call
      · cases List.mem_singleton.mp hback
  · rw [← List.singleton_append, called_append, called_append, (seen_call records).2.1]
    rfl
  · rintro socket (hbears | hitem)
    · rcases bears_of_comeBack here hbears with heq | hrest
      · exact Or.inl heq.symm
      · exact Or.inr ⟨Or.inl (Events.State.Bears.of_rest here hrest),
          ha.apart_of_serve here (Or.inl hrest)⟩
    · exact Or.inr ⟨Or.inr hitem, ha.apart_of_serve here (Or.inr hitem)⟩

/-- An item that begins to run calls the handler. -/
theorem Accounted.calls_of_begins (ha : s.Accounted seen) {place : Nat} {id : TaskId} {e' : Errand}
    {after : Service σ} {later : List ServiceNote} (here : s.errands[place]? = some e)
    (waits : e.execution = { item := carrier id })
    (calls : s.call handler { e with execution := { item := carrier id, phase := .acting 1 [] } } =
      (after, e', later)) :
    s.Calls handler { after with errands := s.errands.set place e' } seen later
      { e with execution := { item := carrier id, phase := .acting 1 [] } } e' after later := by
  obtain ⟨⟨streams, rfl⟩, -, hexecution, verdict, left, records, rfl, -⟩ := call_eq calls
  obtain ⟨before, behind, howners, -, hset, -⟩ := exists_owners here (owns_of_waits waits)
  have howner : e ∈ s.owners :=
    List.mem_filter.mpr ⟨List.mem_of_getElem? here, owns_of_waits waits⟩
  have hid : e.id = id := congrArg (·.item.id) waits
  have hasked : .made id e.request ∈ seen := hid ▸ (ha.heard e howner).asked
  have hopen : e.isOpen = true := ha.isOpen_of_waits howner (congrArg (·.phase) waits)
  refine ⟨calls, Or.inr ⟨e, howner, rfl⟩, hopen, List.mem_append_left _ hasked,
    fun _ _ hmade => absurd hmade not_made_call, (seen_call records).2.1, rfl, ?_⟩
  -- whatever is not the item's own was had before, by others
  have hother : ∀ {socket : Socket},
      s.hub.Bears socket ∨ (∃ x ∈ before ++ behind, x.socket = socket) →
        s.Has socket ∧ socket.connection ≠ e.request.socket.connection := fun h =>
    ⟨h.imp_right fun ⟨x, hx, heq⟩ => ⟨x, subset_owners howners hx, heq⟩,
      ha.apart_of_owner howners h⟩
  rintro socket (hbears | ⟨x, hx, heq⟩)
  · exact Or.inr (hother (Or.inl hbears))
  · have hmem : x = e' ∨ x ∈ before ++ behind := by
      rw [owners, hset e', List.mem_append, List.mem_append] at hx
      rcases hx with hbefore | hself | hbehind
      · exact Or.inr (List.mem_append_left _ hbefore)
      · exact Or.inl (List.mem_singleton.mp (List.mem_of_mem_filter hself))
      · exact Or.inr (List.mem_append_right _ hbehind)
    rcases hmem with rfl | hmem
    · exact Or.inl heq.symm
    · exact Or.inr (hother (Or.inr ⟨x, hmem, heq⟩))

/-- A request that is handed out is passed on. -/
theorem Touch.passes_of_serve (ha : s.Accounted seen) {t : ThreadId} {r : Request} {rest : List Stage}
    (here : s.hub.agenda? t = some (.serve r :: rest))
    (held : ∀ socket, s'.Has socket → socket = r.socket ∨
      (s.hub.setAgenda t rest).Bears socket ∨ ∃ x ∈ s.owners, x.socket = socket)
    (asks : ∀ id r', .made id r' ∈ notes → r' = r) (streams : s'.streams = s.streams)
    (uncalled : called notes = []) : s.Touch handler s' seen move notes := by
  refine .passes ?_ ?_ streams uncalled
  · intro socket hhas
    refine Or.inl ?_
    rcases held socket hhas with rfl | hbears | hitem
    · exact has_of_serve here
    · exact Or.inl (Events.State.Bears.of_rest here hbears)
    · exact Or.inr hitem
  · intro id r' hmade
    rw [asks id r' hmade]
    refine ⟨has_of_serve here, fun socket hhas hconnection => ?_⟩
    rcases held socket hhas with heq | hother
    · exact heq
    · exact absurd hconnection (ha.apart_of_serve here hother)

/-- **EVERY MOVE TOUCHES A CONNECTION IN ONE OF THESE WAYS**. -/
theorem Accounted.touch (ha : s.Accounted seen) (h : s.Goes handler move s' notes) :
    s.Touch handler s' seen move notes := by
  cases h with
  | hub m hub own goes =>
      have hserve : ∀ t luck r rest, m = .step t luck →
          s.hub.agenda? t ≠ some (.serve r :: rest) := by
        rintro t luck r rest rfl here
        simp only [isOwn, here] at own
        cases own
      have hcomplete : ∀ place isOpen pending, m ≠ .complete place isOpen pending := by
        rintro place isOpen pending rfl
        cases own
      refine .passes ?_ (fun _ _ hmade => absurd hmade List.not_mem_nil) rfl rfl
      rintro socket (hbears | hitem)
      · exact (goes.bears hserve hcomplete hbears).imp_left Or.inl
      · exact Or.inl (Or.inr hitem)
  | queues t r rest here =>
      -- the socket of the new item is had by nobody else
      refine .passes_of_serve ha here ?_ (by simp) rfl rfl
      rintro socket (hbears | ⟨x, hx, rfl⟩)
      · exact Or.inr (Or.inl hbears)
      · rw [owners, List.filter_append] at hx
        rcases List.mem_append.mp hx with hold | hnew
        · exact Or.inr (Or.inr ⟨x, hold, rfl⟩)
        · rw [List.mem_singleton.mp (List.mem_of_mem_filter hnew)]
          exact Or.inl rfl
  | refuses t r rest record here =>
      refine .passes_of_serve ha here ?_ (by simp) rfl rfl
      rintro socket (hbears | hitem)
      · exact (bears_of_comeBack here hbears).imp Eq.symm Or.inl
      · exact Or.inr (Or.inr hitem)
  | serves t r rest after e later here calls =>
      exact .calls _ e _ _ (ha.calls_of_serves here calls)
  | begins place e id after e' later here waits calls =>
      exact .calls _ e' _ _ (ha.calls_of_begins here waits calls)
  | ends place e id r here runs kept =>
      obtain ⟨before, behind, howners, -, hset, -⟩ := exists_owners here (owns_of_runs runs)
      refine .passes ?_ (by simp [Asks]) rfl rfl
      intro socket hhas
      refine Or.inl (ha.has_of_launch here (owns_of_runs runs) kept (subset_owners howners) ?_)
      have hgone := hset { e with execution := { item := carrier id, phase := .ran .completed } }
      exact hgone ▸ hhas
  | lingers place e e' id here gone item gone' =>
      refine .passes ?_ (fun _ _ hmade => absurd hmade List.not_mem_nil) rfl rfl
      rintro socket (hbears | ⟨x, hx, heq⟩)
      · exact Or.inl (Or.inl hbears)
      · rw [owners, owners_lingers here gone gone'] at hx
        exact Or.inl (Or.inr ⟨x, hx, heq⟩)
  | destroys place e id r here waits kept =>
      obtain ⟨before, behind, howners, -, -, herase⟩ := exists_owners here (owns_of_waits waits)
      refine .passes ?_ (by simp [Asks]) rfl rfl
      intro socket hhas
      refine Or.inl (ha.has_of_launch here (owns_of_waits waits) kept (subset_owners howners) ?_)
      exact herase ▸ hhas
  | streams connection stream => exact .changes connection stream rfl

end Service

end PooledServer.Server
