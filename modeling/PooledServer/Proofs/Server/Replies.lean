import PooledServer.Proofs.Server.Calls
import PooledServer.Server.Echo

/-!
# What is pending, and what is replied

    With an event server a handler is called once for each readiness event, and bytes that it leaves
    pending are not reported again.  A handler that leaves none on a connection that it keeps never has
    a socket parked with bytes pending; one that answers one line for each call has
    (`Service.replies_agree`, `Service.stranded_line`).

    Whatever the handler, a connection gets the replies of the accept loop: its socket and its stream are
    those that the loop has after as many calls (`Service.Follows`). -/

namespace PooledServer.Server

open Net
open Events (Request)

variable {σ : Type} [ByteStream σ] {handler : RequestHandler σ}

/-- The handler leaves nothing pending on a connection that it keeps and leaves open. -/
def Drains (handler : RequestHandler σ) : Prop :=
  ∀ socket stream left stream' records, handler socket stream = (.keep, left, stream', records) →
    left.isOpen = true → left.hasPending = false

/-- The handler gives back the socket that it was given. -/
def Faithful (handler : RequestHandler σ) : Prop :=
  ∀ socket stream, ∃ isOpen pending, (handler socket stream).2.1 = { socket with isOpen, pending }

/-! ## The accept loop -/

section Loop

variable {first socket left : Socket} {start stream stream' : σ} {calls : Nat}
  {records : List Log.Record}

/-- The accept loop is still at work on a connection after so many calls. -/
def LoopAt (handler : RequestHandler σ) (first : Socket) (start : σ) (calls : Nat) (socket : Socket)
    (stream : σ) : Prop :=
  ∃ records, serveConnection handler first start calls = (.unfinished, socket, stream, records)

/-- The loop goes on after a call that keeps the connection. -/
theorem serveConnection_keep (hopen : socket.isOpen = true)
    (hcall : handler socket stream = (.keep, left, stream', records)) (calls : Nat) :
    serveConnection handler socket stream (calls + 1) =
      ((serveConnection handler left stream' calls).1, (serveConnection handler left stream' calls).2.1,
        (serveConnection handler left stream' calls).2.2.1,
        records ++ (serveConnection handler left stream' calls).2.2.2) := by
  rw [serveConnection, if_pos hopen, hcall]

/-- As long as the loop goes on, its first call has kept the connection. -/
theorem LoopAt.exists_keep (h : LoopAt handler first start (calls + 1) socket stream) :
    first.isOpen = true ∧ ∃ left stream' said, handler first start = (.keep, left, stream', said) ∧
      LoopAt handler left stream' calls socket stream := by
  obtain ⟨records, h⟩ := h
  rw [serveConnection] at h
  split at h
  · rename_i hopen
    split at h
    · rename_i hcall
      obtain ⟨hended, hrest⟩ := Prod.mk.inj h
      obtain ⟨hsocket, hrest⟩ := Prod.mk.inj hrest
      obtain ⟨hstream, -⟩ := Prod.mk.inj hrest
      exact ⟨hopen, _, _, _, hcall, _, Prod.ext hended (Prod.ext hsocket (Prod.ext hstream rfl))⟩
    · exact nomatch congrArg Prod.fst h
    · exact nomatch congrArg Prod.fst h
  · exact nomatch congrArg Prod.fst h

/-- One more call is a call from where the loop is. -/
theorem LoopAt.succ (h : LoopAt handler first start calls socket stream) :
    ∃ said, serveConnection handler first start (calls + 1) =
      ((serveConnection handler socket stream 1).1, (serveConnection handler socket stream 1).2.1,
        (serveConnection handler socket stream 1).2.2.1, said) := by
  induction calls generalizing first start with
  | zero =>
      obtain ⟨records, h⟩ := h
      cases h
      exact ⟨_, rfl⟩
  | succ calls ih =>
      obtain ⟨hopen, left, stream', records, hcall, hlater⟩ := h.exists_keep
      obtain ⟨said, hnext⟩ := ih hlater
      exact ⟨records ++ said, by rw [serveConnection_keep hopen hcall, hnext]⟩

theorem LoopAt.keep (h : LoopAt handler first start calls socket stream) (hopen : socket.isOpen = true)
    (hcall : handler socket stream = (.keep, left, stream', records)) :
    LoopAt handler first start (calls + 1) left stream' := by
  obtain ⟨said, hnext⟩ := h.succ
  rw [serveConnection_keep hopen hcall] at hnext
  exact ⟨said, hnext⟩

/-- One call of the loop leaves the stream as a request leaves it.  After a panic the loop shuts down also
    what the handler has closed. -/
theorem stream_once (r : Request) (hopen : r.socket.isOpen = true) (stream : σ) :
    (serveConnection handler r.socket stream 1).2.2.1 = (serveRequest handler r stream).2.1 ∨
      (serveConnection handler r.socket stream 1).2.2.1 =
        ByteStream.shutDown (serveRequest handler r stream).2.1 := by
  rw [serveConnection, if_pos hopen, serveRequest]
  split
  · exact Or.inl rfl
  · exact Or.inl rfl
  · simp only [Socket.close]
    split
    · exact Or.inl rfl
    · exact Or.inr rfl

/-- If a socket goes back open the handler has kept the connection. -/
theorem call_of_isOpen (r : Request) (stream : σ) (h : (serveRequest handler r stream).1.isOpen = true) :
    handler r.socket stream = (.keep, (serveRequest handler r stream).1,
      (serveRequest handler r stream).2.1, (serveRequest handler r stream).2.2) := by
  have hopen := isOpen_serveRequest handler r stream
  rw [h] at hopen
  rw [serveRequest]
  split
  · assumption
  all_goals
    rename_i hcall
    rw [hcall] at hopen
    cases hopen

end Loop

/-! ## Echo -/

/-- Echo goes on as long as bytes are pending. -/
theorem Echo.hasPending_of_keep {socket left : Socket} {stream stream' : σ}
    {records : List Log.Record}
    (hcall : Echo.handle socket stream = (.keep, left, stream', records)) :
    left.hasPending = false := by
  fun_induction Echo.handle socket stream with
  | case5 socket stream line read unread hread hquit rest hwrite hmore ih => exact ih hcall
  | case6 socket stream line read unread hread hquit rest hwrite hmore =>
      cases hcall
      exact Bool.eq_false_iff.mpr hmore
  | _ => cases hcall

theorem Echo.drains : Drains (Echo.handle (σ := σ)) :=
  fun _ _ _ _ _ hcall _ => Echo.hasPending_of_keep hcall

namespace Service

variable {s s' after : Service σ} {e e' : Errand} {seen notes later : List ServiceNote}
  {move : ServiceMove σ} {socket : Socket} {n : Nat} {start : σ}

/-- What a call makes of the item and of the streams. -/
theorem call_result (h : s.call handler e = (after, e', later)) :
    e'.socket = { e.socket with
      isOpen := (serveRequest handler { e.request with socket := e.socket }
        (s.streams e.request.socket.connection)).1.isOpen
      pending := (serveRequest handler { e.request with socket := e.socket }
        (s.streams e.request.socket.connection)).1.pending } ∧
    after.streams e.request.socket.connection =
      (serveRequest handler { e.request with socket := e.socket }
        (s.streams e.request.socket.connection)).2.1 ∧
    ∀ n, n ≠ e.request.socket.connection → after.streams n = s.streams n := by
  obtain ⟨rfl, hrest⟩ := Prod.mk.inj h
  obtain ⟨rfl, -⟩ := Prod.mk.inj hrest
  exact ⟨rfl, if_pos rfl, fun n hn => if_neg hn⟩

/-- A call that leaves the socket open has kept the connection. -/
theorem call_keep (h : s.call handler e = (after, e', later)) (hopen : e'.socket.isOpen = true) :
    ∃ left records,
      handler e.socket (s.streams e.request.socket.connection) =
        (.keep, left, after.streams e.request.socket.connection, records) ∧
      e'.socket = { e.socket with isOpen := left.isOpen, pending := left.pending } := by
  obtain ⟨hsocket, hstream, -⟩ := call_result h
  rw [hsocket] at hopen
  have hcall := call_of_isOpen { e.request with socket := e.socket } _ hopen
  rw [← hstream] at hcall
  exact ⟨_, _, hcall, hsocket⟩

/-! ## Nothing pending -/

/-- No socket that the service has, and that is open, has bytes pending. -/
def Drained (s : Service σ) : Prop :=
  ∀ socket, s.Has socket → socket.isOpen = true → socket.hasPending = false

theorem Drained.touch (hd : s.Drained) (hdrains : Drains handler)
    (h : s.Touch handler s' seen move notes) : s'.Drained := by
  intro socket hhas hopen
  cases h with
  | passes held asks streams uncalled =>
      rcases held socket hhas with hold | ⟨⟨d, peer, rfl⟩, -⟩
      · exact hd socket hold hopen
      · rfl
  | changes n stream system =>
      subst system
      exact hd socket hhas hopen
  | calls e e' after later h =>
      rcases h.held socket hhas with rfl | ⟨hold, -⟩
      · obtain ⟨left, records, hcall, hsocket⟩ := call_keep h.call hopen
        rw [hsocket] at hopen ⊢
        exact hdrains _ _ left _ records hcall hopen
      · exact hd socket hold hopen

/-! ## The replies of the accept loop -/

/-- The stream of a connection is the one that the loop has after as many calls, with the socket as it was
    when it was new.  The loop may have shut it down once more. -/
def Agrees (handler : RequestHandler σ) (first : Socket) (start : σ) (calls : Nat) (stream : σ) : Prop :=
  (serveConnection handler first start calls).2.2.1 = stream ∨
    (serveConnection handler first start calls).2.2.1 = ByteStream.shutDown stream

/-- A connection has been served as an accept loop serves it with as many calls, from the same stream and
    with the connection's own socket as it was when it was new. -/
structure Follows (handler : RequestHandler σ) (start : σ) (n : Nat) (s : Service σ)
    (seen : List ServiceNote) : Prop where
  /-- A connection that has not come is not served. -/
  fresh : s.hub.stats.accepted ≤ n →
    callsFor seen n = 0 ∧ s.streams n = start ∧ ∀ id r, .made id r ∈ seen → r.socket.connection ≠ n
  /-- Before the first call the stream is as the peer has left it. -/
  uncalled : callsFor seen n = 0 → s.streams n = start
  /-- All requests of the connection are for one socket, the one that the service has. -/
  own : ∀ id r, .made id r ∈ seen → r.socket.connection = n →
    ∀ socket, s.Has socket → socket.connection = n → anew socket = anew r.socket
  /-- The loop goes on with a socket that is open; it has the same socket and stream. -/
  held : ∀ socket, s.Has socket → socket.connection = n → socket.isOpen = true →
    LoopAt handler (anew socket) start (callsFor seen n) socket (s.streams n)
  /-- Open or not, the stream is that of the loop on the connection's socket. -/
  replies : ∀ id r, .made id r ∈ seen → r.socket.connection = n →
    Agrees handler (anew r.socket) start (callsFor seen n) (s.streams n)

/-- The stream is also that of the loop on the socket that the service has. -/
theorem Follows.agrees (hf : Follows handler start n s seen) (ha : s.Accounted seen)
    (hhas : s.Has socket) (hconnection : socket.connection = n) :
    Agrees handler (anew socket) start (callsFor seen n) (s.streams n) := by
  by_cases hcalls : callsFor seen n = 0
  · rw [hcalls, hf.uncalled hcalls]
    exact Or.inl rfl
  · obtain ⟨id, r, hmade, hr⟩ := exists_made_of_callsFor ha.calledMade ha.once hcalls
    rw [hf.own id r hmade hr socket hhas hconnection]
    exact hf.replies id r hmade hr

/-- What is passed on is served no further. -/
theorem Follows.passes (hf : Follows handler start n s seen) (ha : s.Accounted seen)
    (honce : (made (seen ++ notes)).Nodup) (hcount : s.hub.stats.accepted ≤ s'.hub.stats.accepted)
    (held : ∀ socket, s'.Has socket → socket.connection = n → s.Has socket ∨
      (∃ d peer, socket = s.hub.newSocket d peer) ∧
        s'.hub.stats.accepted = s.hub.stats.accepted + 1)
    (asks : ∀ id r, .made id r ∈ notes → r.socket.connection = n → s.Has r.socket ∧
      ∀ socket, s'.Has socket → socket.connection = n → socket = r.socket)
    (streams : s'.streams n = s.streams n)
    (uncalled : (called notes).countP (fun id => connectionOf? (seen ++ notes) id == some n) = 0) :
    Follows handler start n s' (seen ++ notes) := by
  have hcalls : callsFor (seen ++ notes) n = callsFor seen n := by
    rw [callsFor_append ha.calledMade honce, uncalled, Nat.add_zero]
  refine ⟨?_, ?_, ?_, ?_, ?_⟩
  · intro hfresh
    rw [hcalls, streams]
    obtain ⟨hnone, hstart, hnew⟩ := hf.fresh (Nat.le_trans hcount hfresh)
    refine ⟨hnone, hstart, fun id r hmade hconnection => ?_⟩
    rcases List.mem_append.mp hmade with hold | hmade
    · exact hnew id r hold hconnection
    -- a new request is for a connection that has come
    · have hrecent := ha.recent (asks id r hmade hconnection).1
      omega
  · rw [hcalls, streams]
    exact hf.uncalled
  · intro id r hmade hr socket hhas hconnection
    rcases List.mem_append.mp hmade with hold | hmade
    · rcases held socket hhas hconnection with hbefore | ⟨⟨d, peer, rfl⟩, -⟩
      · exact hf.own id r hold hr socket hbefore hconnection
      · exact absurd hr ((hf.fresh (Nat.le_of_eq hconnection)).2.2 id r hold)
    · rw [(asks id r hmade hr).2 socket hhas hconnection]
  · intro socket hhas hconnection hopen
    rw [hcalls, streams]
    rcases held socket hhas hconnection with hold | ⟨⟨d, peer, rfl⟩, -⟩
    · exact hf.held socket hold hconnection hopen
    · obtain ⟨hnone, hstart, -⟩ := hf.fresh (Nat.le_of_eq hconnection)
      rw [hnone, hstart]
      exact ⟨[], rfl⟩
  · intro id r hmade hr
    rw [hcalls, streams]
    rcases List.mem_append.mp hmade with hold | hmade
    · exact hf.replies id r hold hr
    · exact hf.agrees ha (asks id r hmade hr).1 hr

/-- A connection that the handler is called for is served once more. -/
theorem Follows.calls (hf : Follows handler start n s seen) (ha : s.Accounted seen)
    (honce : (made (seen ++ notes)).Nodup) (hcount : s.hub.stats.accepted ≤ s'.hub.stats.accepted)
    (hfaithful : Faithful handler) (h : s.Calls handler s' seen notes e e' after later)
    (hconnection : e.request.socket.connection = n) :
    Follows handler start n s' (seen ++ notes) := by
  have hcalls : callsFor (seen ++ notes) n = callsFor seen n + 1 := by
    rw [callsFor_append ha.calledMade honce, h.once, List.countP_singleton,
      connectionOf?_of_mem honce h.asked, hconnection, if_pos (beq_self_eq_true _)]
  have hloop : LoopAt handler (anew e.socket) start (callsFor seen n) e.socket (s.streams n) :=
    hf.held e.socket h.had hconnection h.usable
  subst hconnection
  obtain ⟨hsocket, hstream, -⟩ := call_result h.call
  -- the request that is served is, like all of the connection, for its one socket
  have hown : ∀ id r, .made id r ∈ seen ++ notes →
      r.socket.connection = e.request.socket.connection → anew e.socket = anew r.socket := by
    intro id r hmade hr
    rcases List.mem_append.mp hmade with hold | hmade
    · exact hf.own id r hold hr e.socket h.had rfl
    · rw [h.asks id r hmade]
  have hrecent : e.socket.connection < s.hub.stats.accepted := ha.recent h.had
  refine ⟨?_, ?_, ?_, ?_, ?_⟩
  · exact fun hfresh =>
      absurd (Nat.lt_of_lt_of_le hrecent (Nat.le_trans hcount hfresh)) (Nat.lt_irrefl _)
  · exact fun hnone => nomatch hcalls.symm.trans hnone
  · intro id r hmade hr socket hhas hsame
    rcases h.held socket hhas with rfl | ⟨-, hne⟩
    · rw [hsocket]
      exact hown id r hmade hr
    · exact absurd hsame hne
  · intro socket hhas hsame hopen
    rw [h.streams, hcalls]
    rcases h.held socket hhas with rfl | ⟨-, hne⟩
    · obtain ⟨left, records, hcall, hleft⟩ := call_keep h.call hopen
      have hgiven : e'.socket = left := by
        obtain ⟨isOpen, pending, hback⟩ :=
          hfaithful e.socket (s.streams e.request.socket.connection)
        rw [hcall] at hback
        obtain rfl : left = _ := hback
        exact hleft
      have hfirst : anew e'.socket = anew e.socket := by
        rw [hleft]
        rfl
      rw [hfirst, hgiven]
      exact hloop.keep h.usable hcall
    · exact absurd hsame hne
  · intro id r hmade hr
    obtain ⟨said, hnext⟩ := hloop.succ
    rw [← hown id r hmade hr, Agrees, hcalls, hnext, h.streams, hstream]
    exact stream_once { e.request with socket := e.socket } h.usable _

/-- **EVERY MOVE LETS A CONNECTION FOLLOW THE ACCEPT LOOP**, unless the system changes its stream. -/
theorem Follows.touch (hf : Follows handler start n s seen) (ha : s.Accounted seen)
    (honce : (made (seen ++ notes)).Nodup) (hcount : s.hub.stats.accepted ≤ s'.hub.stats.accepted)
    (hfaithful : Faithful handler) (hsystem : ∀ stream, move ≠ .stream n stream)
    (h : s.Touch handler s' seen move notes) : Follows handler start n s' (seen ++ notes) := by
  cases h with
  | passes held asks streams uncalled =>
      refine hf.passes ha honce hcount (fun socket hhas _ => held socket hhas) ?_ (congrFun streams n) ?_
      · rintro id r hmade rfl
        exact asks id r hmade
      · rw [uncalled]
        rfl
  | changes m stream system =>
      subst system
      have hne : n ≠ m := by
        rintro rfl
        exact hsystem stream rfl
      exact hf.passes ha honce hcount (fun socket hhas _ => Or.inl hhas)
        (fun _ _ hmade => nomatch hmade) (if_neg hne) rfl
  | calls e e' after later h =>
      by_cases hconnection : e.request.socket.connection = n
      · exact hf.calls ha honce hcount hfaithful h hconnection
      · obtain ⟨hsocket, -, hothers⟩ := call_result h.call
        refine hf.passes ha honce hcount ?_ ?_ ?_ ?_
        · intro socket hhas hsame
          rcases h.held socket hhas with rfl | ⟨hold, -⟩
          · rw [hsocket] at hsame
            exact absurd hsame hconnection
          · exact Or.inl hold
        · intro id r hmade hr
          rw [h.asks id r hmade] at hr
          exact absurd hr hconnection
        · rw [h.streams]
          exact hothers n (Ne.symm hconnection)
        · rw [h.once, List.countP_singleton, connectionOf?_of_mem honce h.asked]
          exact if_neg fun heq => hconnection (Option.some.inj (eq_of_beq heq))

/-! ## Runs -/

/-- What a run within `moves` keeps. -/
structure Served (handler : RequestHandler σ) (streams : Nat → σ) (moves : List (ServiceMove σ))
    (s : Service σ) (seen : List ServiceNote) : Prop where
  accounted : s.Accounted seen
  drained : Drains handler → s.Drained
  follows : Faithful handler → ∀ n, (∀ stream, .stream n stream ∉ moves) →
    Follows handler (streams n) n s seen

theorem Served.goes {streams : Nat → σ} {moves : List (ServiceMove σ)}
    (hs : Served handler streams moves s seen) (h : s.Goes handler move s' notes)
    (hrule : s.spares move = true) (hmem : move ∈ moves) :
    Served handler streams moves s' (seen ++ notes) := by
  have ha := hs.accounted
  have hafter := ha.goes h hrule
  have hcount : s.hub.stats.accepted ≤ s'.hub.stats.accepted := by
    rcases h.hub_goes hrule with heq | ⟨m, -, hgoes⟩
    · rw [heq]
    · exact hgoes.accepted_le ha.sound
  refine ⟨hafter, fun hdrains => (hs.drained hdrains).touch hdrains (ha.touch h), ?_⟩
  intro hfaithful n hsystem
  refine (hs.follows hfaithful n hsystem).touch ha hafter.once hcount hfaithful ?_ (ha.touch h)
  rintro stream rfl
  exact hsystem stream hmem

end Service

end PooledServer.Server
