import PooledServer.Proofs.Events.Steps

/-!
# Who holds the sockets

    A socket is parked in the table, on loan with a request, or with the operation of a thread that
    puts it in, brings it back or closes it.  `State.holdings` lists them all, each socket with the
    place where it is.

    Wherever a socket goes, its number and its connection stay (`Socket.handle`), so what the server
    holds is the collection of these, `State.held`, and most moves leave it as it is. -/

namespace PooledServer

/-- What no operation changes about a socket: its number and its connection. -/
def Net.Socket.handle (s : Net.Socket) : Net.Descriptor × Nat := (s.descriptor, s.connection)

namespace Events

open Net

/-- Where a socket can be. -/
inductive Place where
  /-- Parked in the entry of this descriptor. -/
  | entry (d : Descriptor)
  /-- On loan with a request. -/
  | request
  /-- With what this thread is doing. -/
  | operation (t : ThreadId)
  deriving DecidableEq, Repr

/-- A socket's number and connection. -/
abbrev Handle := Descriptor × Nat

namespace Stage

/-- The request that is about to be handed out. -/
def request? : Stage → Option Request
  | .serve r => some r
  | _ => none

/-- The socket that an operation has taken up: one that is put in, comes back or is closed. -/
def carried? : Stage → Option Socket
  | .track s | .comeBack s | .park s _ | .release s _ => some s
  | .unwatchClosed _ s | .unwatchForgotten _ s => s
  | _ => none

/-- The sockets that a stage holds. -/
def handles (stage : Stage) : Multiset Handle :=
  ↑((stage.request?.map (·.socket.handle)).toList ++ (stage.carried?.map (·.handle)).toList)

end Stage

/-- The sockets that an agenda holds. -/
def load (agenda : List Stage) : Multiset Handle := (agenda.map Stage.handles).sum

/-- The sockets that a table holds. -/
def Table.handles (t : Table) : Multiset Handle := ↑(t.sockets.map Socket.handle)

namespace State

variable {s s' : State} {n : Nat}

/-- The live requests: those that handlers keep, and those that are about to be handed out. -/
def requests (s : State) : List Request :=
  s.kept ++ s.threads.flatMap fun th => th.agenda.filterMap Stage.request?

/-- Every socket that the server has, with its place. -/
def holdings (s : State) : List (Place × Socket) :=
  (s.table.filterMap fun p => p.2.socket.map (Place.entry p.1, ·)) ++
    (s.requests.map fun r => (Place.request, r.socket)) ++
    s.threads.flatMap fun th =>
      th.agenda.filterMap fun stage => stage.carried?.map (Place.operation th.id, ·)

/-- The places where connection `n` has a socket. -/
def placesOf (s : State) (n : Nat) : List Place :=
  (s.holdings.filter (·.2.connection == n)).map (·.1)

/-- No number stands for connection `n`. -/
def isClosed (s : State) (n : Nat) : Prop := ∀ d, s.kernel.file? d ≠ some (.connection n)

/-- What the server holds in its table and with its handlers. -/
def stored (s : State) : Multiset Handle :=
  s.table.handles + ↑(s.kept.map (·.socket.handle))

/-- All that the server holds. -/
def held (s : State) : Multiset Handle := s.stored + s.gather Stage.handles

/-! ## The two ways to count -/

theorem sum_coe_append {α β : Type*} (f g : α → List β) (l : List α) :
    (l.map fun x => (↑(f x ++ g x) : Multiset β)).sum = ↑(l.flatMap f) + ↑(l.flatMap g) := by
  induction l with
  | nil => rfl
  | cons x l ih =>
      rw [List.map_cons, List.sum_cons, ih, List.flatMap_cons, List.flatMap_cons]
      simp only [← Multiset.coe_add]
      abel

theorem load_eq (agenda : List Stage) :
    load agenda = ↑((agenda.filterMap Stage.request?).map (·.socket.handle) ++
      (agenda.filterMap Stage.carried?).map Socket.handle) := by
  rw [List.map_filterMap, List.map_filterMap, List.filterMap_eq_flatMap_toList,
    List.filterMap_eq_flatMap_toList, ← Multiset.coe_add]
  exact sum_coe_append (fun stage => (stage.request?.map (·.socket.handle)).toList)
    (fun stage => (stage.carried?.map (·.handle)).toList) agenda

/-- What the places hold is what the server holds. -/
theorem coe_holdings : (↑(s.holdings.map (·.2.handle)) : Multiset Handle) = s.held := by
  have htable : (s.table.filterMap fun p => p.2.socket.map (Place.entry p.1, ·)).map (·.2.handle) =
      s.table.sockets.map Socket.handle := by
    show _ = (List.filterMap _ _).map _
    rw [List.map_filterMap, List.map_filterMap]
    refine congrArg (List.filterMap · s.table) (funext fun p => ?_)
    rw [Option.map_map]
    rfl
  have hcarried : ∀ th : Thread,
      (th.agenda.filterMap fun stage => stage.carried?.map (Place.operation th.id, ·)).map
        (·.2.handle) = (th.agenda.filterMap Stage.carried?).map Socket.handle := by
    intro th
    rw [List.map_filterMap, List.map_filterMap]
    refine congrArg (List.filterMap · th.agenda) (funext fun stage => ?_)
    rw [Option.map_map]
    rfl
  -- the stages of a thread hold requests and bare sockets, which are places of different kinds
  have hgather : s.gather Stage.handles =
      ↑(s.threads.flatMap fun th => (th.agenda.filterMap Stage.request?).map (·.socket.handle)) +
        ↑(s.threads.flatMap fun th => (th.agenda.filterMap Stage.carried?).map Socket.handle) := by
    rw [← sum_coe_append]
    exact congrArg List.sum (List.map_congr_left fun th _ => load_eq th.agenda)
  simp only [holdings, requests, held, stored, Table.handles]
  rw [hgather]
  simp only [List.map_append, List.map_map, List.map_flatMap, htable, hcarried, ← Multiset.coe_add]
  simp only [Function.comp_def]
  abel

theorem mem_held_of_holdings {p : Place} {socket : Socket} (h : (p, socket) ∈ s.holdings) :
    socket.handle ∈ s.held := by
  rw [← coe_holdings]
  exact Multiset.mem_coe.mpr (List.mem_map_of_mem (f := fun q : Place × Socket => q.2.handle) h)

theorem mem_held_of_carried {th : Thread} {stage : Stage} {socket : Socket} (hth : th ∈ s.threads)
    (hstage : stage ∈ th.agenda) (h : stage.carried? = some socket) : socket.handle ∈ s.held := by
  have hplace : (Place.operation th.id, socket) ∈ s.holdings := by
    refine List.mem_append_right _ (List.mem_flatMap.mpr ⟨th, hth, ?_⟩)
    exact List.mem_filterMap.mpr ⟨stage, hstage, by rw [h]; rfl⟩
  exact mem_held_of_holdings hplace

theorem mem_held_of_request {r : Request} (h : r ∈ s.requests) : r.socket.handle ∈ s.held := by
  have hplace : (Place.request, r.socket) ∈ s.holdings :=
    List.mem_append_left _ (List.mem_append_right _ (List.mem_map_of_mem h))
  exact mem_held_of_holdings hplace

end State

end Events

end PooledServer
