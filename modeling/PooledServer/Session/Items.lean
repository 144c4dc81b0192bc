import PooledServer.Session.Reply

/-!
# A session with items

    Items are made under names, looked at, stamped and executed one after the other, on one thread.
-/

namespace PooledServer.Session.Items

open Work (Item Job Note Registry Outcome Tag)

/-- Items by name, and what their executions share. -/
structure State where
  registry : Registry := {}
  items : List (String × Item) := []

/-- One step, on the item of the given name. -/
inductive Command where
  | make (job : Job)
  | stamp (worker : Nat)
  | runBy
  | debug
  | execute
  | executeThen
  | routine (name : String)
  | drop
  | runs

namespace State

def item? (s : State) (name : String) : Option Item := s.items.lookup name

/-- The items without the one of the given name. -/
def without (s : State) (name : String) : State :=
  { s with items := s.items.filter (·.1 != name) }

def put (s : State) (name : String) (item : Item) : State :=
  { s.without name with items := (name, item) :: (s.without name).items }

/-- Executes the item of the given name, with a hook. -/
def execute (s : State) (name : String) (hook : Outcome → List Note) (reply : Work.Ended → Reply) :
    State × Reply × List Note :=
  match s.item? name with
  | none => (s, .noItem, [])
  | some item =>
    let (registry, ended, notes) := Work.execute hook s.registry item
    ({ s.without name with registry }, (ended.map reply).getD .wouldBlock, notes)

/-- One step of the session. -/
def step (s : State) (name : String) : Command → State × Reply × List Note
  | .make job =>
    let (item, registry) := s.registry.make job
    let replaced := ((s.item? name).map Item.discard).getD []
    ({ s.put name item with registry }, .made item, replaced)
  | .stamp worker =>
    match s.item? name with
    | none => (s, .noItem, [])
    | some item => (s.put name { item with runBy := some worker }, .number worker, [])
  | .runBy =>
    (s, match (s.item? name).bind (·.runBy) with
      | some w => .number w
      | none => .nothing, [])
  | .debug => (s, ((s.item? name).map fun item => .text item.debug).getD .nothing, [])
  | .execute => s.execute name (fun _ => []) .executed
  | .executeThen => s.execute name (fun o => [.event (.afterRun o)]) .hooked
  | .routine threadName =>
    match s.item? name with
    | none => (s, .noItem, [])
    | some item =>
      let (registry, c, notes) := Work.runRoutine threadName s.registry item
      let outcome := match c.routine with
        | .ended (.returned outcome) => some outcome
        | _ => none
      ({ s.without name with registry }, .routine outcome c.alive, notes)
  | .drop =>
    match s.item? name with
    | none => (s, .flag false, [])
    | some item => (s.without name, .flag true, item.discard)
  | .runs => (s, .runs s.registry.runs, [])

end State

end PooledServer.Session.Items
