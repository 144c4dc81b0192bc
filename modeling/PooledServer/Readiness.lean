/-!
# Readiness

    What the kernel reports about a descriptor, and what the report means for its connection.
-/

namespace PooledServer

/-- The flags of one readiness event. -/
structure EventFlags where
  /-- The peer has ended its sending direction. -/
  readClose : Bool := false
  /-- The connection has failed or is gone. -/
  disconnect : Bool := false
  readable : Bool := false
  deriving DecidableEq, Repr

/-- What an event means for its connection. -/
inductive Readiness where
  | closed
  | readable
  | ignore
  deriving DecidableEq, Repr

namespace Readiness

/-- A peer that is gone outweighs data that can be read. -/
def classify (flags : EventFlags) : Readiness :=
  if flags.readClose || flags.disconnect then closed
  else if flags.readable then readable
  else ignore

def name : Readiness → String
  | closed => "closed"
  | readable => "readable"
  | ignore => "ignore"

end Readiness

end PooledServer
