import PooledServer.Text.Basic

/-!
# Log lines

    A record has a level, the component that speaks (its target) and a text.  A threshold lets through
    the records of its own level and of the more severe ones.
-/

namespace PooledServer.Log

/-- Severity of a record, most severe first. -/
inductive Level where
  | error
  | warn
  | info
  | debug
  | trace
  deriving DecidableEq, Repr

namespace Level

/-- Position in the order of severity; a lower rank is more severe. -/
def rank : Level → Nat
  | error => 1
  | warn => 2
  | info => 3
  | debug => 4
  | trace => 5

def name : Level → String
  | error => "error"
  | warn => "warn"
  | info => "info"
  | debug => "debug"
  | trace => "trace"

/-- The tag that begins a line of this level.  All tags have the same width. -/
def tag : Level → String
  | error => "[ERROR]"
  | warn => "[WARN] "
  | info => "[INFO] "
  | debug => "[DEBUG]"
  | trace => "[TRACE]"

end Level

/-- The least severe level that is let through; `none` lets nothing through. -/
abbrev Threshold := Option Level

namespace Threshold

def name : Threshold → String
  | none => "off"
  | some level => level.name

/-- Whether records of `level` are let through. -/
def allows (threshold : Threshold) (level : Level) : Bool :=
  match threshold with
  | none => false
  | some least => level.rank ≤ least.rank

/-- Reads a threshold by its name, an alias of it or its number. -/
def parse? (value : String) : Option Threshold :=
  match Text.lower (Text.trim value) with
  | "off" | "0" => some none
  | "error" | "critical" | "1" => some (some .error)
  | "warn" | "warning" | "2" => some (some .warn)
  | "info" | "3" => some (some .info)
  | "debug" | "4" => some (some .debug)
  | "trace" | "verbose" | "5" => some (some .trace)
  | _ => none

end Threshold

/-- One message to the log. -/
structure Record where
  level : Level
  target : String
  text : String
  deriving DecidableEq, Repr

/-- The line that a record is written as, without its line end. -/
def Record.line (r : Record) : String :=
  r.level.tag ++ " " ++ r.target ++ ": " ++ r.text

/-- What the records that the threshold lets through are written as, one line each. -/
def written (threshold : Threshold) (records : List Record) : String :=
  String.join ((records.filter fun r => threshold.allows r.level).map fun r => r.line ++ "\n")

/-- The physical lines of a text, each without its line end. -/
def splitLines (s : String) : List String :=
  let ends (cs : List Char) : List Char := if cs.getLast? = some '\r' then cs.dropLast else cs
  match (s.toList.splitOn '\n').reverse with
  | last :: lines =>
    let lines := lines.reverse.map fun cs => String.ofList (ends cs)
    if last.isEmpty then lines else lines ++ [String.ofList last]
  | [] => []

/-- The physical lines that the records are written as. -/
def lines (threshold : Threshold) (records : List Record) : List String :=
  splitLines (written threshold records)

/-! ## Components -/

/-- The parts of the server that write to the log. -/
inductive Component where
  | thread
  | primitives
  | queue
  | worker
  | pool
  | net
  | events
  | config
  | handler
  | server
  | echoServer
  | poolStress
  deriving DecidableEq, Repr

/-- The target under which a component writes. -/
def Component.target : Component → String
  | thread => "sockserve_core::thread"
  | primitives => "sockserve_runtime::backend::pthreads"
  | queue => "sockserve_runtime::queue"
  | worker => "sockserve_runtime::worker"
  | pool => "sockserve_runtime::pool"
  | net => "sockserve_runtime::net"
  | events => "sockserve_runtime::kernel_event"
  | config => "sockserve::config"
  | handler => "sockserve::handler"
  | server => "sockserve::server"
  | echoServer => "echo_server"
  | poolStress => "pool_stress"

namespace Component

def error (c : Component) (text : String) : Record := ⟨.error, c.target, text⟩

def warn (c : Component) (text : String) : Record := ⟨.warn, c.target, text⟩

def info (c : Component) (text : String) : Record := ⟨.info, c.target, text⟩

def debug (c : Component) (text : String) : Record := ⟨.debug, c.target, text⟩

def trace (c : Component) (text : String) : Record := ⟨.trace, c.target, text⟩

end Component

end PooledServer.Log
