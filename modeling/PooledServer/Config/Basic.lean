import PooledServer.Error
import PooledServer.Log
import PooledServer.Net.Address

/-!
# The configuration of a server

    Ten settings, each with a default.  A setting is known by its `Key`; the key fixes the type of the
    value, how the value is read from text, and where it stands in the configuration.  Reading a value
    never fails the whole: a malformed value is reported and the one in effect stays.
-/

namespace PooledServer

/-- How connections are accepted and served. -/
inductive ServerMode where
  /-- Each connection is one job, served until it ends. -/
  | acceptLoop
  /-- Each readiness event of a connection is one job. -/
  | kernelEvents
  deriving DecidableEq, Repr

namespace ServerMode

def name : ServerMode → String
  | acceptLoop => "accept_loop"
  | kernelEvents => "kernel_events"

/-- A word in the form in which modes are compared: trimmed, in lower case, with underscores. -/
def normalize (s : String) : String :=
  String.ofList ((Text.lower (Text.trim s)).toList.map fun c => if c = '-' then '_' else c)

def parse? (s : String) : Option ServerMode :=
  match normalize s with
  | "accept" | "accept_loop" | "blocking" => some acceptLoop
  | "kernel_events" | "kernel" | "events" | "epoll" | "kqueue" => some kernelEvents
  | _ => none

/-- The complaint about a word that names no mode. -/
def unknownMessage (s : String) : String :=
  s!"unknown server mode '{normalize s}'"

/-- Readiness events are available. -/
def platformDefault : ServerMode := kernelEvents

end ServerMode

/-! ## Limits and defaults -/

def defaultPort : UInt16 := 9000

def defaultThreadPoolSize : UInt64 := 4

def defaultSocketBufferSize : UInt64 := 8192

def defaultMaxConnections : UInt64 := 1024

def defaultEventCapacity : UInt64 := 256

/-- Options put on every accepted connection.  A size of `none` leaves the choice to the system. -/
structure SocketOptions where
  tcpNodelay : Bool := true
  keepAlive : Bool := false
  sendBufferSize : Option UInt64 := none
  receiveBufferSize : Option UInt64 := none
  deriving DecidableEq, Repr

/-- The settings of a server. -/
structure Config where
  port : UInt16 := defaultPort
  bindAddress : Net.Address := .unspecified
  /-- Workers of the pool; with zero, requests run on the serving thread. -/
  threadPoolSize : UInt64 := defaultThreadPoolSize
  /-- Zero leaves the size to the system. -/
  sendBufferSize : UInt64 := defaultSocketBufferSize
  /-- Zero leaves the size to the system. -/
  receiveBufferSize : UInt64 := defaultSocketBufferSize
  serverMode : ServerMode := .platformDefault
  maxConnections : UInt64 := defaultMaxConnections
  tcpNodelay : Bool := true
  logLevel : Log.Threshold := some .info
  eventCapacity : UInt64 := defaultEventCapacity
  deriving DecidableEq, Repr

namespace Config

/-- The settings, in the order in which they are read. -/
inductive Key where
  | port
  | bindAddress
  | threadPoolSize
  | sendBufferSize
  | receiveBufferSize
  | serverMode
  | maxConnections
  | tcpNodelay
  | logLevel
  | eventCapacity
  deriving DecidableEq, Repr

namespace Key

def all : List Key :=
  [port, bindAddress, threadPoolSize, sendBufferSize, receiveBufferSize, serverMode, maxConnections,
    tcpNodelay, logLevel, eventCapacity]

/-- The name of a setting in files. -/
def name : Key → String
  | port => "port"
  | bindAddress => "bind_address"
  | threadPoolSize => "thread_pool_size"
  | sendBufferSize => "socket_send_buffer_size"
  | receiveBufferSize => "socket_receive_buffer_size"
  | serverMode => "server_mode"
  | maxConnections => "max_connections"
  | tcpNodelay => "tcp_nodelay"
  | logLevel => "log_level"
  | eventCapacity => "event_capacity"

/-- The type of a setting. -/
@[reducible] def Value : Key → Type
  | port => UInt16
  | bindAddress => Net.Address
  | serverMode => ServerMode
  | tcpNodelay => Bool
  | logLevel => Log.Threshold
  | threadPoolSize | sendBufferSize | receiveBufferSize | maxConnections | eventCapacity => UInt64

end Key

/-- The value of a setting. -/
def get (c : Config) : (k : Key) → k.Value
  | .port => c.port
  | .bindAddress => c.bindAddress
  | .threadPoolSize => c.threadPoolSize
  | .sendBufferSize => c.sendBufferSize
  | .receiveBufferSize => c.receiveBufferSize
  | .serverMode => c.serverMode
  | .maxConnections => c.maxConnections
  | .tcpNodelay => c.tcpNodelay
  | .logLevel => c.logLevel
  | .eventCapacity => c.eventCapacity

/-- The configuration with one setting changed. -/
def set (c : Config) : (k : Key) → k.Value → Config
  | .port, v => { c with port := v }
  | .bindAddress, v => { c with bindAddress := v }
  | .threadPoolSize, v => { c with threadPoolSize := v }
  | .sendBufferSize, v => { c with sendBufferSize := v }
  | .receiveBufferSize, v => { c with receiveBufferSize := v }
  | .serverMode, v => { c with serverMode := v }
  | .maxConnections, v => { c with maxConnections := v }
  | .tcpNodelay, v => { c with tcpNodelay := v }
  | .logLevel, v => { c with logLevel := v }
  | .eventCapacity, v => { c with eventCapacity := v }

/-! ## Reading values -/

/-- What is wrong with a value. -/
inductive Malformed where
  | unparsable (text : String)
  | notBoolean (text : String)
  | unknownLevel (text : String)
  deriving DecidableEq, Repr

def Malformed.message : Malformed → String
  | unparsable text => s!"cannot parse '{text}'"
  | notBoolean text => s!"not a boolean: '{text}'"
  | unknownLevel text => s!"unknown log level '{text}'"

/-- A truth value, by any of its words. -/
def parseFlag (raw : String) : Except Malformed Bool :=
  match Text.lower (Text.trim raw) with
  | "1" | "true" | "yes" | "on" => .ok true
  | "0" | "false" | "no" | "off" => .ok false
  | other => .error (.notBoolean other)

/-- The trimmed text read by `read`. -/
def parseWith {α : Type} (read : String → Option α) (raw : String) : Except Malformed α :=
  match read (Text.trim raw) with
  | some v => .ok v
  | none => .error (.unparsable (Text.trim raw))

/-- A 64-bit count. -/
def size? (s : String) : Option UInt64 :=
  (Text.unsigned? UInt64.size s).map Nat.toUInt64

/-- Reads the value of a setting. -/
def Key.parse : (k : Key) → String → Except Malformed k.Value
  | .port, raw => parseWith (fun s => (Text.unsigned? UInt16.size s).map Nat.toUInt16) raw
  | .bindAddress, raw => parseWith Net.Address.parse? raw
  | .serverMode, raw => parseWith ServerMode.parse? raw
  | .tcpNodelay, raw => parseFlag raw
  | .logLevel, raw =>
    match Log.Threshold.parse? raw with
    | some v => .ok v
    | none => .error (.unknownLevel (Text.trim raw))
  | .threadPoolSize, raw | .sendBufferSize, raw | .receiveBufferSize, raw | .maxConnections, raw
  | .eventCapacity, raw => parseWith size? raw

/-- A malformed value that was passed over. -/
structure Warning where
  source : String
  key : Key
  reason : Malformed
  deriving DecidableEq, Repr

/-- The log record of a warning. -/
def Warning.record (w : Warning) : Log.Record :=
  Log.Component.config.warn s!"{w.source}: ignoring {w.key.name}: {w.reason.message}"

/-- One setting overridden by the text that `lookup` has for it, if it has one that can be read. -/
def overlayKey (source : String) (lookup : Key → Option String) (c : Config) (k : Key) :
    Config × List Warning :=
  match lookup k with
  | none => (c, [])
  | some raw =>
    match k.parse raw with
    | .ok v => (c.set k v, [])
    | .error reason => (c, [⟨source, k, reason⟩])

/-- The settings `keys` overridden one after the other. -/
def overlayKeys (source : String) (lookup : Key → Option String) (c : Config) :
    List Key → Config × List Warning
  | [] => (c, [])
  | k :: keys =>
    let (c, here) := overlayKey source lookup c k
    let (c, later) := overlayKeys source lookup c keys
    (c, here ++ later)

/-- All settings overridden by what `lookup` has for them. -/
def overlay (source : String) (lookup : Key → Option String) (c : Config) : Config × List Warning :=
  overlayKeys source lookup c Key.all

/-! ## Use -/

/-- The server can start with these settings. -/
def validate (c : Config) : Except ConfigError Unit :=
  if c.port = 0 then .error .portNotPositive
  else if c.maxConnections = 0 then .error .maxConnectionsNotPositive
  else if c.eventCapacity = 0 then .error .eventCapacityNotPositive
  else .ok ()

/-- Where the server listens. -/
def listenEndpoint (c : Config) : Net.Endpoint :=
  { address := c.bindAddress, port := c.port }

/-- The options of accepted connections. -/
def socketOptions (c : Config) : SocketOptions :=
  let size (n : UInt64) : Option UInt64 := if 0 < n then some n else none
  { tcpNodelay := c.tcpNodelay, keepAlive := false, sendBufferSize := size c.sendBufferSize,
    receiveBufferSize := size c.receiveBufferSize }

end Config

end PooledServer
