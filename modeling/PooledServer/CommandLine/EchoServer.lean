import PooledServer.CommandLine.Options
import PooledServer.Config.Load
import PooledServer.Server.Step

/-!
# The echo server's command line

    The settings come from a file, the environment and the options, of which the later override the
    earlier; the file may be named by an option or by the environment.
-/

namespace PooledServer.CommandLine.EchoServer

open Log (Component Threshold)

/-- The options. -/
inductive Key where
  | config
  | port
  | threads
  | mode
  deriving DecidableEq, Repr

/-- A port number; zero may have a minus sign. -/
def port? (s : String) : Option UInt16 :=
  match s.toList with
  | '-' :: d :: ds => (Text.digits? 1 0 (d :: ds)).map (·.toUInt16)
  | _ => (Text.unsigned? UInt16.size s).map (·.toUInt16)

def grammar : Grammar Key where
  options := [(.config, 'c', "config"), (.port, 'p', "port"), (.threads, 't', "threads"), (.mode, 'm', "mode")]
  accepts
    | .config, s => !s.isEmpty
    | .port, s => (port? s).isSome
    | .threads, s => (Config.size? s).isSome
    | .mode, s => (ServerMode.parse? s).isSome
  hasVersion := true

/-- The line that tells the version. -/
def versionLine : String := "echo-server 0.1.0"

/-- The environment variable that names a file. -/
def fileVariable : String := "SOCKSERVE_CONFIG"

/-- The environment variable of the level that is logged at first. -/
def levelVariable : String := "SOCKSERVE_LOG_LEVEL"

/-- The records that are written from the beginning. -/
def firstThreshold (env : Environment) : Threshold :=
  ((env.get? levelVariable).bind Threshold.parse?).getD (some .info)

/-- What the command line says. -/
structure Plan where
  file : Option String := none
  port : Option UInt16 := none
  threads : Option UInt64 := none
  mode : Option ServerMode := none
  deriving DecidableEq, Repr

/-- Reads the command line. -/
def plan (env : Environment) (args : List String) : Except Stop Plan :=
  match grammar.read [] args with
  | .error stop => .error stop
  | .ok found =>
    let file := found.lookup .config <|> env.lossy? fileVariable
    if file = some "" then .error .misuse
    else
      .ok { file, port := (found.lookup .port).bind port?, threads := (found.lookup .threads).bind Config.size?
            mode := (found.lookup .mode).bind ServerMode.parse? }

/-- The settings with the options in force. -/
def Plan.apply (p : Plan) (c : Config) : Config :=
  let c := match p.port with
    | some port => c.set .port port
    | none => c
  let c := match p.threads with
    | some threads => c.set .threadPoolSize threads
    | none => c
  match p.mode with
  | some mode => c.set .serverMode mode
  | none => c

/-- Loads the settings; `content` is what there is at a path, and `read` reads it.  The records come with
    the settings, or with the failure that ends the program. -/
def Plan.settings (p : Plan) (read : Config.Reader) (env : Environment)
    (content : String → Option ByteArray) : List Log.Record × Option Config :=
  match Config.load read (p.file.map (Config.locate content)) env {} with
  | .error e =>
    ([Component.echoServer.error s!"critical: {(ServerError.config e).message}"], none)
  | .ok (c, warnings) =>
    let c := p.apply c
    (warnings.map (·.record) ++
      [Component.echoServer.info s!"echo-server starting on {c.listenEndpoint.text} ({c.serverMode.name} mode)"],
      some c)

end PooledServer.CommandLine.EchoServer
