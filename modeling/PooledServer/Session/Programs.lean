import PooledServer.CommandLine.PoolStress
import PooledServer.Session.Servers

/-!
# Runs of the programs

    A whole run of a program on a host without a network, from its command line to its end: what it
    writes, and how it exits.  An echo server that has come to serve does not exit by itself.
-/

namespace PooledServer.Session.Programs

open CommandLine

/-- What a run leaves. -/
structure Ended where
  /-- The exit code, if the program exits by itself. -/
  exit : Option Nat
  /-- The lines on standard output and in the log; none if usage was shown. -/
  lines : Option (List String × List String) := none
  /-- The tasks completed by each worker, as far as the log tells. -/
  counts : List Nat := []

/-- How a program ends that does not run. -/
def stopped (version : List String) : Stop → Ended
  | .help => { exit := some 0 }
  | .misuse => { exit := some 2 }
  | .version => { exit := some 0, lines := some (version, []) }

/-- Whether `path` leads to the file `name` of the working directory, in which there is nothing else.  A
    path that ends with a slash, or with a dot after one, leads to no file. -/
def leadsTo (name path : String) : Bool :=
  Config.direct path = name && (Config.pathParts path).getLast? = some name.toList

/-- The echo server with these settings, from its start on: what it logs, and its exit code. -/
def serve (config : Config) (threshold : Log.Threshold) : List String × Option Nat :=
  match Servers.State.new config (.fixed config.port) config.port true [] with
  | .error _ => ([], some 1)
  | .ok s =>
    let s := { s with server := { s.server with threshold } }
    let lines (s : Servers.State) (notes : List Work.Note) :=
      Log.lines s.server.threshold (Work.Note.records notes)
    match s.step .run with
    | (s, .exit 0, notes) =>
      let (s, _, more) := s.step .serve
      (lines s (notes ++ more), none)
    | (s, _, notes) => (lines s notes, some 1)

/-- Runs the echo server; `content` is what there is at a path. -/
def echoServer (env : Environment) (args : List String) (content : String → Option ByteArray) : Ended :=
  match EchoServer.plan env args with
  | .error stop => stopped [EchoServer.versionLine] stop
  | .ok plan =>
    let threshold := EchoServer.firstThreshold env
    let (records, settings) := plan.settings Config.fileReader env content
    let before := Log.lines threshold records
    match settings with
    | none => { exit := some 1, lines := some ([], before) }
    | some config =>
      let (after, exit) := serve config threshold
      { exit, lines := some ([], before ++ after) }

/-- Runs the stress test.  Its log is given without the lines that tell times and workers. -/
def poolStress (env : Environment) (args : List String) : Ended :=
  match PoolStress.plan args with
  | .error stop => stopped [] stop
  | .ok plan =>
    let threshold := EchoServer.firstThreshold env
    let report := plan.run
    { exit := some report.exit, lines := some ([], Log.lines threshold report.records)
      counts := if threshold.allows .info then report.counts.map (·.toNat) else [] }

end PooledServer.Session.Programs
