import PooledServer.Server.Echo
import PooledServer.Session.Programs

/-!
# The programs

    The first argument names the program, the rest is its command line.  The host has no network, so
    the echo server serves one connection, which is standard input and output.
-/

namespace PooledServer.Main

open Net CommandLine

/-- The environment variables that the programs look at. -/
def variableNames : List String :=
  EchoServer.fileVariable :: Config.Key.all.map Config.Key.variable

/-- The environment, as far as the programs look at it. -/
def environment : IO Environment := do
  let mut found : List (String × ByteArray) := []
  for name in variableNames do
    if let some value ← IO.getEnv name then
      found := (name, value.toUTF8) :: found
  return ⟨found⟩

/-- The content of a file, if there is one. -/
def content? (path : String) : IO (Option ByteArray) := do
  try
    return some (← IO.FS.readBinFile path)
  catch _ =>
    return none

/-- The length of the part of `bytes` that ends with its last newline. -/
def wholeLines (bytes : ByteArray) : Nat :=
  bytes.data.size - (bytes.data.toList.reverse.takeWhile (· ≠ 10)).length

/-- Serves the connection: all lines that have come are answered at once, and what follows the last
    newline waits until its line is complete or the input ends. -/
partial def serve (socket : Socket) (stream : Duplex) (held : ByteArray) : IO Unit := do
  let input ← (← IO.getStdin).read Socket.chunkSize.toUSize
  let held := held ++ input
  let cut := if input.isEmpty then held.size else wholeLines held
  let (_, stream) := stream.farSend (held.extract 0 cut)
  let stream := if input.isEmpty then stream.farFinish else stream
  if cut = 0 ∧ !input.isEmpty then serve socket stream held
  else
    let (verdict, socket, stream, _) := Server.Echo.handle socket stream
    let (answer, _, stream) := stream.farTake
    let output ← IO.getStdout
    output.write answer
    output.flush
    if verdict = .keep ∧ !input.isEmpty then serve socket stream (held.extract cut held.size)

/-- Writes what a run has to say, and gives its exit code. -/
def finish (program : String) (ended : Session.Programs.Ended) : IO UInt32 := do
  match ended.lines with
  | some (out, log) =>
    for line in out do IO.println line
    for line in log do IO.eprintln line
  | none => IO.eprintln s!"Usage: {program} [OPTIONS]"
  return (ended.exit.getD 0).toUInt32

/-- Runs the echo server. -/
def echoServer (args : List String) : IO UInt32 := do
  let env ← environment
  let paths := match EchoServer.plan env args with
    | .ok plan => plan.file.elim [] Config.candidates
    | .error _ => []
  let files ← paths.mapM fun path => return (path, ← content? path)
  let ended := Session.Programs.echoServer env args fun path => (files.lookup path).join
  let code ← finish "echo-server" ended
  if ended.exit.isNone then serve { descriptor := 0 } {} .empty
  return code

/-- Runs the stress test. -/
def poolStress (args : List String) : IO UInt32 := do
  let ended := Session.Programs.poolStress (← environment) args
  let code ← finish "pool-stress" ended
  for line in Log.lines (some .info) (PoolStress.workerRecords (ended.counts.map (·.toUInt64))) do
    IO.eprintln line
  return code

end PooledServer.Main

/-- Runs the program that the first argument names. -/
def main (args : List String) : IO UInt32 :=
  match args with
  | "echo-server" :: args => PooledServer.Main.echoServer args
  | "pool-stress" :: args => PooledServer.Main.poolStress args
  | _ => do
    IO.eprintln "Usage: echo-server [OPTIONS] | pool-stress [OPTIONS]"
    return 2
