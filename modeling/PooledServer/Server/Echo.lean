import PooledServer.Server.Handler

/-!
# Echo

    Every line is written back.  A line that reads `quit`, the end of the stream and a failure end the
    connection.  One call answers all lines that have arrived: it goes on as long as bytes are pending,
    because the system will not report those again.
-/

namespace PooledServer.Server.Echo

open Net
open Log (Component)

variable {σ : Type} [ByteStream σ]

/-- The bytes that answer a line. -/
def reply (line : String) : ByteArray :=
  (line ++ "\n").toUTF8

/-- One call of the handler. -/
def handle (socket : Socket) (stream : σ) : Verdict × Socket × σ × List Log.Record :=
  match _hread : socket.readLine stream with
  | (.error e, socket, stream) =>
    (.decline, socket, stream,
      [Component.echoServer.debug s!"fd {socket.descriptor}: read failed: {e.message}"])
  | (.ok none, socket, stream) => (.decline, socket, stream, [])
  | (.ok (some line), read, unread) =>
    if line = "quit" then (.decline, read, unread, [])
    else
      match _hwrite : read.write unread (reply line) with
      | (.error _, rest) => (.decline, read, rest, [])
      | (.ok (), rest) => if _hmore : read.hasPending then handle read rest else (.keep, read, rest, [])
termination_by socket.supply stream
decreasing_by
  have hless := Socket.supply_readLine _hread _hmore
  have hsent := read.toCome_write unread (reply line)
  simp only [_hwrite, Socket.supply] at hless hsent ⊢
  omega

end PooledServer.Server.Echo
