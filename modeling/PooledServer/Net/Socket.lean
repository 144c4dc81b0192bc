import PooledServer.Log
import PooledServer.Net.Address
import PooledServer.Net.Stream

/-!
# Sockets

    The process's side of a connection: the descriptor, whether it was closed early, and the bytes
    that were read from the system but not yet handed out.  The stream itself belongs to the system,
    so every operation takes the socket and the stream and gives both back.

    Closing keeps the descriptor allocated; only dropping the socket releases its number.  Bytes that
    are pending are handed out before anything more is read, and a closed socket has none.
-/

namespace PooledServer.Net

open Log

/-- The number of an open file; negative numbers are never open. -/
abbrev Descriptor := Int

/-- A connected socket.  `pending` is what was read past the end of the last line or frame.
    Descriptor numbers are used again, connection numbers are not; no operation looks at the latter. -/
structure Socket where
  descriptor : Descriptor
  connection : Nat := 0
  peer : Option Endpoint := none
  isOpen : Bool := true
  pending : ByteArray := .empty
  deriving Inhabited

namespace Socket

/-- Most bytes that are read from the system at once. -/
def chunkSize : Nat := 4096

/-- The error of using a closed socket. -/
def closedError : IoError := .stated .notConnected "socket closed"

/-- Whether bytes already read wait to be handed out; the system will not report them again. -/
def hasPending (s : Socket) : Bool :=
  !s.pending.isEmpty

/-- The text of a socket for people who look for faults. -/
def debug (s : Socket) : String :=
  let peer := match s.peer with
    | some e => s!"Some({e.text})"
    | none => "None"
  "Socket \x7b fd: " ++ toString s.descriptor ++ ", open: " ++ toString s.isOpen ++ ", peer: " ++ peer ++ " \x7d"

variable {σ : Type} [ByteStream σ]

/-- Closes the socket early; what was pending is lost. -/
def close (s : Socket) (stream : σ) : Socket × σ × List Log.Record :=
  if s.isOpen then
    ({ s with isOpen := false, pending := .empty }, ByteStream.shutDown stream,
      [Component.net.trace s!"fd {s.descriptor} shut down"])
  else ({ s with pending := .empty }, stream, [])

/-- Takes up to `n` bytes from the system. -/
def takeNew (s : Socket) (stream : σ) (n : Nat) : Except IoError ByteArray × σ :=
  if s.isOpen then ByteStream.take stream n else (.error closedError, stream)

/-- Reads up to `n` bytes: pending ones if there are any.  No bytes mean the peer is done. -/
def read (s : Socket) (stream : σ) (n : Nat) : Except IoError ByteArray × Socket × σ :=
  if s.hasPending then
    (.ok (s.pending.extract 0 n), { s with pending := s.pending.extract n s.pending.size }, stream)
  else
    let (r, stream) := s.takeNew stream n
    (r, s, stream)

/-- Writes all of `data`. -/
def write (s : Socket) (stream : σ) (data : ByteArray) : Except IoError Unit × σ :=
  if s.isOpen then ByteStream.send stream data else (.error closedError, stream)

/-- Writing brings no bytes. -/
theorem toCome_write (s : Socket) (stream : σ) (data : ByteArray) :
    ByteStream.toCome (s.write stream data).2 ≤ ByteStream.toCome stream := by
  unfold write
  split
  · exact ByteStream.toCome_send stream data
  · exact Nat.le_refl _

/-- What is taken is no longer to come. -/
theorem toCome_takeNew (s : Socket) (stream : σ) (n : Nat) (b : ByteArray)
    (h : (s.takeNew stream n).1 = .ok b) :
    ByteStream.toCome (s.takeNew stream n).2 + b.size ≤ ByteStream.toCome stream := by
  unfold takeNew at h ⊢
  split at h
  · rename_i hopen
    simp only [if_pos hopen]
    exact ByteStream.toCome_take stream n b h
  · simp at h

/-- How many bytes the socket can still hand out at most. -/
def supply (s : Socket) (stream : σ) : Nat :=
  s.pending.size + ByteStream.toCome stream

/-- Reads until at least `n` bytes are pending.  Answers `false` if the peer is done and nothing is
    pending; an end in the middle is an error, and what is pending stays. -/
def fillTo (s : Socket) (stream : σ) (n : Nat) : Except IoError Bool × Socket × σ :=
  if s.pending.size < n then
    match s.takeNew stream chunkSize with
    | (.error e, stream) => (.error e, s, stream)
    | (.ok chunk, stream) =>
      if chunk.size = 0 then
        if s.pending.isEmpty then (.ok false, s, stream)
        else (.error (.stated .unexpectedEof "peer closed mid-message"), s, stream)
      else fillTo { s with pending := s.pending ++ chunk } stream n
  else (.ok true, s, stream)
termination_by n - s.pending.size
decreasing_by simp only [ByteArray.size_append]; omega

end Socket

end PooledServer.Net
