import PooledServer.Net.Socket

/-!
# Frames

    A frame is its length, four bytes with the highest first, and then that many bytes.  A length over
    `maxFrameLength` is refused by both sides: by the sender before anything is sent, by the receiver
    as soon as it has seen the four bytes.
-/

namespace PooledServer.Net

/-- The most bytes a frame may carry. -/
def maxFrameLength : Nat := 16777216

namespace Frame

/-- The four bytes that announce `n` bytes. -/
def header (n : Nat) : ByteArray :=
  ⟨#[(n / 16777216).toUInt8, (n / 65536).toUInt8, (n / 256).toUInt8, n.toUInt8]⟩

/-- The number that bytes announce, highest first. -/
def announced (bytes : ByteArray) : Nat :=
  bytes.data.foldl (fun n b => n * 256 + b.toNat) 0

/-- A whole frame. -/
def encode (payload : ByteArray) : ByteArray :=
  header payload.size ++ payload

end Frame

namespace Socket

variable {σ : Type} [ByteStream σ]

/-- Sends `payload` as one frame. -/
def sendFrame (s : Socket) (stream : σ) (payload : ByteArray) : Except IoError Unit × σ :=
  if maxFrameLength < payload.size then (.error (.stated .invalidInput "frame too large"), stream)
  else s.write stream (Frame.encode payload)

/-- Receives one frame; nothing if the peer is done before its first byte.  The bytes of a frame
    that is too large, or cut off, stay pending. -/
def receiveFrame (s : Socket) (stream : σ) : Except IoError (Option ByteArray) × Socket × σ :=
  match s.fillTo stream 4 with
  | (.error e, s, stream) => (.error e, s, stream)
  | (.ok false, s, stream) => (.ok none, s, stream)
  | (.ok true, s, stream) =>
    let length := Frame.announced (s.pending.extract 0 4)
    if maxFrameLength < length then (.error (.stated .invalidData "frame too large"), s, stream)
    else
      match s.fillTo stream (4 + length) with
      | (.error e, s, stream) => (.error e, s, stream)
      | (.ok false, s, stream) => (.error (.stated .unexpectedEof "peer closed mid-frame"), s, stream)
      | (.ok true, s, stream) =>
        (.ok (some (s.pending.extract 4 (4 + length))),
          { s with pending := s.pending.extract (4 + length) s.pending.size }, stream)

end Socket

end PooledServer.Net
