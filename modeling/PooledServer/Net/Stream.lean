import PooledServer.Error

/-!
# Byte streams

    What the system gives a connection: bytes that have arrived can be taken, bytes can be sent, and
    both directions can be shut down.  Everything that reads messages is written over any such stream,
    so nothing it does can depend on how the system cuts the bytes into pieces.

    `Arrivals` is the stream that says when each piece arrives and what comes last; `Duplex` is one
    end of a connected pair in memory.
-/

namespace PooledServer.Net

/-- A connected byte stream.  Taking returns no bytes once the far end has sent its last.  Only so
    many bytes are still to come: what is taken is no longer among them, and sending brings none. -/
class ByteStream (σ : Type) where
  take : σ → Nat → Except IoError ByteArray × σ
  send : σ → ByteArray → Except IoError Unit × σ
  shutDown : σ → σ
  toCome : σ → Nat
  toCome_take (s : σ) (n : Nat) (b : ByteArray) :
    (take s n).1 = .ok b → toCome (take s n).2 + b.size ≤ toCome s
  toCome_send (s : σ) (b : ByteArray) : toCome (send s b).2 ≤ toCome s

/-- The error of a read that would have to wait. -/
def wouldBlock : IoError := .system 11

/-- The error of a write that nobody can read any more. -/
def brokenPipe : IoError := .system 32

/-! ## Bytes that arrive in pieces -/

/-- A stream on which `pieces` arrive one by one, and then the far end has sent its last byte.  All
    that is sent is taken down in `sent`. -/
structure Arrivals where
  pieces : List ByteArray
  sent : ByteArray := .empty
  deriving Inhabited

namespace Arrivals

/-- All bytes still to come. -/
def bytes (a : Arrivals) : List UInt8 :=
  a.pieces.flatMap fun p => p.data.toList

/-- How many bytes are still to come. -/
def size (a : Arrivals) : Nat :=
  a.pieces.foldr (fun p n => p.size + n) 0

/-- Takes the next piece, or its first `n` bytes if it is longer. -/
def take (a : Arrivals) (n : Nat) : ByteArray × Arrivals :=
  match a.pieces with
  | [] => (.empty, a)
  | p :: ps =>
    if p.size ≤ n then (p, { a with pieces := ps })
    else (p.extract 0 n, { a with pieces := p.extract n p.size :: ps })

/-- Taking splits what is still to come. -/
theorem size_take (a : Arrivals) (n : Nat) : (a.take n).2.size + (a.take n).1.size = a.size := by
  obtain ⟨pieces, sent⟩ := a
  match pieces with
  | [] => rfl
  | p :: ps =>
    by_cases h : p.size ≤ n
    · simp [take, size, h, Nat.add_comm]
    · simp only [take, size, h, if_false, List.foldr_cons, ByteArray.size_extract]
      omega

instance : ByteStream Arrivals where
  take a n := (.ok (a.take n).1, (a.take n).2)
  send a data := (.ok (), { a with sent := a.sent ++ data })
  shutDown a := a
  toCome := size
  toCome_take a n b h := by
    have h : (a.take n).1 = b := by simpa using h
    have := a.size_take n
    rw [← h]
    exact Nat.le_of_eq this
  toCome_send a _ := Nat.le_refl _

end Arrivals

/-! ## A connected pair in memory -/

/-- How far the other end has left the connection. -/
inductive FarEnd
  | present
  | finished
  | gone
  deriving DecidableEq, Repr, Inhabited

/-- One end of a connected pair that never waits.  `arrived` holds what the far end has sent, of
    which the first `taken` bytes have been read; `sent` is what it has not yet read itself. -/
structure Duplex where
  arrived : ByteArray := .empty
  taken : Nat := 0
  sent : ByteArray := .empty
  far : FarEnd := .present
  isShut : Bool := false
  /-- This end was given up with bytes unread, which the far end has still to be told. -/
  isReset : Bool := false
  deriving Inhabited

namespace Duplex

/-- How many unread bytes one direction holds. -/
def capacity : Nat := 16777216

/-- Number of bytes that can be read at once. -/
def available (d : Duplex) : Nat :=
  d.arrived.size - d.taken

/-- What has arrived comes first, then the end of the far direction if that has ended. -/
def take (d : Duplex) (n : Nat) : Except IoError ByteArray × Duplex :=
  if d.available > 0 then
    let upTo := min (d.taken + n) d.arrived.size
    (.ok (d.arrived.extract d.taken upTo), { d with taken := upTo })
  else if d.far = .present ∧ !d.isShut then (.error wouldBlock, d)
  else (.ok .empty, d)

/-- Taking splits what is available. -/
theorem available_take (d : Duplex) (n : Nat) (b : ByteArray) (h : (d.take n).1 = .ok b) :
    (d.take n).2.available + b.size ≤ d.available := by
  by_cases hpos : d.available > 0
  · simp only [take, hpos, if_true, Except.ok.injEq] at h ⊢
    subst h
    simp only [available, ByteArray.size_extract] at hpos ⊢
    omega
  · by_cases hfar : d.far = .present ∧ !d.isShut
    · simp only [take, hpos, hfar, if_false, if_true, and_self] at h
      simp at h
    · simp only [take, hpos, hfar, if_false, Except.ok.injEq] at h ⊢
      subst h
      exact Nat.le_refl _

/-- Sends all of `data`, or as much as there is room for. -/
def send (d : Duplex) (data : ByteArray) : Except IoError Unit × Duplex :=
  if data.isEmpty then (.ok (), d)
  else if d.far = .gone ∨ d.isShut then (.error brokenPipe, d)
  else if data.size ≤ capacity - d.sent.size then (.ok (), { d with sent := d.sent ++ data })
  else (.error wouldBlock, { d with sent := d.sent ++ data.extract 0 (capacity - d.sent.size) })

/-- Sending leaves what is available. -/
theorem available_send (d : Duplex) (data : ByteArray) : (d.send data).2.available = d.available := by
  unfold send
  split
  · rfl
  · split
    · rfl
    · split <;> rfl

instance : ByteStream Duplex where
  take := take
  send := send
  shutDown d := { d with isShut := true }
  toCome := available
  toCome_take := available_take
  toCome_send d data := Nat.le_of_eq (d.available_send data)

/-! ### The far end -/

/-- The far end sends `data`. -/
def farSend (d : Duplex) (data : ByteArray) : Except IoError Unit × Duplex :=
  if data.isEmpty then (.ok (), d)
  else if d.isShut ∨ d.far ≠ .present then (.error brokenPipe, d)
  else (.ok (), { d with arrived := d.arrived ++ data })

/-- This end is given up.  Bytes that nobody will read make that a reset. -/
def abandon (d : Duplex) : Duplex :=
  { d with isShut := true, isReset := d.available > 0 }

/-- The far end reads all it was sent, and whether that was the end.  A reset comes in place of the
    end, once. -/
def farTake (d : Duplex) : ByteArray × Bool × Duplex :=
  (d.sent, d.isShut && !d.isReset, { d with sent := .empty, isReset := false })

/-- The far end stops sending. -/
def farFinish (d : Duplex) : Duplex :=
  { d with far := if d.far = .present then .finished else d.far }

/-- The far end reads all it was sent and leaves. -/
def farLeave (d : Duplex) : Duplex :=
  { d with sent := .empty, far := .gone }

end Duplex

end PooledServer.Net
