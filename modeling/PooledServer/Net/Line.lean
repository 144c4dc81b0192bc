import PooledServer.Net.Socket
import PooledServer.Text.Utf8

/-!
# Lines

    A line ends with a newline, and one carriage return directly before it belongs to the ending.
    What follows the last newline is a line of its own, as it stands.  Bytes without a newline are
    collected until there are more than `maxLineLength` of them.
-/

namespace PooledServer.Net

/-- The most bytes that may be pending without a newline. -/
def maxLineLength : Nat := 65536

namespace Socket

/-- The place of the first newline at or after `start`. -/
def newline? (b : ByteArray) (start : Nat) : Option Nat :=
  if h : start < b.size then
    if b[start] = 10 then some start else newline? b (start + 1)
  else none
termination_by b.size - start

/-- A line without the carriage return of its ending. -/
def withoutReturn (bytes : ByteArray) : ByteArray :=
  if bytes[bytes.size - 1]? = some 13 then bytes.extract 0 (bytes.size - 1) else bytes

/-- The text of a line. -/
def lineText (line : ByteArray) : Except IoError (Option String) :=
  match Text.Utf8.decode line with
  | .ok text => .ok (some text)
  | .error e => .error (.stated .invalidData e.message)

variable {σ : Type} [ByteStream σ]

/-- Reads a line; the first `scanned` pending bytes hold no newline. -/
def readLineFrom (s : Socket) (stream : σ) (scanned : Nat) :
    Except IoError (Option String) × Socket × σ :=
  match newline? s.pending scanned with
  | some place =>
    (lineText (withoutReturn (s.pending.extract 0 place)),
      { s with pending := s.pending.extract (place + 1) s.pending.size }, stream)
  | none =>
    if maxLineLength < s.pending.size then (.error (.stated .invalidData "line too long"), s, stream)
    else
      match s.takeNew stream chunkSize with
      | (.error e, stream) => (.error e, s, stream)
      | (.ok chunk, stream) =>
        if chunk.size = 0 then
          if s.pending.isEmpty then (.ok none, s, stream)
          else (lineText s.pending, { s with pending := .empty }, stream)
        else
          let scanned := s.pending.size
          readLineFrom { s with pending := s.pending ++ chunk } stream scanned
termination_by maxLineLength + 1 - s.pending.size
decreasing_by simp only [ByteArray.size_append]; omega

/-- Reads one line without its ending; nothing once the peer is done. -/
def readLine (s : Socket) (stream : σ) : Except IoError (Option String) × Socket × σ :=
  s.readLineFrom stream 0

/-- A newline that is found stands inside the bytes. -/
theorem newline?_lt {b : ByteArray} {start place : Nat} (h : newline? b start = some place) :
    place < b.size := by
  fun_induction newline? b start with
  | case1 start hlt _ =>
    simp only [Option.some.injEq] at h
    exact h ▸ hlt
  | case2 start hlt _ ih => exact ih h
  | case3 => simp at h

/-- A line uses up at least one byte, its newline, unless it is the last. -/
theorem supply_readLineFrom (s : Socket) (stream : σ) (scanned : Nat) (line : String)
    (h : (s.readLineFrom stream scanned).1 = .ok (some line))
    (hmore : (s.readLineFrom stream scanned).2.1.hasPending = true) :
    (s.readLineFrom stream scanned).2.1.supply (s.readLineFrom stream scanned).2.2 < s.supply stream := by
  fun_induction readLineFrom s stream scanned with
  | case1 s stream scanned place hplace =>
    have := newline?_lt hplace
    simp only [supply, ByteArray.size_extract]
    omega
  | case2 => simp at h
  | case3 => simp at h
  | case4 => simp at h
  | case5 =>
    simp only [hasPending] at hmore
    exact absurd hmore (by decide)
  | case6 s stream scanned hnone hsize chunk rest htake hchunk n ih =>
    refine Nat.lt_of_lt_of_le (ih h hmore) ?_
    have := s.toCome_takeNew stream chunkSize chunk (by rw [htake])
    simp only [htake] at this
    simp only [supply, ByteArray.size_append]
    omega

/-- A line that leaves bytes pending leaves less to hand out. -/
theorem supply_readLine {s s' : Socket} {stream stream' : σ} {line : String}
    (h : s.readLine stream = (.ok (some line), s', stream')) (hmore : s'.hasPending = true) :
    s'.supply stream' < s.supply stream := by
  have := supply_readLineFrom s stream 0 line
  unfold readLine at h
  rw [h] at this
  exact this rfl hmore

end Socket

end PooledServer.Net
