import PooledServer.Proofs.Net.Frames
import PooledServer.Proofs.Net.Lines

/-!
# No way of reading loses a byte

    Raw reads, lines and frames are taken off the same pending bytes.  On any stream that loses nothing
    itself (`Lossless`), whatever its pieces are and whenever it fails, each call takes its own bytes off
    the front of what the socket has outstanding (`Consumes`): a line with its ending, a frame with its
    header, or nothing if the call fails.  So what calls of all three kinds have taken, in their order, and
    what is outstanding after them are the bytes that were outstanding before (`Socket.mixed_reads`).

    A refill moves bytes from the stream to the end of what is pending and takes nothing, so a call that
    fails between two refills has taken nothing either.  A closed socket has no pending bytes and no
    refills. -/

namespace PooledServer.Net

/-! ## What is outstanding -/

theorem toList_extract (bytes : ByteArray) (m n : Nat) :
    (bytes.extract m n).data.toList = (bytes.data.toList.drop m).take (n - m) := by
  rw [ByteArray.data_extract, Array.toList_extract, List.extract_eq_take_drop]

/-- Pending bytes fall into those before a place and those from there on. -/
theorem toList_split (bytes : ByteArray) (n : Nat) :
    (bytes.extract 0 n).data.toList ++ (bytes.extract n bytes.size).data.toList =
      bytes.data.toList := by
  have hback : (bytes.data.toList.drop n).length ≤ bytes.size - n := Nat.le_of_eq List.length_drop
  rw [toList_extract, toList_extract, List.take_of_length_le hback]
  exact List.take_append_drop n _

/-- The bytes that the socket has not handed out. -/
def Socket.outstanding {σ : Type} (unread : σ → List UInt8) (s : Socket) (stream : σ) : List UInt8 :=
  s.pending.data.toList ++ unread stream

/-- Handing out the first pending bytes leaves the others outstanding. -/
theorem Socket.outstanding_split {σ : Type} (unread : σ → List UInt8) (s : Socket) (stream : σ)
    (n : Nat) :
    outstanding unread s stream =
      (s.pending.extract 0 n).data.toList ++
        outstanding unread { s with pending := s.pending.extract n s.pending.size } stream := by
  rw [outstanding, outstanding, ← List.append_assoc, toList_split]

/-! ## Streams -/

variable {σ : Type} [ByteStream σ]

/-- The stream fails with this error at times. -/
def Gives (σ : Type) [ByteStream σ] (e : IoError) : Prop :=
  ∃ (stream rest : σ) (n : Nat), ByteStream.take stream n = (.error e, rest)

/-- A stream that hands over its unread bytes in order, at most as many as it is asked for, and none when
    it fails. -/
structure Lossless (unread : σ → List UInt8) : Prop where
  taken {stream rest : σ} {n : Nat} {bytes : ByteArray} :
    ByteStream.take stream n = (.ok bytes, rest) → bytes.data.toList ++ unread rest = unread stream
  limited {stream rest : σ} {n : Nat} {bytes : ByteArray} :
    ByteStream.take stream n = (.ok bytes, rest) → bytes.size ≤ n
  failed {stream rest : σ} {n : Nat} {e : IoError} :
    ByteStream.take stream n = (.error e, rest) → unread rest = unread stream

theorem Arrivals.size_take_le (a : Arrivals) (n : Nat) : (a.take n).1.size ≤ n := by
  unfold Arrivals.take
  split
  · exact Nat.zero_le n
  · split
    · assumption
    · rw [ByteArray.size_extract]
      omega

/-- Bytes that arrive in pieces. -/
theorem lossless_arrivals : Lossless Arrivals.bytes where
  taken {a _ n _} h := by
    cases h
    exact a.bytes_take n
  limited {a _ n _} h := by
    cases h
    exact a.size_take_le n
  failed h := by cases h

/-- The bytes of a connected pair that this end has not read. -/
def Duplex.unread (d : Duplex) : List UInt8 := d.arrived.data.toList.drop d.taken

/-- What taking from a connected pair comes to. -/
theorem Duplex.take_cases (d : Duplex) (n : Nat) :
    (∃ upTo, d.taken ≤ upTo ∧ upTo ≤ d.taken + n ∧
      d.take n = (.ok (d.arrived.extract d.taken upTo), { d with taken := upTo })) ∨
    d.take n = (.error wouldBlock, d) ∨ d.take n = (.ok .empty, d) := by
  unfold Duplex.take
  split
  · rename_i havailable
    rw [Duplex.available] at havailable
    exact Or.inl ⟨_, by omega, by omega, rfl⟩
  · split
    · exact Or.inr (Or.inl rfl)
    · exact Or.inr (Or.inr rfl)

/-- One end of a connected pair, which fails instead of waiting. -/
theorem lossless_duplex : Lossless Duplex.unread where
  taken {d rest n bytes} h := by
    rcases d.take_cases n with ⟨upTo, hle, -, htake⟩ | htake | htake
    · cases htake.symm.trans h
      rw [Duplex.unread, Duplex.unread, toList_extract, ← Nat.add_sub_cancel' hle, ← List.drop_drop,
        Nat.add_sub_cancel_left, List.take_append_drop]
    · cases htake.symm.trans h
    · cases htake.symm.trans h
      rfl
  limited {d rest n bytes} h := by
    rcases d.take_cases n with ⟨upTo, hle, hlimit, htake⟩ | htake | htake
    · cases htake.symm.trans h
      rw [ByteArray.size_extract]
      omega
    · cases htake.symm.trans h
    · cases htake.symm.trans h
      exact Nat.zero_le n
  failed {d rest n e} h := by
    rcases d.take_cases n with ⟨upTo, -, -, htake⟩ | htake | htake <;> cases htake.symm.trans h
    rfl

/-- Bytes that arrive in pieces, on a stream that fails now and then: `refills` says for the next ones
    whether they fail. -/
structure Faulty where
  arrivals : Arrivals
  refills : List (Option IoError) := []

namespace Faulty

/-- Fails, or takes of what arrives. -/
def take (f : Faulty) (n : Nat) : Except IoError ByteArray × Faulty :=
  match f.refills.head?.join with
  | some e => (.error e, ⟨f.arrivals, f.refills.tail⟩)
  | none => (.ok (f.arrivals.take n).1, ⟨(f.arrivals.take n).2, f.refills.tail⟩)

theorem take_ok {f rest : Faulty} {n : Nat} {bytes : ByteArray} (h : f.take n = (.ok bytes, rest)) :
    f.arrivals.take n = (bytes, rest.arrivals) := by
  unfold take at h
  split at h <;> cases h
  rfl

theorem take_error {f rest : Faulty} {n : Nat} {e : IoError} (h : f.take n = (.error e, rest)) :
    rest.arrivals = f.arrivals := by
  unfold take at h
  split at h <;> cases h
  rfl

instance : ByteStream Faulty where
  take := take
  send f data := (.ok (), { f with arrivals.sent := f.arrivals.sent ++ data })
  shutDown f := f
  toCome f := f.arrivals.size
  toCome_take f n b h := by
    have htake := take_ok (show f.take n = (.ok b, (f.take n).2) from Prod.ext h rfl)
    have hsize := f.arrivals.size_take n
    rw [htake] at hsize
    exact Nat.le_of_eq hsize
  toCome_send _ _ := Nat.le_refl _

end Faulty

/-- Whenever a stream fails, it loses nothing. -/
theorem lossless_faulty : Lossless fun f : Faulty => f.arrivals.bytes where
  taken {f rest n bytes} h := by
    have htaken := f.arrivals.bytes_take n
    rwa [Faulty.take_ok h] at htaken
  limited {f rest n bytes} h := by
    have hlimit := f.arrivals.size_take_le n
    rwa [Faulty.take_ok h] at hlimit
  failed h := congrArg Arrivals.bytes (Faulty.take_error h)

/-! ## Calls -/

/-- A call that reads. -/
inductive ReadCall where
  | read (n : Nat)
  | readLine
  | receiveFrame
  deriving DecidableEq, Repr

/-- What a call that reads answers. -/
inductive ReadAnswer where
  | raw (result : Except IoError ByteArray)
  | line (result : Except IoError (Option String))
  | frame (result : Except IoError (Option ByteArray))

/-- The answer of a call that fails. -/
def ReadCall.failure : ReadCall → IoError → ReadAnswer
  | read _, e => .raw (.error e)
  | readLine, e => .line (.error e)
  | receiveFrame, e => .frame (.error e)

/-- Why a call fails without a line. -/
inductive Fails (σ : Type) [ByteStream σ] : ReadCall → IoError → Prop where
  | refill {call : ReadCall} {e : IoError} (gives : Gives σ e) : Fails σ call e
  | lineTooLong : Fails σ .readLine (.stated .invalidData "line too long")
  | frameTooLarge : Fails σ .receiveFrame (.stated .invalidData "frame too large")
  | cutOff : Fails σ .receiveFrame (.stated .unexpectedEof "peer closed mid-message")

/-- The bytes that a call takes, told by its answer.  A line is taken with its ending, whether it is text
    or not; the last one has no ending.  A frame is taken with its header. -/
inductive Consumes (σ : Type) [ByteStream σ] : ReadCall → ReadAnswer → List UInt8 → Prop where
  | raw {n : Nat} {bytes : ByteArray} (limit : bytes.size ≤ n) :
      Consumes σ (.read n) (.raw (.ok bytes)) bytes.data.toList
  | line {line : List UInt8} {answer : Except IoError (Option String)} (clean : 10 ∉ line)
      (told : Line.Told (Line.unreturned line) answer) :
      Consumes σ .readLine (.line answer) (line ++ [10])
  | lastLine {line : List UInt8} {answer : Except IoError (Option String)} (clean : 10 ∉ line)
      (some : line ≠ []) (told : Line.Told line answer) : Consumes σ .readLine (.line answer) line
  | noLine : Consumes σ .readLine (.line (.ok none)) []
  | frame {payload : ByteArray} {bytes : List UInt8} (whole : Frame.Sequence bytes [payload] []) :
      Consumes σ .receiveFrame (.frame (.ok (some payload))) bytes
  | noFrame : Consumes σ .receiveFrame (.frame (.ok none)) []
  | failed (call : ReadCall) {e : IoError} (why : Fails σ call e) : Consumes σ call (call.failure e) []

/-- A call that finds the line too long takes nothing, unlike one that reads a line that is not text. -/
theorem Consumes.eq_nil_of_tooLong {bytes : List UInt8}
    (h : Consumes σ .readLine (.line (.error (.stated .invalidData "line too long"))) bytes) :
    bytes = [] := by
  generalize hanswer : ReadAnswer.line (.error (.stated .invalidData "line too long")) = answer at h
  cases h with
  | line clean told =>
      cases hanswer
      exact absurd rfl told.ne_tooLong
  | lastLine clean some told =>
      cases hanswer
      exact absurd rfl told.ne_tooLong
  | noLine => rfl
  | failed call why => rfl

namespace Socket

/-- One call. -/
def perform (s : Socket) (stream : σ) : ReadCall → ReadAnswer × Socket × σ
  | .read n => ((s.read stream n).map .raw id)
  | .readLine => ((s.readLine stream).map .line id)
  | .receiveFrame => ((s.receiveFrame stream).map .frame id)

/-- Calls one after the other, with what they answer. -/
def performs (s : Socket) (stream : σ) : List ReadCall → List (ReadCall × ReadAnswer) × Socket × σ
  | [] => ([], s, stream)
  | call :: calls =>
    let (answer, s, stream) := s.perform stream call
    let (later, s, stream) := s.performs stream calls
    ((call, answer) :: later, s, stream)

/-! ## One call -/

section One

variable {unread : σ → List UInt8} {s : Socket} {stream : σ}

/-- A refill takes nothing. -/
theorem outstanding_refill (hstream : Lossless unread) (hopen : s.isOpen = true) {n : Nat}
    {chunk : ByteArray} {rest : σ} (htake : s.takeNew stream n = (.ok chunk, rest)) :
    outstanding unread { s with pending := s.pending ++ chunk } rest =
      outstanding unread s stream := by
  rw [takeNew, if_pos hopen] at htake
  rw [outstanding, outstanding, ByteArray.data_append, Array.toList_append, List.append_assoc,
    hstream.taken htake]

theorem outstanding_nothing (hstream : Lossless unread) (hopen : s.isOpen = true) {n : Nat}
    {chunk : ByteArray} {rest : σ} (htake : s.takeNew stream n = (.ok chunk, rest))
    (hnothing : chunk.size = 0) : outstanding unread s rest = outstanding unread s stream := by
  rw [takeNew, if_pos hopen] at htake
  rw [outstanding, outstanding, ← hstream.taken htake, ByteArray.size_eq_zero_iff.mp hnothing]
  rfl

/-- A refill that fails takes nothing either, and it is the stream that fails. -/
theorem refill_failed (hstream : Lossless unread) (hopen : s.isOpen = true) {n : Nat} {e : IoError}
    {rest : σ} (htake : s.takeNew stream n = (.error e, rest)) :
    outstanding unread s rest = outstanding unread s stream ∧ Gives σ e := by
  rw [takeNew, if_pos hopen] at htake
  exact ⟨congrArg (s.pending.data.toList ++ ·) (hstream.failed htake), _, _, _, htake⟩

/-- What filling up to `n` bytes comes to: it takes nothing. -/
inductive Refilled (unread : σ → List UInt8) (s : Socket) (stream : σ) (n : Nat) :
    Except IoError Bool × Socket × σ → Prop where
  | enough (pending : ByteArray) (rest : σ) (full : n ≤ pending.size)
      (same : outstanding unread { s with pending } rest = outstanding unread s stream) :
      Refilled unread s stream n (.ok true, { s with pending }, rest)
  | ended (rest : σ) (nothing : s.pending.size = 0)
      (same : outstanding unread s rest = outstanding unread s stream) :
      Refilled unread s stream n (.ok false, s, rest)
  | failed (e : IoError) (pending : ByteArray) (rest : σ) (why : Fails σ .receiveFrame e)
      (same : outstanding unread { s with pending } rest = outstanding unread s stream) :
      Refilled unread s stream n (.error e, { s with pending }, rest)

theorem refilled_fillTo (hstream : Lossless unread) (hopen : s.isOpen = true) (stream : σ)
    (n : Nat) :
    Refilled unread s stream n (s.fillTo stream n) := by
  fun_induction fillTo s stream n with
  | case1 s stream hshort e rest htake =>
      obtain ⟨hsame, hgives⟩ := refill_failed hstream hopen htake
      exact .failed e s.pending rest (.refill hgives) hsame
  | case2 s stream hshort chunk rest htake hchunk hempty =>
      exact .ended rest (eq_of_beq hempty)
        (outstanding_nothing hstream hopen htake hchunk)
  | case3 s stream hshort chunk rest htake hchunk hsome =>
      exact .failed _ s.pending rest .cutOff
        (outstanding_nothing hstream hopen htake hchunk)
  | case4 s stream hshort chunk rest htake hchunk ih =>
      have hrefill := outstanding_refill hstream hopen htake
      have hlater := ih hopen
      generalize fillTo { s with pending := s.pending ++ chunk } rest n = result at hlater
      cases hlater with
      | enough pending later full same => exact .enough pending later full (same.trans hrefill)
      | ended later nothing same =>
          rw [ByteArray.size_append] at nothing
          omega
      | failed e pending later why same => exact .failed e pending later why (same.trans hrefill)
  | case5 s stream hfull => exact .enough s.pending stream (Nat.le_of_not_lt hfull) rfl

/-- What a call comes to: its own bytes are taken off the front of what is outstanding. -/
inductive Performed (unread : σ → List UInt8) (s : Socket) (stream : σ) (call : ReadCall) :
    ReadAnswer × Socket × σ → Prop where
  | intro {answer : ReadAnswer} {pending : ByteArray} {rest : σ} (bytes : List UInt8)
      (consumes : Consumes σ call answer bytes)
      (taken : outstanding unread s stream = bytes ++ outstanding unread { s with pending } rest) :
      Performed unread s stream call (answer, { s with pending }, rest)

/-- A raw read. -/
theorem performed_read (hstream : Lossless unread) (hopen : s.isOpen = true) (n : Nat) :
    Performed unread s stream (.read n) (s.perform stream (.read n)) := by
  rw [perform, read]
  split
  · refine .intro _ (.raw ?_) (outstanding_split unread s stream n)
    rw [ByteArray.size_extract]
    omega
  · generalize htake : s.takeNew stream n = result
    obtain ⟨_ | chunk, rest⟩ := result
    · obtain ⟨hsame, hgives⟩ := refill_failed hstream hopen htake
      exact .intro [] (.failed (.read n) (.refill hgives)) hsame.symm
    · rename_i hnone
      have hempty : s.pending.size = 0 := by simpa [hasPending, ByteArray.isEmpty] using hnone
      rw [takeNew, if_pos hopen] at htake
      refine .intro chunk.data.toList (.raw (hstream.limited htake)) ?_
      rw [outstanding, outstanding, ByteArray.size_eq_zero_iff.mp hempty]
      exact (hstream.taken htake).symm

/-- The bytes of a frame, once they are pending, are one. -/
theorem sequence_front {b : ByteArray} {length : Nat} (hfull : 4 + length ≤ b.size)
    (hsmall : length ≤ maxFrameLength) (hannounced : Frame.announced (b.extract 0 4) = length) :
    Frame.Sequence (b.extract 0 (4 + length)).data.toList [b.extract 4 (4 + length)] [] := by
  have hlong : 4 + length ≤ b.data.toList.length := hfull
  have hsize : (b.extract 4 (4 + length)).size = length := by
    rw [ByteArray.size_extract]
    omega
  rcases hbytes : b.data.toList with _ | ⟨b₀, _ | ⟨b₁, _ | ⟨b₂, _ | ⟨b₃, tail⟩⟩⟩⟩ <;>
    rw [hbytes] at hlong <;> simp only [List.length_cons, List.length_nil] at hlong <;>
    try omega
  have hheader : (b.extract 0 4).data.toList = [b₀, b₁, b₂, b₃] := by
    rw [toList_extract, hbytes]
    rfl
  have hpayload : (b.extract 4 (4 + length)).data.toList = tail.take length := by
    rw [toList_extract, hbytes, Nat.add_sub_cancel_left]
    rfl
  have hwhole : (b.extract 0 (4 + length)).data.toList =
      b₀ :: b₁ :: b₂ :: b₃ :: ((b.extract 4 (4 + length)).data.toList ++ []) := by
    rw [hpayload, toList_extract, hbytes, List.append_nil, Nat.add_comm 4]
    rfl
  rw [hwhole]
  rw [Frame.announced_eq hheader, ← hsize] at hannounced
  exact .frame hannounced (hsize.symm ▸ hsmall) (.done [])

/-- What is pending after a refill begins with what was pending before it. -/
theorem extract_of_same {p q : ByteArray} {xs ys : List UInt8}
    (h : p.data.toList ++ xs = q.data.toList ++ ys) {n : Nat} (hp : n ≤ p.size) (hq : n ≤ q.size) :
    p.extract 0 n = q.extract 0 n := by
  have htake := congrArg (List.take n) h
  rw [List.take_append_of_le_length hp, List.take_append_of_le_length hq] at htake
  refine ByteArray.ext (Array.toList_inj.mp ?_)
  rw [toList_extract, toList_extract]
  exact htake

/-- A frame. -/
theorem performed_receiveFrame (hstream : Lossless unread) (hopen : s.isOpen = true) :
    Performed unread s stream .receiveFrame (s.perform stream .receiveFrame) := by
  have hheader := refilled_fillTo hstream hopen stream 4
  rw [perform, receiveFrame]
  generalize s.fillTo stream 4 = result at hheader
  cases hheader with
  | failed e pending rest why same => exact .intro [] (.failed _ why) same.symm
  | ended rest nothing same => exact .intro [] .noFrame same.symm
  | enough pending rest full same =>
      simp only
      split
      · exact .intro [] (.failed _ .frameTooLarge) same.symm
      · rename_i hsmall
        have hpayload := refilled_fillTo hstream (s := { s with pending }) hopen rest
          (4 + Frame.announced (pending.extract 0 4))
        generalize fillTo { s with pending } rest (4 + Frame.announced (pending.extract 0 4)) = result
          at hpayload
        cases hpayload with
        | failed e pending' later why same' => exact .intro [] (.failed _ why) (same'.trans same).symm
        | ended later nothing same' =>
            have hnothing : pending.size = 0 := nothing
            omega
        | enough pending' later full' same' =>
            have hfour : 4 ≤ pending'.size := by omega
            have hsame : pending'.extract 0 4 = pending.extract 0 4 := extract_of_same same' hfour full
            refine .intro _ (.frame (sequence_front full' (Nat.le_of_not_lt hsmall)
              (congrArg Frame.announced hsame))) ?_
            rw [← same, ← same']
            exact outstanding_split unread _ later _

/-- A call goes on as well from where a refill has brought bytes. -/
theorem Performed.of_refill {call : ReadCall} {pending : ByteArray} {rest : σ}
    {result : ReadAnswer × Socket × σ} (h : Performed unread { s with pending } rest call result)
    (hsame : outstanding unread { s with pending } rest = outstanding unread s stream) :
    Performed unread s stream call result := by
  cases h with
  | intro bytes consumes taken => exact .intro bytes consumes (hsame.symm.trans taken)

/-- A line.  None of the first `scanned` pending bytes is a newline. -/
theorem performed_readLineFrom (hstream : Lossless unread) (hopen : s.isOpen = true) {scanned : Nat}
    (hscanned : 10 ∉ s.pending.data.toList.take scanned) :
    Performed unread s stream .readLine ((s.readLineFrom stream scanned).map .line id) := by
  fun_induction readLineFrom s stream scanned with
  | case1 s stream scanned place hplace =>
      obtain ⟨hclean, hpending⟩ := newline?_eq_some hplace hscanned
      have hlength : (s.pending.data.toList.take place).length = place :=
        List.length_take_of_le (Nat.le_of_lt (newline?_lt hplace))
      have hfront : (s.pending.extract 0 (place + 1)).data.toList =
          s.pending.data.toList.take place ++ [10] := by
        rw [toList_extract, List.drop_zero, hpending, List.take_left' hlength, Nat.sub_zero,
          List.take_append, hlength, Nat.add_sub_cancel_left,
          List.take_of_length_le (Nat.le_succ_of_le (Nat.le_of_eq hlength))]
        rfl
      have htold := told_lineText (withoutReturn (s.pending.extract 0 place))
      rw [toList_withoutReturn, toList_extract, List.drop_zero, Nat.sub_zero] at htold
      refine .intro _ (.line hclean htold) ?_
      rw [← hfront]
      exact outstanding_split unread s stream (place + 1)
  | case2 s stream scanned hnone hlong =>
      exact .intro [] (.failed .readLine .lineTooLong) rfl
  | case3 s stream scanned hnone hlimit e rest htake =>
      obtain ⟨hsame, hgives⟩ := refill_failed hstream hopen htake
      exact .intro [] (.failed .readLine (.refill hgives)) hsame.symm
  | case4 s stream scanned hnone hlimit chunk rest htake hchunk hempty =>
      exact .intro [] .noLine (outstanding_nothing hstream hopen htake hchunk).symm
  | case5 s stream scanned hnone hlimit chunk rest htake hchunk hsome =>
      refine .intro _ (.lastLine (newline?_eq_none hnone hscanned) ?_ (told_lineText s.pending)) ?_
      · exact fun h => hsome (beq_iff_eq.mpr (congrArg List.length h))
      · exact (outstanding_nothing hstream hopen htake hchunk).symm
  | case6 s stream scanned hnone hlimit chunk rest htake hchunk n ih =>
      -- what was pending before the refill held no newline
      have hscanned' : 10 ∉ (s.pending ++ chunk).data.toList.take s.pending.size := by
        rw [ByteArray.data_append, Array.toList_append,
          List.take_left' (show s.pending.data.toList.length = s.pending.size from rfl)]
        exact newline?_eq_none hnone hscanned
      exact (ih hopen hscanned').of_refill (outstanding_refill hstream hopen htake)

/-- **A CALL TAKES ITS OWN BYTES** off the front of what is outstanding. -/
theorem performed_perform (hstream : Lossless unread) (hopen : s.isOpen = true) (stream : σ)
    (call : ReadCall) :
    Performed unread s stream call (s.perform stream call) := by
  cases call with
  | read n => exact performed_read hstream hopen n
  | readLine => exact performed_readLineFrom hstream hopen List.not_mem_nil
  | receiveFrame => exact performed_receiveFrame hstream hopen

end One

/-! ## Call after call -/

section Many

variable {unread : σ → List UInt8} {s : Socket} {stream : σ}

/-- What calls one after the other come to. -/
theorem exists_consumed (hstream : Lossless unread) (hopen : s.isOpen = true) (stream : σ)
    (calls : List ReadCall) :
    ∃ said pending rest consumed, s.performs stream calls = (said, { s with pending }, rest) ∧
      said.map Prod.fst = calls ∧
      List.Forall₂ (fun e bytes => Consumes σ e.1 e.2 bytes) said consumed ∧
      outstanding unread s stream =
        consumed.flatten ++ outstanding unread { s with pending } rest := by
  induction calls generalizing s stream with
  | nil => exact ⟨[], s.pending, stream, [], rfl, rfl, .nil, rfl⟩
  | cons call calls ih =>
      have hperformed := performed_perform hstream hopen stream call
      generalize hcall : s.perform stream call = result at hperformed
      cases hperformed with
      | intro bytes consumes taken =>
          rename_i answer pending rest
          obtain ⟨said, pending', later, consumed, hlater, hcalls, hconsumed, hrest⟩ :=
            ih (s := { s with pending }) hopen rest
          refine ⟨(call, answer) :: said, pending', later, bytes :: consumed, ?_,
            congrArg (call :: ·) hcalls, .cons consumes hconsumed, ?_⟩
          · simp only [performs, hcall, hlater]
          · rw [taken, hrest, List.flatten_cons, List.append_assoc]

/-! ## After closing -/

/-- A closed socket has nothing pending. -/
theorem close_pending (s : Socket) (stream : σ) : (s.close stream).1.pending = .empty := by
  unfold close
  split <;> rfl

theorem close_isOpen (s : Socket) (stream : σ) : (s.close stream).1.isOpen = false := by
  unfold close
  split
  · rfl
  · rename_i hclosed
    exact Bool.eq_false_iff.mpr hclosed

/-- On a closed socket a call fails before it reads. -/
theorem perform_closed (hclosed : s.isOpen = false) (hempty : s.pending = .empty) (stream : σ)
    (call : ReadCall) : s.perform stream call = (call.failure closedError, s, stream) := by
  have htake : ∀ n, s.takeNew stream n = (.error closedError, stream) := fun n =>
    if_neg (ne_true_of_eq_false hclosed)
  have hnothing : s.hasPending = false := by
    rw [hasPending, hempty]
    rfl
  cases call with
  | read n =>
      rw [perform, read, if_neg (ne_true_of_eq_false hnothing), htake]
      rfl
  | readLine =>
      have hnone : newline? s.pending 0 = none := by
        rw [hempty, newline?]
        rfl
      rw [perform, readLine, readLineFrom, hnone]
      simp only
      rw [if_neg (by rw [hempty]; exact Nat.not_lt_zero _), htake]
      rfl
  | receiveFrame =>
      rw [perform, receiveFrame, fillTo, if_pos (by rw [hempty]; exact Nat.zero_lt_succ _), htake]
      rfl

theorem performs_closed (hclosed : s.isOpen = false) (hempty : s.pending = .empty) (stream : σ)
    (calls : List ReadCall) :
    s.performs stream calls =
      (calls.map fun call => (call, call.failure closedError), s, stream) := by
  induction calls with
  | nil => rfl
  | cons call calls ih => simp only [performs, perform_closed hclosed hempty, ih, List.map_cons]

/-- **NO WAY OF READING LOSES A BYTE**: raw reads, lines and frames in any order, on an open socket and a
    stream that loses nothing, whatever its pieces are and whenever it fails.  Each call takes the bytes of
    its answer, a call that fails takes none, and what the calls have taken with what is pending and what
    is unread are the bytes that were pending and unread before them.

    Once a socket is closed nothing is pending, and every later call fails. -/
theorem mixed_reads (hstream : Lossless unread) (hopen : s.isOpen = true) (stream : σ)
    (calls : List ReadCall) :
    (∃ said pending rest consumed, s.performs stream calls = (said, { s with pending }, rest) ∧
      said.map Prod.fst = calls ∧
      List.Forall₂ (fun e bytes => Consumes σ e.1 e.2 bytes) said consumed ∧
      consumed.flatten ++ (pending.data.toList ++ unread rest) =
        s.pending.data.toList ++ unread stream) ∧
    ∀ (left : Socket) (rest : σ) (later : List ReadCall),
      (left.close rest).1.pending = .empty ∧
      (left.close rest).1.performs (left.close rest).2.1 later =
        (later.map fun call => (call, call.failure closedError), (left.close rest).1,
          (left.close rest).2.1) := by
  refine ⟨?_, fun left rest later => ⟨close_pending left rest, ?_⟩⟩
  · obtain ⟨said, pending, rest, consumed, hperforms, hcalls, hconsumed, hsame⟩ :=
      exists_consumed hstream hopen stream calls
    exact ⟨said, pending, rest, consumed, hperforms, hcalls, hconsumed, hsame.symm⟩
  · exact performs_closed (close_isOpen left rest) (close_pending left rest) _ later

end Many

/-- A line, a frame and a raw byte in pieces that cut both; the second and the fourth refill fail. -/
def interrupted : Faulty where
  arrivals := { pieces := [⟨#[97]⟩, ⟨#[13, 10, 0, 0, 0]⟩, ⟨#[1, 98, 99]⟩] }
  refills := [none, some wouldBlock, none, some (.system 104)]

theorem mixed_reads_interrupted :
    ∃ said pending rest consumed,
      performs { descriptor := 4 } interrupted
          [.readLine, .readLine, .receiveFrame, .receiveFrame, .read 5] =
        (said, { descriptor := 4, pending }, rest) ∧
      List.Forall₂ (fun e bytes => Consumes Faulty e.1 e.2 bytes) said consumed ∧
      consumed.flatten ++ (pending.data.toList ++ rest.arrivals.bytes) =
        [97, 13, 10, 0, 0, 0, 1, 98, 99] := by
  obtain ⟨⟨said, pending, rest, consumed, hperforms, -, hconsumed, hsame⟩, -⟩ :=
    mixed_reads (s := { descriptor := 4 }) lossless_faulty rfl interrupted
      [.readLine, .readLine, .receiveFrame, .receiveFrame, .read 5]
  exact ⟨said, pending, rest, consumed, hperforms, hconsumed, hsame.trans (by decide)⟩

end Socket

end PooledServer.Net
