import PooledServer.Net.Frame
import PooledServer.Proofs.Net.Ahead

/-!
# Frames are an exact code

    Whatever bytes a peer sends, they are complete frames and then something that begins with none
    (`Frame.Sequence`, `Frame.Stops`).  A receiver gets the payloads of these frames one by one and after
    them, however often it asks, the one answer that the rest of the bytes calls for: an end, a frame that
    is too large, or a frame that was cut off (`Socket.receives_frames`).  How the bytes were cut into
    pieces makes no difference, for a call looks at nothing but the bytes ahead of the socket. -/

namespace PooledServer.Net

namespace Frame

/-! ## What bytes say -/

/-- The number that four bytes write, the highest first. -/
def bigEndian (a b c d : UInt8) : Nat :=
  a.toNat * 16777216 + b.toNat * 65536 + c.toNat * 256 + d.toNat

/-- The bytes are complete frames with these payloads, and then `rest`. -/
inductive Sequence : List UInt8 → List ByteArray → List UInt8 → Prop where
  | done (rest : List UInt8) : Sequence rest [] rest
  | frame {a b c d : UInt8} {payload : ByteArray} {bytes rest : List UInt8}
      {payloads : List ByteArray} (announced : bigEndian a b c d = payload.size)
      (small : payload.size ≤ maxFrameLength) (later : Sequence bytes payloads rest) :
      Sequence (a :: b :: c :: d :: (payload.data.toList ++ bytes)) (payload :: payloads) rest

/-- How a sequence of frames stops. -/
inductive Ending where
  | finished
  | tooLarge
  | cutOff
  deriving DecidableEq, Repr

/-- The bytes begin with no complete frame, for this reason. -/
inductive Stops : List UInt8 → Ending → Prop where
  | finished : Stops [] .finished
  | tooLarge {a b c d : UInt8} {bytes : List UInt8} (large : maxFrameLength < bigEndian a b c d) :
      Stops (a :: b :: c :: d :: bytes) .tooLarge
  | cutHeader {bytes : List UInt8} (some : bytes ≠ []) (short : bytes.length < 4) :
      Stops bytes .cutOff
  | cutPayload {a b c d : UInt8} {bytes : List UInt8} (small : bigEndian a b c d ≤ maxFrameLength)
      (short : bytes.length < bigEndian a b c d) : Stops (a :: b :: c :: d :: bytes) .cutOff

/-- What a receiver is told at each stop. -/
def Ending.answer : Ending → Except IoError (Option ByteArray)
  | finished => .ok none
  | tooLarge => .error (.stated .invalidData "frame too large")
  | cutOff => .error (.stated .unexpectedEof "peer closed mid-message")

/-- Bytes are frames as far as they go. -/
theorem exists_sequence : ∀ bytes : List UInt8,
    ∃ payloads rest ending, Sequence bytes payloads rest ∧ Stops rest ending
  | [] => ⟨[], [], .finished, .done _, .finished⟩
  | [_] => ⟨[], _, .cutOff, .done _, .cutHeader (List.cons_ne_nil _ _) (by simp)⟩
  | [_, _] => ⟨[], _, .cutOff, .done _, .cutHeader (List.cons_ne_nil _ _) (by simp)⟩
  | [_, _, _] => ⟨[], _, .cutOff, .done _, .cutHeader (List.cons_ne_nil _ _) (by simp)⟩
  | a :: b :: c :: d :: bytes => by
    by_cases hlarge : maxFrameLength < bigEndian a b c d
    · exact ⟨[], _, .tooLarge, .done _, .tooLarge hlarge⟩
    have hsmall : bigEndian a b c d ≤ maxFrameLength := Nat.le_of_not_lt hlarge
    by_cases hshort : bytes.length < bigEndian a b c d
    · exact ⟨[], _, .cutOff, .done _, .cutPayload hsmall hshort⟩
    -- the payload is whole, and what follows it is shorter
    have hsize : (bytes.take (bigEndian a b c d)).length = bigEndian a b c d :=
      List.length_take_of_le (Nat.le_of_not_lt hshort)
    obtain ⟨payloads, rest, ending, hlater, hstops⟩ := exists_sequence (bytes.drop (bigEndian a b c d))
    refine ⟨⟨⟨bytes.take (bigEndian a b c d)⟩⟩ :: payloads, rest, ending, ?_, hstops⟩
    let payload : ByteArray := ⟨⟨bytes.take (bigEndian a b c d)⟩⟩
    have hframe : Sequence
        (a :: b :: c :: d :: (payload.data.toList ++ bytes.drop (bigEndian a b c d)))
        (payload :: payloads) rest :=
      hlater.frame hsize.symm (Nat.le_trans (Nat.le_of_eq hsize) hsmall)
    rwa [List.take_append_drop] at hframe
termination_by bytes => bytes.length

/-- Two payloads of the announced size at the beginning of the same bytes are one. -/
theorem payload_unique {p q : ByteArray} {bytes rest : List UInt8} (hsize : p.size = q.size)
    (h : p.data.toList ++ bytes = q.data.toList ++ rest) : p = q ∧ bytes = rest := by
  obtain ⟨hpayload, hrest⟩ := List.append_inj h hsize
  exact ⟨ByteArray.ext (Array.toList_inj.mp hpayload), hrest⟩

/-- Where bytes stop no frame begins. -/
theorem Stops.none {bytes rest : List UInt8} {ending : Ending} {payloads : List ByteArray}
    (hstops : Stops bytes ending) (h : Sequence bytes payloads rest) : payloads = [] := by
  cases h with
  | done => rfl
  | frame announced small later =>
    cases hstops with
    | tooLarge large =>
      rw [announced] at large
      exact absurd small (Nat.not_le_of_lt large)
    | cutHeader some short =>
      simp only [List.length_cons] at short
      omega
    | cutPayload small short =>
      rw [announced, List.length_append] at short
      exact absurd (Nat.lt_of_le_of_lt (Nat.le_add_right _ _) short) (Nat.lt_irrefl _)

/-- A sequence of frames that goes on to where the bytes stop is the longest there is. -/
theorem Sequence.longest {bytes rest rest' : List UInt8} {payloads others : List ByteArray}
    {ending : Ending} (h : Sequence bytes payloads rest) (hstops : Stops rest ending)
    (hothers : Sequence bytes others rest') : others <+: payloads := by
  induction h generalizing others with
  | done rest =>
    obtain rfl := hstops.none hothers
    exact List.nil_prefix
  | frame announced small later ih =>
    generalize hbytes : _ :: _ :: _ :: _ :: (_ ++ _) = bytes at hothers
    cases hothers with
    | done => exact List.nil_prefix
    | frame announced' small' later' =>
      injection hbytes with ha hbytes
      injection hbytes with hb hbytes
      injection hbytes with hc hbytes
      injection hbytes with hd hbytes
      subst ha hb hc hd
      obtain ⟨rfl, rfl⟩ := payload_unique (announced.symm.trans announced') hbytes
      exact List.cons_prefix_cons.mpr ⟨rfl, ih hstops later'⟩

/-! ## Headers -/

/-- What four bytes announce is the number that they write. -/
theorem announced_eq {header : ByteArray} {a b c d : UInt8} (h : header.data.toList = [a, b, c, d]) :
    announced header = bigEndian a b c d := by
  rw [announced, ← Array.foldl_toList, h]
  simp only [List.foldl_cons, List.foldl_nil, bigEndian]
  omega

/-- The header of a frame writes the size of its payload. -/
theorem bigEndian_header {n : Nat} (h : n ≤ maxFrameLength) :
    ∃ a b c d, (header n).data.toList = [a, b, c, d] ∧ bigEndian a b c d = n := by
  refine ⟨_, _, _, _, rfl, ?_⟩
  simp only [bigEndian, Nat.toUInt8, UInt8.toNat_ofNat']
  simp only [maxFrameLength] at h
  omega

/-- What is sent for a list of payloads is a sequence of frames with them. -/
theorem sequence_encode {payloads : List ByteArray} (h : ∀ p ∈ payloads, p.size ≤ maxFrameLength) :
    Sequence (payloads.flatMap fun p => (encode p).data.toList) payloads [] := by
  induction payloads with
  | nil => exact .done []
  | cons p payloads ih =>
    have hsmall : p.size ≤ maxFrameLength := h p (List.mem_cons_self ..)
    obtain ⟨a, b, c, d, hheader, hsize⟩ := bigEndian_header hsmall
    have hlater := ih fun q hq => h q (List.mem_cons_of_mem _ hq)
    have hframe := hlater.frame hsize hsmall
    simp only [List.flatMap_cons, encode, ByteArray.data_append, Array.toList_append, hheader]
    exact hframe

end Frame

namespace Socket

/-! ## Receiving -/

section Receive

variable {s : Socket} {a : Arrivals}

/-- The bytes of a header, once they are pending, announce what they write. -/
theorem announced_pending {b₀ b₁ b₂ b₃ : UInt8} {bytes : List UInt8}
    (h : s.ahead a = b₀ :: b₁ :: b₂ :: b₃ :: bytes) (hfull : 4 ≤ s.pending.size) :
    Frame.announced (s.pending.extract 0 4) = Frame.bigEndian b₀ b₁ b₂ b₃ := by
  refine Frame.announced_eq ?_
  rw [ByteArray.data_extract, Array.toList_extract, List.extract_eq_take_drop]
  exact (ahead_front [b₀, b₁, b₂, b₃] h hfull).1

/-- A complete frame ahead is received, and the socket goes on after it. -/
theorem receiveFrame_frame (hopen : s.isOpen = true) (hcut : a.Cut) {b₀ b₁ b₂ b₃ : UInt8}
    {payload : ByteArray} {bytes : List UInt8} (announced : Frame.bigEndian b₀ b₁ b₂ b₃ = payload.size)
    (small : payload.size ≤ maxFrameLength)
    (h : s.ahead a = b₀ :: b₁ :: b₂ :: b₃ :: (payload.data.toList ++ bytes)) :
    ∃ pending rest, s.receiveFrame a = (.ok (some payload), { s with pending }, rest) ∧ rest.Cut ∧
      ahead { s with pending } rest = bytes := by
  let front := b₀ :: b₁ :: b₂ :: b₃ :: payload.data.toList
  have hsize : front.length = 4 + payload.size := Nat.add_comm payload.size 4
  have hlong : 4 + payload.size ≤ (s.ahead a).length := by
    rw [h, ← hsize]
    exact Nat.le_trans (Nat.le_add_right _ bytes.length) (Nat.le_of_eq List.length_append.symm)
  -- first the header comes to be pending, then the payload
  obtain ⟨pending₁, rest₁, hfill₁, hcut₁, hsame₁, hfull₁⟩ :=
    fillTo_enough hopen hcut (Nat.le_trans (Nat.le_add_right 4 _) hlong)
  have hannounced := announced_pending (hsame₁.trans h) hfull₁
  obtain ⟨pending₂, rest₂, hfill₂, hcut₂, hsame₂, hfull₂⟩ :=
    fillTo_enough (s := { s with pending := pending₁ }) hopen hcut₁ (hsame₁ ▸ hlong)
  obtain ⟨hfront, hback⟩ := ahead_front (s := { s with pending := pending₂ }) front
    ((hsame₂.trans hsame₁).trans h) (hsize ▸ hfull₂)
  refine ⟨_, rest₂, ?_, hcut₂, hback⟩
  have hpayload : pending₂.extract 4 (4 + payload.size) = payload := by
    refine ByteArray.ext (Array.toList_inj.mp ?_)
    rw [ByteArray.data_extract, Array.toList_extract, List.extract_eq_take_drop, ← List.drop_take,
      ← hsize, hfront]
    rfl
  simp only [receiveFrame, hfill₁, hannounced, announced, hfill₂, hpayload, hsize]
  rw [if_neg (Nat.not_lt_of_le small)]

/-- Where no frame begins the receiver is told so, and nothing is used up. -/
theorem receiveFrame_stops (hopen : s.isOpen = true) (hcut : a.Cut) {ending : Frame.Ending}
    (h : Frame.Stops (s.ahead a) ending) :
    ∃ pending rest, s.receiveFrame a = (ending.answer, { s with pending }, rest) ∧ rest.Cut ∧
      ahead { s with pending } rest = s.ahead a := by
  generalize hahead : s.ahead a = bytes at h
  cases h with
  | finished =>
    obtain ⟨rest, hfill, hcut', hgone⟩ := fillTo_ended hopen hcut (by decide : 4 ≠ 0) hahead
    refine ⟨s.pending, rest, ?_, hcut', hgone⟩
    rw [receiveFrame, hfill]
    rfl
  | tooLarge large =>
    obtain ⟨pending, rest, hfill, hcut', hsame, hfull⟩ :=
      fillTo_enough hopen hcut (n := 4) (by rw [hahead]; simp)
    have hannounced := announced_pending (hsame.trans hahead) hfull
    refine ⟨pending, rest, ?_, hcut', hsame.trans hahead⟩
    simp only [receiveFrame, hfill, hannounced]
    exact if_pos large
  | cutHeader some short =>
    obtain ⟨pending, rest, hfill, hcut', hsame⟩ :=
      fillTo_cutOff hopen hcut (hahead ▸ short) (hahead ▸ some)
    refine ⟨pending, rest, ?_, hcut', hsame.trans hahead⟩
    rw [receiveFrame, hfill]
    rfl
  | cutPayload small short =>
    obtain ⟨pending₁, rest₁, hfill₁, hcut₁, hsame₁, hfull₁⟩ :=
      fillTo_enough hopen hcut (n := 4) (by rw [hahead]; simp)
    have hannounced := announced_pending (hsame₁.trans hahead) hfull₁
    obtain ⟨pending₂, rest₂, hfill₂, hcut₂, hsame₂⟩ :=
      fillTo_cutOff (s := { s with pending := pending₁ }) hopen hcut₁
        (n := 4 + Frame.announced (pending₁.extract 0 4))
        (by rw [hsame₁, hahead]; simp only [List.length_cons, hannounced]; omega)
        (by rw [hsame₁, hahead]; exact List.cons_ne_nil _ _)
    refine ⟨pending₂, rest₂, ?_, hcut₂, (hsame₂.trans hsame₁).trans hahead⟩
    rw [hannounced] at hfill₂
    simp only [receiveFrame, hfill₁, hannounced, hfill₂]
    exact if_neg (Nat.not_lt_of_le small)

/-- **EVERY CALL GETS THE NEXT FRAME**, and after the last the answer that what follows calls for. -/
theorem answers_of_sequence {bytes rest : List UInt8} {payloads : List ByteArray}
    {ending : Frame.Ending} (hseq : Frame.Sequence bytes payloads rest)
    (hstops : Frame.Stops rest ending) (hopen : s.isOpen = true) (hcut : a.Cut)
    (h : s.ahead a = bytes) (n : Nat) :
    answers receiveFrame s a n =
      (payloads.take n).map (fun p => .ok (some p)) ++
        List.replicate (n - payloads.length) ending.answer := by
  -- by the frames, and after the last one by the calls
  induction hseq generalizing s a n with
  | done rest =>
    rw [List.take_nil]
    induction n generalizing s a with
    | zero => rfl
    | succ n ih =>
      obtain ⟨pending, later, hreceive, hcut', hsame⟩ := receiveFrame_stops hopen hcut (h ▸ hstops)
      rw [answers_succ hreceive, ih (s := { s with pending }) hopen hcut' (hsame.trans h)]
      rfl
  | frame announced small later ih =>
    cases n with
    | zero =>
      rw [Nat.zero_sub]
      rfl
    | succ n =>
      obtain ⟨pending, later, hreceive, hcut', hback⟩ :=
        receiveFrame_frame hopen hcut announced small h
      rw [answers_succ hreceive, ih (s := { s with pending }) hstops hopen hcut' hback n,
        List.length_cons, Nat.add_sub_add_right]
      rfl

end Receive

/-! ## Sending -/

/-- Sends payloads one after the other, as long as that works. -/
def sendFrames {σ : Type} [ByteStream σ] (s : Socket) (stream : σ) :
    List ByteArray → Except IoError Unit × σ
  | [] => (.ok (), stream)
  | payload :: payloads =>
    match s.sendFrame stream payload with
    | (.error e, stream) => (.error e, stream)
    | (.ok (), stream) => sendFrames s stream payloads

/-- What is sent are the frames, one after the other. -/
theorem sendFrames_eq {s : Socket} (hopen : s.isOpen = true) (a : Arrivals) {payloads : List ByteArray}
    (h : ∀ p ∈ payloads, p.size ≤ maxFrameLength) :
    (s.sendFrames a payloads).1 = .ok () ∧
    (s.sendFrames a payloads).2.sent.data.toList =
      a.sent.data.toList ++ payloads.flatMap fun p => (Frame.encode p).data.toList := by
  induction payloads generalizing a with
  | nil => exact ⟨rfl, (List.append_nil _).symm⟩
  | cons p payloads ih =>
    have hsend : s.sendFrame a p = (.ok (), { a with sent := a.sent ++ Frame.encode p }) := by
      rw [sendFrame, if_neg (Nat.not_lt_of_le (h p (List.mem_cons_self ..))), write, if_pos hopen]
      rfl
    obtain ⟨hok, hsent⟩ := ih { a with sent := a.sent ++ Frame.encode p }
      fun q hq => h q (List.mem_cons_of_mem _ hq)
    rw [sendFrames, hsend]
    refine ⟨hok, hsent.trans ?_⟩
    rw [ByteArray.data_append, Array.toList_append, List.append_assoc, List.flatMap_cons]

/-! ## The code -/

/-- **FRAMES ARE AN EXACT CODE**: an open socket with nothing pending, however its bytes arrive, receives
    the payloads of the longest sequence of complete frames that they begin with, and then, as often as
    it asks, the answer that the rest calls for.  If the bytes are what a socket sent for a list of
    payloads, it receives that list and then the end. -/
theorem receives_frames {s : Socket} {a : Arrivals} (hopen : s.isOpen = true)
    (hfresh : s.pending = .empty) (hcut : a.Cut) :
    (∃ payloads rest ending,
      Frame.Sequence a.bytes payloads rest ∧ Frame.Stops rest ending ∧
      (∀ others rest', Frame.Sequence a.bytes others rest' → others <+: payloads) ∧
      ∀ n, answers receiveFrame s a n =
        (payloads.take n).map (fun p => .ok (some p)) ++
          List.replicate (n - payloads.length) ending.answer) ∧
    ∀ (sender : Socket) (out : Arrivals) (payloads : List ByteArray), sender.isOpen = true →
      out.sent = .empty → (∀ p ∈ payloads, p.size ≤ maxFrameLength) →
      (sender.sendFrames out payloads).1 = .ok () ∧
      (a.bytes = (sender.sendFrames out payloads).2.sent.data.toList →
        ∀ n, answers receiveFrame s a n =
          (payloads.take n).map (fun p => .ok (some p)) ++
            List.replicate (n - payloads.length) (.ok none)) := by
  have hahead : s.ahead a = a.bytes := by
    rw [ahead, hfresh]
    rfl
  refine ⟨?_, ?_⟩
  · obtain ⟨payloads, rest, ending, hseq, hstops⟩ := Frame.exists_sequence a.bytes
    exact ⟨payloads, rest, ending, hseq, hstops, fun _ _ hothers => hseq.longest hstops hothers,
      answers_of_sequence hseq hstops hopen hcut hahead⟩
  · intro sender out payloads hsender hnew hsmall
    obtain ⟨hok, hsent⟩ := sendFrames_eq hsender out hsmall
    refine ⟨hok, fun hbytes n => ?_⟩
    rw [hsent, hnew] at hbytes
    exact answers_of_sequence (Frame.sequence_encode hsmall) .finished hopen hcut
      (hahead.trans hbytes) n

/-- A stream on which nothing arrives. -/
def silent : Arrivals where
  pieces := []

/-- Two frames, one of them empty, in pieces that cut both headers. -/
def cutFrames : Arrivals where
  pieces := [⟨#[0, 0]⟩, ⟨#[0, 2, 97]⟩, ⟨#[98, 0, 0, 0]⟩, ⟨#[0]⟩]

theorem receives_frames_cutFrames :
    cutFrames.Cut ∧
    (∃ payloads rest ending,
      Frame.Sequence cutFrames.bytes payloads rest ∧ Frame.Stops rest ending ∧
      (∀ others rest', Frame.Sequence cutFrames.bytes others rest' → others <+: payloads) ∧
      ∀ n, answers receiveFrame { descriptor := 4 } cutFrames n =
        (payloads.take n).map (fun p => .ok (some p)) ++
          List.replicate (n - payloads.length) ending.answer) ∧
    cutFrames.bytes =
      (sendFrames { descriptor := 5 } silent [⟨#[97, 98]⟩, .empty]).2.sent.data.toList ∧
    answers receiveFrame { descriptor := 4 } cutFrames 4 =
      [.ok (some ⟨#[97, 98]⟩), .ok (some .empty), .ok none, .ok none] := by
  have hcut : cutFrames.Cut := by
    unfold Arrivals.Cut
    decide
  have hsent : cutFrames.bytes =
      (sendFrames { descriptor := 5 } silent [⟨#[97, 98]⟩, .empty]).2.sent.data.toList := by
    decide
  obtain ⟨hany, hlist⟩ := receives_frames (s := { descriptor := 4 }) rfl rfl hcut
  refine ⟨hcut, hany, hsent, ?_⟩
  exact (hlist { descriptor := 5 } silent [⟨#[97, 98]⟩, .empty] rfl rfl (by decide)).2 hsent 4

end Socket

end PooledServer.Net
