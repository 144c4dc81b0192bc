import PooledServer.Proofs.Net.LineLimit

/-!
# A peer cannot grow a connection's buffer without limit

    What is pending grows by refills only, and a call makes a refill only because something is lacking: a
    newline within the limit on lines (`Socket.Unended`), or so many bytes (`Socket.Short`).  In both cases
    few enough bytes are pending, and one refill more brings at most one chunk (`Socket.Refills.size_le`).
    What a call finds may be beyond that, left by another kind of call or by one that has failed; but then
    nothing is lacking, and no refill is made.

    So the largest of the bounds of all calls holds at every moment (`Socket.Moment`) of every sequence of
    operations on a fresh socket (`Socket.pending_bounded`). -/

namespace PooledServer.Net

/-- A stream never gives more bytes than it is asked for. -/
def Modest (σ : Type) [ByteStream σ] : Prop :=
  ∀ (stream rest : σ) (n : Nat) (chunk : ByteArray),
    ByteStream.take stream n = (.ok chunk, rest) → chunk.size ≤ n

theorem Lossless.modest {σ : Type} [ByteStream σ] {unread : σ → List UInt8} (h : Lossless unread) :
    Modest σ := fun _ _ _ _ htake => h.limited htake

namespace Socket

open Line

variable {σ : Type} [ByteStream σ] {s s' : Socket} {stream stream' : σ} {n scanned : Nat}

/-! ## Refills -/

/-- From `s` on `stream` refills lead to `s'` on `stream'`.  Each is made because the socket lacks
    something. -/
inductive Refills (lacks : Socket → Prop) : Socket → σ → Socket → σ → Prop where
  | none (s : Socket) (stream : σ) : Refills lacks s stream s stream
  | more {s s' : Socket} {stream rest stream' : σ} {chunk : ByteArray} (lacking : lacks s)
      (take : s.takeNew stream chunkSize = (.ok chunk, rest)) (some : chunk.size ≠ 0)
      (later : Refills lacks { s with pending := s.pending ++ chunk } rest s' stream') :
      Refills lacks s stream s' stream'

/-- Fewer than `n` bytes are pending. -/
def Short (n : Nat) (s : Socket) : Prop := s.pending.size < n

/-- No line has ended among the pending bytes, and they are within the limit. -/
def Unended (s : Socket) : Prop := 10 ∉ s.pending.data.toList ∧ s.pending.size ≤ maxLineLength

theorem takeNew_size_le (hmodest : Modest σ) {chunk : ByteArray} {rest : σ}
    (h : s.takeNew stream n = (.ok chunk, rest)) : chunk.size ≤ n := by
  rw [takeNew] at h
  split at h
  · exact hmodest _ _ _ _ h
  · cases h

/-- **REFILLS STOP ONE CHUNK BEYOND** the most bytes with which something can be lacking. -/
theorem Refills.size_le (hmodest : Modest σ) {lacks : Socket → Prop} {most : Nat}
    (hlacks : ∀ s, lacks s → s.pending.size ≤ most) (h : Refills lacks s stream s' stream') :
    s'.pending.size ≤ max s.pending.size (most + chunkSize) := by
  induction h with
  | none s stream => exact Nat.le_max_left _ _
  | more lacking take some later ih =>
      have hbefore := hlacks _ lacking
      have hchunk := takeNew_size_le hmodest take
      rw [ByteArray.size_append] at ih
      omega

/-! ## Where refills lead -/

theorem newline?_eq_none_of_not_mem {b : ByteArray} (h : 10 ∉ b.data.toList) (start : Nat) :
    newline? b start = none := by
  cases hfound : newline? b start with
  | none => rfl
  | some place =>
      obtain ⟨-, hsplit⟩ := newline?_eq_some hfound (mt List.mem_of_mem_take h)
      refine absurd ?_ h
      rw [hsplit]
      exact List.mem_append_right _ (List.mem_cons_self ..)

/-- Bytes without a newline may be passed over. -/
theorem newline?_pass {b : ByteArray} (h : 10 ∉ b.data.toList.take scanned) :
    newline? b scanned = newline? b 0 := by
  induction scanned with
  | zero => rfl
  | succ k ih =>
      rw [← ih fun hmem => h (List.take_subset_take_left _ (Nat.le_succ k) hmem)]
      by_cases hlt : k < b.size
      · have hbyte : b[k] ≠ 10 := by
          intro hten
          refine h ?_
          rw [List.take_succ_eq_append_getElem (l := b.data.toList) hlt]
          exact List.mem_append_right _ (List.mem_singleton.mpr hten.symm)
        rw [newline?.eq_def b k, dif_pos hlt, if_neg hbyte]
      · rw [newline?.eq_def b k, dif_neg hlt, newline?, dif_neg (Nat.not_lt.mpr (by omega))]

theorem readLineFrom_pass (h : 10 ∉ s.pending.data.toList.take scanned) :
    s.readLineFrom stream scanned = s.readLine stream := by
  rw [readLine, readLineFrom, readLineFrom, newline?_pass h]

/-- A call that has made refills goes on as if it had begun there: to fill up, -/
theorem Refills.fillTo_eq (h : Refills (Short n) s stream s' stream') :
    s.fillTo stream n = s'.fillTo stream' n := by
  induction h with
  | none s stream => rfl
  | more lacking take some later ih =>
      rw [fillTo, if_pos (show _ < n from lacking), take]
      simp only
      rw [if_neg some]
      exact ih

/-- and to read a line. -/
theorem Refills.readLine_eq (h : Refills Unended s stream s' stream') :
    s.readLine stream = s'.readLine stream' := by
  induction h with
  | none s stream => rfl
  | @more s s' stream rest stream' chunk lacking take some later ih =>
      obtain ⟨hclean, hlimit⟩ := lacking
      have hpassed : 10 ∉ (s.pending ++ chunk).data.toList.take s.pending.size := by
        rw [ByteArray.data_append, Array.toList_append,
          List.take_left' (show s.pending.data.toList.length = s.pending.size from rfl)]
        exact hclean
      have hpass : { s with pending := s.pending ++ chunk }.readLineFrom rest s.pending.size =
          { s with pending := s.pending ++ chunk }.readLine rest := readLineFrom_pass hpassed
      rw [← ih, ← hpass, readLine, readLineFrom, newline?_eq_none_of_not_mem hclean]
      simp only
      rw [if_neg (Nat.not_lt.mpr hlimit), take]
      simp only
      rw [if_neg some]

/-- Filling up leaves the socket where refills have led. -/
theorem exists_refills_fillTo (s : Socket) (stream : σ) (n : Nat) :
    ∃ stream', Refills (Short n) s stream (s.fillTo stream n).2.1 stream' := by
  fun_induction fillTo s stream n with
  | case1 s stream | case2 s stream | case3 s stream => exact ⟨stream, .none s stream⟩
  | case4 s stream hshort chunk rest htake hchunk ih =>
      obtain ⟨stream', hlater⟩ := ih
      exact ⟨stream', .more hshort htake hchunk hlater⟩
  | case5 s stream hfull => exact ⟨stream, .none s stream⟩

/-- Reading a line leaves at most what refills have brought. -/
theorem exists_refills_readLineFrom (hscanned : 10 ∉ s.pending.data.toList.take scanned) :
    ∃ s' stream', Refills Unended s stream s' stream' ∧
      (s.readLineFrom stream scanned).2.1.pending.size ≤ s'.pending.size := by
  fun_induction readLineFrom s stream scanned with
  | case1 s stream scanned place hplace =>
      refine ⟨s, stream, .none s stream, ?_⟩
      simp only [ByteArray.size_extract]
      omega
  | case2 s stream | case3 s stream | case4 s stream =>
      exact ⟨s, stream, .none s stream, Nat.le_refl _⟩
  | case5 s stream => exact ⟨s, stream, .none s stream, Nat.zero_le _⟩
  | case6 s stream scanned hnone hlimit chunk rest htake hchunk m ih =>
      have hclean := newline?_eq_none hnone hscanned
      have hscanned' : 10 ∉ (s.pending ++ chunk).data.toList.take s.pending.size := by
        rw [ByteArray.data_append, Array.toList_append,
          List.take_left' (show s.pending.data.toList.length = s.pending.size from rfl)]
        exact hclean
      obtain ⟨s', stream', hlater, hsize⟩ := ih hscanned'
      exact ⟨s', stream', .more ⟨hclean, Nat.le_of_not_lt hlimit⟩ htake hchunk hlater, hsize⟩

/-! ## Moments of operations -/

/-- What the owner of a connection does with its socket. -/
inductive Operation where
  | read (call : ReadCall)
  | write (data : ByteArray)
  | close

/-- One operation, whatever it answers. -/
def operate (s : Socket) (stream : σ) : Operation → Socket × σ
  | .read call => (s.perform stream call).2
  | .write data => (s, (s.write stream data).2)
  | .close => ((s.close stream).1, (s.close stream).2.1)

/-- Operations one after the other. -/
def operates (s : Socket) (stream : σ) : List Operation → Socket × σ
  | [] => (s, stream)
  | operation :: later => (s.operate stream operation).1.operates (s.operate stream operation).2 later

/-- These bytes are pending at a moment of an operation: when it begins, when it has ended, or after any
    of its refills, from where it goes on as if it had begun there (`Refills.readLine_eq`,
    `Refills.fillTo_eq`). -/
inductive Moment (s : Socket) (stream : σ) : Operation → ByteArray → Prop where
  | begun (operation : Operation) : Moment s stream operation s.pending
  | ended (operation : Operation) : Moment s stream operation (s.operate stream operation).1.pending
  | line {s' : Socket} {stream' : σ} (refills : Refills Unended s stream s' stream') :
      Moment s stream (.read .readLine) s'.pending
  | header {s' : Socket} {stream' : σ} (refills : Refills (Short 4) s stream s' stream') :
      Moment s stream (.read .receiveFrame) s'.pending
  | payload {s₁ s' : Socket} {stream₁ stream' : σ} (filled : s.fillTo stream 4 = (.ok true, s₁, stream₁))
      (small : Frame.announced (s₁.pending.extract 0 4) ≤ maxFrameLength)
      (refills : Refills (Short (4 + Frame.announced (s₁.pending.extract 0 4))) s₁ stream₁ s' stream') :
      Moment s stream (.read .receiveFrame) s'.pending

theorem operates_concat (s : Socket) (stream : σ) (earlier : List Operation) (operation : Operation) :
    s.operates stream (earlier ++ [operation]) =
      (s.operates stream earlier).1.operate (s.operates stream earlier).2 operation := by
  induction earlier generalizing s stream with
  | nil => rfl
  | cons first later ih => exact ih _ _

section Bounds

variable {most : Nat}

theorem refills_unended_le (hmodest : Modest σ) (hbefore : s.pending.size ≤ most)
    (hline : maxLineLength + chunkSize ≤ most) (h : Refills Unended s stream s' stream') :
    s'.pending.size ≤ most :=
  (h.size_le hmodest fun _ hlacks => hlacks.2).trans (Nat.max_le.mpr ⟨hbefore, hline⟩)

/-- As many bytes as a frame has, and one chunk more, less one byte that is lacking. -/
theorem refills_short_le (hmodest : Modest σ) (hbefore : s.pending.size ≤ most)
    (hframe : n + (chunkSize - 1) ≤ most) (h : Refills (Short n) s stream s' stream') :
    s'.pending.size ≤ most := by
  have hsize : s'.pending.size ≤ max s.pending.size (n - 1 + chunkSize) :=
    h.size_le hmodest fun s (hlacks : s.pending.size < n) => Nat.le_sub_one_of_lt hlacks
  -- with nothing to fill up to, no refill is made
  rcases Nat.eq_zero_or_pos n with rfl | hpos
  · cases h with
    | none => exact hbefore
    | more lacking => exact absurd lacking (Nat.not_lt_zero _)
  · simp only [chunkSize] at *
    omega

/-- A frame leaves at most what filling up has brought. -/
theorem size_receiveFrame_le (hmodest : Modest σ) (hbefore : s.pending.size ≤ most)
    (hframe : maxFrameLength + 4 + (chunkSize - 1) ≤ most) :
    (s.receiveFrame stream).2.1.pending.size ≤ most := by
  obtain ⟨stream₁, hheader⟩ := exists_refills_fillTo s stream 4
  have hheld := refills_short_le hmodest hbefore (by omega) hheader
  rw [receiveFrame]
  generalize s.fillTo stream 4 = first at hheld
  obtain ⟨_ | _ | _, s₁, stream₁⟩ := first
  · exact hheld
  · exact hheld
  · simp only
    split
    · exact hheld
    · rename_i hsmall
      obtain ⟨stream₂, hpayload⟩ :=
        exists_refills_fillTo s₁ stream₁ (4 + Frame.announced (s₁.pending.extract 0 4))
      have hlater := refills_short_le hmodest hheld (by omega) hpayload
      generalize s₁.fillTo stream₁ (4 + Frame.announced (s₁.pending.extract 0 4)) = second at hlater
      obtain ⟨_ | _ | _, s₂, stream₂⟩ := second
      · exact hlater
      · exact hlater
      · simp only [ByteArray.size_extract] at hlater ⊢
        omega

/-- **AT NO MOMENT OF AN OPERATION** are more bytes pending than when it began, or than its own bound. -/
theorem Moment.size_le (hmodest : Modest σ) (hbefore : s.pending.size ≤ most)
    (hline : maxLineLength + chunkSize ≤ most) {operation : Operation}
    (hframe : operation = .read .receiveFrame → maxFrameLength + 4 + (chunkSize - 1) ≤ most)
    {held : ByteArray} (h : Moment s stream operation held) : held.size ≤ most := by
  cases h with
  | begun => exact hbefore
  | ended =>
      cases operation with
      | read call =>
          cases call with
          | read n =>
              show (s.read stream n).2.1.pending.size ≤ most
              rw [read]
              split
              · simp only [ByteArray.size_extract]
                omega
              · exact hbefore
          | readLine =>
              have hreads : ∃ s' stream', Refills Unended s stream s' stream' ∧
                  (s.readLineFrom stream 0).2.1.pending.size ≤ s'.pending.size :=
                exists_refills_readLineFrom List.not_mem_nil
              obtain ⟨s', stream', hrefills, hsize⟩ := hreads
              exact hsize.trans (refills_unended_le hmodest hbefore hline hrefills)
          | receiveFrame => exact size_receiveFrame_le hmodest hbefore (hframe rfl)
      | write data => exact hbefore
      | close =>
          show (s.close stream).1.pending.size ≤ most
          rw [close_pending]
          exact Nat.zero_le _
  | line refills => exact refills_unended_le hmodest hbefore hline refills
  | header refills =>
      have hbound := hframe rfl
      exact refills_short_le hmodest hbefore (by omega) refills
  | payload filled small refills =>
      have hbound := hframe rfl
      obtain ⟨stream₂, hheader⟩ := exists_refills_fillTo s stream 4
      rw [filled] at hheader
      exact refills_short_le hmodest (refills_short_le hmodest hbefore (by omega) hheader) (by omega)
        refills

/-- What every operation keeps below a bound stays there. -/
theorem size_operates_le (hmodest : Modest σ) (hbefore : s.pending.size ≤ most)
    (hline : maxLineLength + chunkSize ≤ most) {operations : List Operation}
    (hframe : .read .receiveFrame ∈ operations → maxFrameLength + 4 + (chunkSize - 1) ≤ most) :
    (s.operates stream operations).1.pending.size ≤ most := by
  induction operations generalizing s stream with
  | nil => exact hbefore
  | cons operation later ih =>
      refine ih ?_ fun hmem => hframe (List.mem_cons_of_mem _ hmem)
      exact Moment.size_le hmodest hbefore hline (fun heq => hframe (heq ▸ List.mem_cons_self ..))
        (.ended operation)

end Bounds

/-- **A PEER CANNOT GROW A BUFFER WITHOUT LIMIT.**  Let a socket begin with nothing pending, on any stream
    that gives at most what it is asked for, whatever its bytes and pieces are and whenever it fails.
    After any sequence of operations, at no moment of the next one are more bytes pending than the
    largest frame, its header and one chunk less a byte.  If no frame is received on the socket, they are
    never more than the limit on lines and one chunk. -/
theorem pending_bounded (hmodest : Modest σ) (hfresh : s.pending = .empty) (stream : σ)
    (earlier : List Operation) (operation : Operation) {held : ByteArray}
    (hmoment : Moment (s.operates stream earlier).1 (s.operates stream earlier).2 operation held) :
    held.size ≤ maxFrameLength + 4 + 4095 ∧
    (.read .receiveFrame ∉ operation :: earlier → held.size ≤ maxLineLength + 4096) := by
  have hnothing : ∀ most, s.pending.size ≤ most := fun most => by
    rw [hfresh]
    exact Nat.zero_le _
  constructor
  · have hbound : maxFrameLength + 4 + (chunkSize - 1) ≤ maxFrameLength + 4 + 4095 := Nat.le_refl _
    have hline : maxLineLength + chunkSize ≤ maxFrameLength + 4 + 4095 := by decide
    exact hmoment.size_le hmodest
      (size_operates_le hmodest (hnothing _) hline fun _ => hbound) hline fun _ => hbound
  · intro hnone
    have hline : maxLineLength + chunkSize ≤ maxLineLength + 4096 := Nat.le_refl _
    exact hmoment.size_le hmodest
      (size_operates_le hmodest (hnothing _) hline fun hmem =>
        absurd (List.mem_cons_of_mem _ hmem) hnone) hline fun heq =>
        absurd (heq ▸ List.mem_cons_self ..) hnone

/-- A line of 128 KiB, asked for three times: what is pending when the third call begins, and when it has
    ended. -/
theorem pending_bounded_long_line :
    Modest Faulty ∧ ({ descriptor := 4 } : Socket).pending = .empty ∧
    (operates { descriptor := 4 } (letterLine 131072)
      (List.replicate 2 (.read .readLine))).1.pending.size ≤ maxLineLength + 4096 ∧
    (operates { descriptor := 4 } (letterLine 131072)
      (List.replicate 2 (.read .readLine) ++ [.read .readLine])).1.pending.size ≤
        maxLineLength + 4096 := by
  have hmodest : Modest Faulty := lossless_faulty.modest
  have hlines : Operation.read .receiveFrame ∉
      Operation.read .readLine :: List.replicate 2 (.read .readLine) := by simp
  refine ⟨hmodest, rfl, ?_, ?_⟩
  · exact (pending_bounded hmodest rfl _ _ _ (.begun _)).2 hlines
  · rw [operates_concat]
    exact (pending_bounded hmodest rfl _ _ _ (.ended _)).2 hlines

end Socket

end PooledServer.Net
