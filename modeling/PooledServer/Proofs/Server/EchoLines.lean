import PooledServer.Proofs.Net.Lines
import PooledServer.Proofs.Server.Replies

/-!
# Every line is echoed once

    Called again and again on one socket, echo writes back the lines of the peer, each once and with one
    newline, up to the first that reads `quit` or is no text (`Echo.echoes_lines`).

    One call hears one line after the other.  Each line that it answers is taken off the lines that are
    ahead of the socket and put at the end of what was sent (`Handled.of_text`), so a call that keeps the
    connection has moved some lines from the one to the other and left nothing pending.  A loop of calls
    therefore always has the lines that were answered before it and the others ahead of it. -/

namespace PooledServer.Server.Echo

open Net
open Net.Socket (ahead lineRead_readLineFrom told_lineText takeNew_eq)
open Net.Line (lines Short Told)

/-! ## Lines that are answered -/

/-- A line that is text and does not end the connection. -/
def isAnswered (line : List UInt8) : Bool :=
  (String.fromUTF8? ⟨line.toArray⟩).any (· != "quit")

/-- What is written back for lines. -/
def written (answered : List (List UInt8)) : List UInt8 :=
  answered.flatMap (· ++ [10])

theorem written_append (before after : List (List UInt8)) :
    written (before ++ after) = written before ++ written after :=
  List.flatMap_append

theorem isAnswered_text (text : String) :
    isAnswered text.toUTF8.data.toList = (text != "quit") := by
  have hread : String.fromUTF8? ⟨text.toUTF8.data.toList.toArray⟩ = some text :=
    dif_pos text.isValidUTF8
  rw [isAnswered, hread]
  rfl

theorem isAnswered_noText {line : List UInt8}
    (h : ∀ text : String, text.toUTF8.data.toList ≠ line) : isAnswered line = false := by
  simp only [isAnswered, String.fromUTF8?]
  by_cases hvalid : (⟨line.toArray⟩ : ByteArray).IsValidUTF8
  · exact absurd rfl (h (String.fromUTF8 _ hvalid))
  · rw [dif_neg hvalid]
    rfl

theorem toList_reply (text : String) :
    (reply text).data.toList = written [text.toUTF8.data.toList] := by
  simp only [reply, written, String.toUTF8_eq_toByteArray, String.toByteArray_append,
    ByteArray.data_append, Array.toList_append, List.flatMap_cons, List.flatMap_nil, List.append_nil]
  rfl

/-! ## One line -/

section Call

variable {s : Socket} {a : Arrivals}

theorem sent_take (a : Arrivals) (n : Nat) : (a.take n).2.sent = a.sent := by
  unfold Arrivals.take
  split
  · rfl
  · split <;> rfl

/-- Reading sends nothing. -/
theorem sent_readLineFrom (hopen : s.isOpen = true) (scanned : Nat) :
    (s.readLineFrom a scanned).2.2.sent = a.sent := by
  fun_induction Socket.readLineFrom s a scanned with
  | case1 => rfl
  | case2 => rfl
  | case3 s a scanned hnone hlimit e rest htake =>
      rw [takeNew_eq hopen] at htake
      cases congrArg Prod.fst htake
  | case4 s a scanned hnone hlimit chunk rest htake | case5 s a scanned hnone hlimit chunk rest htake =>
      obtain ⟨rfl, rfl⟩ := Socket.takeNew_inj hopen htake
      exact sent_take a _
  | case6 s a scanned hnone hlimit chunk rest htake hchunk n ih =>
      obtain ⟨rfl, rfl⟩ := Socket.takeNew_inj hopen htake
      exact (ih hopen).trans (sent_take a _)

/-- What a call hears when it reads. -/
inductive Heard (s : Socket) (a : Arrivals) :
    Except IoError (Option String) × Socket × Arrivals → Prop where
  | text (text : String) (pending : ByteArray) (rest : Arrivals) (cut : rest.Cut)
      (sent : rest.sent = a.sent) (short : Short (ahead { s with pending } rest))
      (next : lines (s.ahead a) = text.toUTF8.data.toList :: lines (ahead { s with pending } rest)) :
      Heard s a (.ok (some text), { s with pending }, rest)
  | noText (error : IoError) (pending : ByteArray) (rest : Arrivals) (line : List UInt8)
      (later : List (List UInt8)) (sent : rest.sent = a.sent) (silent : isAnswered line = false)
      (next : lines (s.ahead a) = line :: later) :
      Heard s a (.error error, { s with pending }, rest)
  | ended (pending : ByteArray) (rest : Arrivals) (sent : rest.sent = a.sent)
      (next : lines (s.ahead a) = []) : Heard s a (.ok none, { s with pending }, rest)

/-- A call hears the next line. -/
theorem heard_readLine (hopen : s.isOpen = true) (hcut : a.Cut) (hshort : Short (s.ahead a)) :
    Heard s a (s.readLine a) := by
  have hnone : 10 ∉ s.pending.data.toList.take 0 := List.not_mem_nil
  have hsent := sent_readLineFrom (a := a) hopen 0
  obtain ⟨answer, pending, rest, hread, hcut', hline⟩ :=
    lineRead_readLineFrom hopen hcut hshort hnone
  rw [hread] at hsent
  rw [Socket.readLine, hread]
  rcases hline.told with ⟨hend, rfl, -⟩ | ⟨line, hlines, rfl⟩
  · exact .ended pending rest hsent hend
  · have htold := told_lineText ⟨line.toArray⟩
    generalize Socket.lineText ⟨line.toArray⟩ = answer at htold
    generalize hbytes : (⟨line.toArray⟩ : ByteArray).data.toList = bytes at htold
    obtain rfl : line = bytes := hbytes
    cases htold with
    | text text => exact .text text pending rest hcut' hsent (hline.short hshort) hlines
    | noText failure hno found =>
        exact .noText _ pending rest _ _ hsent (isAnswered_noText hno) hlines

/-! ## One call -/

/-- What a call of the handler comes to.  The bytes that are sent are told by the lines ahead. -/
inductive Handled (s : Socket) (a : Arrivals) :
    Verdict × Socket × Arrivals × List Log.Record → Prop where
  | kept (answered : List (List UInt8)) (rest : Arrivals) (records : List Log.Record)
      (cut : rest.Cut) (short : Short rest.bytes) (some : answered ≠ [])
      (all : ∀ line ∈ answered, isAnswered line = true)
      (taken : lines (s.ahead a) = answered ++ lines rest.bytes)
      (sent : rest.sent.data.toList = a.sent.data.toList ++ written answered) :
      Handled s a (.keep, { s with pending := .empty }, rest, records)
  | declined (left : Socket) (rest : Arrivals) (records : List Log.Record)
      (sent : rest.sent.data.toList =
        a.sent.data.toList ++ written ((lines (s.ahead a)).takeWhile isAnswered)) :
      Handled s a (.decline, left, rest, records)

/-- A line that is no text, or reads `quit`, is not answered. -/
theorem handled_silent {line : List UInt8} {later : List (List UInt8)}
    (hlines : lines (s.ahead a) = line :: later) (hsilent : isAnswered line = false)
    {rest : Arrivals} (hsent : rest.sent = a.sent) (left : Socket) (records : List Log.Record) :
    Handled s a (.decline, left, rest, records) := by
  refine .declined left rest records ?_
  rw [hlines, List.takeWhile_cons_of_neg (by rw [hsilent]; exact Bool.false_ne_true), hsent]
  exact (List.append_nil _).symm

/-- A call that has answered a line is the call from there. -/
theorem Handled.of_text {text : String} {pending : ByteArray} {rest : Arrivals}
    {result : Verdict × Socket × Arrivals × List Log.Record}
    (hlines : lines (s.ahead a) = text.toUTF8.data.toList :: lines (ahead { s with pending } rest))
    (hanswered : isAnswered text.toUTF8.data.toList = true) (hsent : rest.sent = a.sent)
    (h : Handled { s with pending } { rest with sent := rest.sent ++ reply text } result) :
    Handled s a result := by
  have hfirst : (rest.sent ++ reply text).data.toList =
      a.sent.data.toList ++ written [text.toUTF8.data.toList] := by
    rw [ByteArray.data_append, Array.toList_append, toList_reply, hsent]
  cases h with
  | kept answered later records cut short some all taken sent =>
      refine .kept (text.toUTF8.data.toList :: answered) later records cut short
        (List.cons_ne_nil _ _) ?_ (hlines.trans (congrArg _ taken)) ?_
      · exact List.forall_mem_cons.mpr ⟨hanswered, all⟩
      · rw [sent, hfirst, List.append_assoc, ← written_append]
        rfl
  | declined left later records sent =>
      refine .declined left later records ?_
      rw [sent, hfirst, hlines, List.takeWhile_cons_of_pos hanswered, List.append_assoc,
        ← written_append]
      rfl

theorem write_eq (hopen : s.isOpen = true) (a : Arrivals) (data : ByteArray) :
    s.write a data = (.ok (), { a with sent := a.sent ++ data }) :=
  if_pos hopen

/-- **A CALL ANSWERS THE LINES AHEAD**, as many as it finds. -/
theorem handled_handle (hopen : s.isOpen = true) (hcut : a.Cut) (hshort : Short (s.ahead a)) :
    Handled s a (handle s a) := by
  have hheard := heard_readLine hopen hcut hshort
  fun_induction handle s a with
  | case1 s a e left rest hread =>
      rw [hread] at hheard
      cases hheard with
      | noText error pending rest line later sent silent next =>
          exact handled_silent next silent sent _ _
  | case2 s a left rest hread =>
      rw [hread] at hheard
      cases hheard with
      | ended pending rest sent next =>
          refine .declined _ rest _ ?_
          rw [next, sent]
          exact (List.append_nil _).symm
  | case3 s a read unread hread =>
      rw [hread] at hheard
      cases hheard with
      | text text pending rest cut sent short next =>
          exact handled_silent next (isAnswered_text _) sent _ _
  | case4 s a line read unread hread hquit e rest hwrite =>
      rw [hread] at hheard
      cases hheard with
      | text text pending rest cut sent short next =>
          cases congrArg Prod.fst ((write_eq (s := { s with pending }) hopen _ _).symm.trans hwrite)
  | case5 s a line read unread hread hquit rest hwrite hmore ih =>
      rw [hread] at hheard
      cases hheard with
      | text text pending rest cut sent short next =>
          obtain rfl :=
            congrArg Prod.snd ((write_eq (s := { s with pending }) hopen _ _).symm.trans hwrite)
          exact .of_text next ((isAnswered_text line).trans (bne_iff_ne.mpr hquit)) sent
            (ih hopen cut short (heard_readLine hopen cut short))
  | case6 s a line read unread hread hquit rest hwrite hmore =>
      rw [hread] at hheard
      cases hheard with
      | text text pending rest cut sent short next =>
          obtain rfl :=
            congrArg Prod.snd ((write_eq (s := { s with pending }) hopen _ _).symm.trans hwrite)
          have hsize : pending.size = 0 := by simpa [Socket.hasPending, ByteArray.isEmpty] using hmore
          obtain rfl := ByteArray.size_eq_zero_iff.mp hsize
          refine .kept [line.toUTF8.data.toList] _ _ cut short (List.cons_ne_nil _ _) ?_ next ?_
          · rw [List.forall_mem_singleton, isAnswered_text]
            exact bne_iff_ne.mpr hquit
          · rw [ByteArray.data_append, Array.toList_append, toList_reply, sent]

end Call

/-! ## Call after call -/

section Loop

variable {s : Socket} {a rest : Arrivals} {answered : List (List UInt8)} {records : List Log.Record}
  {calls : Nat}

/-- The loop is at work after so many calls.  It has the socket that it began with, and of the lines of
    the peer those that are not to come any more have been answered. -/
def Echoing (s : Socket) (a : Arrivals) (calls : Nat) : Prop :=
  ∃ rest answered, LoopAt handle s a calls s rest ∧
    (∀ line ∈ answered, isAnswered line = true) ∧
    lines a.bytes = answered ++ lines rest.bytes ∧
    rest.sent.data.toList = a.sent.data.toList ++ written answered

/-- The loop is over after so many calls, and the lines up to the first that is not answered have been. -/
def Echoed (s : Socket) (a : Arrivals) (calls : Nat) : Prop :=
  ∃ left rest records, serveConnection handle s a calls = (.closed, left, rest, records) ∧
    rest.sent.data.toList =
      a.sent.data.toList ++ written ((lines a.bytes).takeWhile isAnswered)

theorem Echoing.start (s : Socket) (a : Arrivals) : Echoing s a 0 :=
  ⟨a, [], ⟨[], rfl⟩, fun _ h => absurd h List.not_mem_nil, rfl, (List.append_nil _).symm⟩

/-- A loop that goes on after its first call is a loop from there. -/
theorem Echoing.of_kept (hopen : s.isOpen = true) (hcall : handle s a = (.keep, s, rest, records))
    (hall : ∀ line ∈ answered, isAnswered line = true)
    (htaken : lines a.bytes = answered ++ lines rest.bytes)
    (hsent : rest.sent.data.toList = a.sent.data.toList ++ written answered)
    (h : Echoing s rest calls) : Echoing s a (calls + 1) := by
  obtain ⟨last, later, ⟨said, hloop⟩, hall', htaken', hsent'⟩ := h
  refine ⟨last, answered ++ later, ⟨records ++ said, ?_⟩, ?_, ?_, ?_⟩
  · rw [serveConnection_keep hopen hcall, hloop]
  · intro line hline
    exact (List.mem_append.mp hline).elim (hall line) (hall' line)
  · rw [htaken, htaken', List.append_assoc]
  · rw [hsent', hsent, written_append, List.append_assoc]

theorem Echoed.of_kept (hopen : s.isOpen = true) (hcall : handle s a = (.keep, s, rest, records))
    (hall : ∀ line ∈ answered, isAnswered line = true)
    (htaken : lines a.bytes = answered ++ lines rest.bytes)
    (hsent : rest.sent.data.toList = a.sent.data.toList ++ written answered)
    (h : Echoed s rest calls) : Echoed s a (calls + 1) := by
  obtain ⟨left, last, said, hloop, hsent'⟩ := h
  refine ⟨left, last, records ++ said, ?_, ?_⟩
  · rw [serveConnection_keep hopen hcall, hloop]
  · rw [hsent', hsent, htaken, List.takeWhile_append_of_pos hall, written_append,
      List.append_assoc]

/-- A call that declines is the last. -/
theorem Echoed.of_declined (hopen : s.isOpen = true) {left : Socket}
    (hcall : handle s a = (.decline, left, rest, records))
    (hsent : rest.sent.data.toList =
      a.sent.data.toList ++ written ((lines a.bytes).takeWhile isAnswered)) : Echoed s a 1 := by
  refine ⟨(left.close rest).1, (left.close rest).2.1, records ++ (left.close rest).2.2, ?_, ?_⟩
  · rw [serveConnection, if_pos hopen, hcall]
  · rw [← hsent]
    unfold Socket.close
    split <;> rfl

/-- The loop of calls ends, and at each call before it is where it should be. -/
theorem exists_echoed (hopen : s.isOpen = true) (hfresh : s.pending = .empty) (hcut : a.Cut)
    (hshort : Short a.bytes) :
    ∃ calls, Echoed s a calls ∧ ∀ n < calls, Echoing s a n := by
  have hsame : { s with pending := .empty } = s := by rw [← hfresh]
  -- every call that keeps the connection leaves fewer lines to come
  induction hlength : (lines a.bytes).length using Nat.strong_induction_on generalizing a with
  | _ length ih =>
      have hahead : s.ahead a = a.bytes := by
        rw [ahead, hfresh]
        rfl
      have hhandled := handled_handle hopen hcut (hahead ▸ hshort)
      generalize hcall : handle s a = result at hhandled
      cases hhandled with
      | kept answered rest records cut short some all taken sent =>
          rw [hsame] at hcall
          rw [hahead] at taken
          have hless : (lines rest.bytes).length < length := by
            have hpos := List.length_pos_of_ne_nil some
            rw [← hlength, taken, List.length_append]
            omega
          obtain ⟨calls, hover, hgoing⟩ := ih _ hless cut short rfl
          refine ⟨calls + 1, hover.of_kept hopen hcall all taken sent, fun n hn => ?_⟩
          cases n with
          | zero => exact Echoing.start s a
          | succ n =>
              exact (hgoing n (Nat.lt_of_succ_lt_succ hn)).of_kept hopen hcall all taken sent
      | declined left rest records sent =>
          rw [hahead] at sent
          refine ⟨1, .of_declined hopen hcall sent, fun n hn => ?_⟩
          obtain rfl : n = 0 := Nat.lt_one_iff.mp hn
          exact Echoing.start s a

/-- **EVERY LINE IS ECHOED ONCE**: on an open socket with nothing pending, and bytes of which no part
    between newlines is over the limit, the calls of the handler come to an end, however the bytes arrive.
    By then the lines are written back, each with one newline, up to the first that reads `quit` or is no
    text.  After each call before that nothing is pending, and the lines that are not to come any more are
    those that have been written back.

    A call that keeps a connection leaves nothing pending, whatever the stream does. -/
theorem echoes_lines (hopen : s.isOpen = true) (hfresh : s.pending = .empty) (hcut : a.Cut)
    (hshort : Short a.bytes) :
    (∃ calls, Echoed s a calls ∧ ∀ n < calls, Echoing s a n) ∧
    ∀ (σ : Type) [ByteStream σ] socket (stream : σ) left stream' records,
      handle socket stream = (.keep, left, stream', records) → left.hasPending = false := by
  exact ⟨exists_echoed hopen hfresh hcut hshort, fun _ _ _ _ _ _ _ hcall => hasPending_of_keep hcall⟩

end Loop

/-- Two lines in pieces that cut them, the word that ends the connection, and a line after it. -/
def farewell : Arrivals where
  pieces := [⟨#[97]⟩, ⟨#[98, 13, 10, 99]⟩, ⟨#[10, 113, 117, 105, 116, 10, 100, 10]⟩]

theorem echoes_lines_farewell :
    farewell.Cut ∧ Short farewell.bytes ∧
    lines farewell.bytes = [[97, 98], [99], [113, 117, 105, 116], [100]] ∧
    ∃ calls left rest records,
      serveConnection handle { descriptor := 4 } farewell calls = (.closed, left, rest, records) ∧
      rest.sent.data.toList = [97, 98, 10, 99, 10] := by
  have hcut : farewell.Cut := by
    unfold Arrivals.Cut
    decide
  have hshort : Short farewell.bytes := by
    unfold Short
    decide
  obtain ⟨⟨calls, ⟨left, rest, records, hloop, hsent⟩, -⟩, -⟩ :=
    echoes_lines (s := { descriptor := 4 }) rfl rfl hcut hshort
  exact ⟨hcut, hshort, by decide, calls, left, rest, records, hloop, hsent.trans (by decide +kernel)⟩

end PooledServer.Server.Echo
