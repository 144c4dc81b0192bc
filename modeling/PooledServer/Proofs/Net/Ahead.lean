import Mathlib
import PooledServer.Net.Socket

/-!
# What a socket has ahead of it

    On a stream whose bytes arrive in pieces, the bytes that a socket is still to hand out are those that
    are pending and then those that have not been taken.  Taking a piece into what is pending moves the
    border between the two and leaves the bytes as they are, so what a reader answers can be told from
    `Socket.ahead` alone: filling up finds enough there, or an end (`Socket.filled_fillTo`). -/

namespace PooledServer.Net

/-! ## Pieces -/

namespace Arrivals

/-- Every piece brings something: a read that brings nothing is the end. -/
def Cut (a : Arrivals) : Prop := ∀ p ∈ a.pieces, p.size ≠ 0

/-- Taking hands over the first bytes that were still to come. -/
theorem bytes_take (a : Arrivals) (n : Nat) :
    (a.take n).1.data.toList ++ (a.take n).2.bytes = a.bytes := by
  obtain ⟨pieces, sent⟩ := a
  match pieces with
  | [] => rfl
  | p :: ps =>
    by_cases h : p.size ≤ n
    · simp [take, bytes, h]
    · have hlong : n ≤ p.data.toList.length := Nat.le_of_not_ge h
      have hpiece : p.data.toList.take n ++ (p.data.toList.drop n).take (p.size - n)
          = p.data.toList := by
        rw [List.take_of_length_le (l := p.data.toList.drop n)
          (by rw [List.length_drop]; exact Nat.le_refl _)]
        exact List.take_append_drop n _
      simp only [take, bytes, h, if_false, List.flatMap_cons, ByteArray.data_extract,
        Array.toList_extract, List.extract_eq_take_drop, Nat.sub_zero, List.drop_zero]
      rw [← List.append_assoc, hpiece]

/-- What is left of the pieces brings something too. -/
theorem Cut.take {a : Arrivals} (h : a.Cut) (n : Nat) : (a.take n).2.Cut := by
  obtain ⟨pieces, sent⟩ := a
  match pieces with
  | [] => exact h
  | p :: ps =>
    by_cases hp : p.size ≤ n
    · simp only [Arrivals.take, hp, if_true]
      exact fun q hq => h q (List.mem_cons_of_mem _ hq)
    · simp only [Arrivals.take, hp, if_false]
      intro q hq
      rcases List.mem_cons.mp hq with rfl | hq
      · rw [ByteArray.size_extract]
        omega
      · exact h q (List.mem_cons_of_mem _ hq)

/-- A read brings nothing only at the end. -/
theorem Cut.at_end {a : Arrivals} (h : a.Cut) {n : Nat} (hn : n ≠ 0)
    (hnone : (a.take n).1.size = 0) : a.bytes = [] ∧ (a.take n).2.bytes = [] := by
  obtain ⟨pieces, sent⟩ := a
  match pieces with
  | [] => exact ⟨rfl, rfl⟩
  | p :: ps =>
    have hp : p.size ≠ 0 := h p (List.mem_cons_self ..)
    by_cases hle : p.size ≤ n
    · simp only [Arrivals.take, hle, if_true] at hnone
      exact absurd hnone hp
    · simp only [Arrivals.take, hle, if_false, ByteArray.size_extract] at hnone
      omega

end Arrivals

namespace Socket

/-! ## One operation, again and again -/

/-- The answers to `n` calls of an operation, one after the other. -/
def answers {σ β : Type} (operation : Socket → σ → Except IoError β × Socket × σ) (s : Socket)
    (stream : σ) : Nat → List (Except IoError β)
  | 0 => []
  | n + 1 =>
    let (answer, s, stream) := operation s stream
    answer :: answers operation s stream n

theorem answers_succ {σ β : Type} {operation : Socket → σ → Except IoError β × Socket × σ}
    {s s' : Socket} {stream stream' : σ} {answer : Except IoError β}
    (h : operation s stream = (answer, s', stream')) (n : Nat) :
    answers operation s stream (n + 1) = answer :: answers operation s' stream' n := by
  rw [answers, h]

/-! ## What is pending and what is still to come -/

/-- The bytes that the socket is still to hand out. -/
def ahead (s : Socket) (a : Arrivals) : List UInt8 := s.pending.data.toList ++ a.bytes

/-- An open socket takes what the stream has. -/
theorem takeNew_eq {s : Socket} (hopen : s.isOpen = true) (a : Arrivals) (n : Nat) :
    s.takeNew a n = (.ok (a.take n).1, (a.take n).2) :=
  if_pos hopen

theorem takeNew_inj {s : Socket} (hopen : s.isOpen = true) {a rest : Arrivals} {n : Nat}
    {chunk : ByteArray} (h : s.takeNew a n = (.ok chunk, rest)) :
    (a.take n).1 = chunk ∧ (a.take n).2 = rest := by
  rw [takeNew_eq hopen] at h
  obtain ⟨hok, hrest⟩ := Prod.mk.inj h
  exact ⟨Except.ok.inj hok, hrest⟩

/-- A chunk that is added to what is pending is no longer to come. -/
theorem ahead_chunk (s : Socket) (a : Arrivals) (n : Nat) :
    ahead { s with pending := s.pending ++ (a.take n).1 } (a.take n).2 = s.ahead a := by
  simp only [ahead, ByteArray.data_append, Array.toList_append, List.append_assoc, a.bytes_take n]

/-- Pending bytes are the first of those ahead, and handing them out leaves the others. -/
theorem ahead_front {s : Socket} {a : Arrivals} (front : List UInt8) {back : List UInt8}
    (h : s.ahead a = front ++ back) (hfull : front.length ≤ s.pending.size) :
    s.pending.data.toList.take front.length = front ∧
    ahead { s with pending := s.pending.extract front.length s.pending.size } a = back := by
  have htake := congrArg (List.take front.length) h
  have hdrop := congrArg (List.drop front.length) h
  rw [ahead, List.take_append_of_le_length hfull, List.take_left] at htake
  rw [ahead, List.drop_append_of_le_length hfull, List.drop_left] at hdrop
  have hrest : (s.pending.data.toList.drop front.length).length ≤ s.pending.size - front.length :=
    Nat.le_of_eq List.length_drop
  refine ⟨htake, ?_⟩
  rw [← hdrop, ahead, ByteArray.data_extract, Array.toList_extract, List.extract_eq_take_drop,
    List.take_of_length_le hrest]

/-- What filling up to `n` bytes can come to.  In each case the bytes ahead are what they were. -/
inductive Filled (s : Socket) (a : Arrivals) (n : Nat) :
    Except IoError Bool × Socket × Arrivals → Prop where
  | enough (pending : ByteArray) (rest : Arrivals) (cut : rest.Cut)
      (same : pending.data.toList ++ rest.bytes = s.ahead a) (full : n ≤ pending.size) :
      Filled s a n (.ok true, { s with pending }, rest)
  | ended (rest : Arrivals) (cut : rest.Cut) (nothing : s.ahead a = []) (gone : rest.bytes = [])
      (short : s.pending.size < n) : Filled s a n (.ok false, s, rest)
  | cutOff (pending : ByteArray) (rest : Arrivals) (cut : rest.Cut)
      (same : pending.data.toList ++ rest.bytes = s.ahead a) (gone : rest.bytes = [])
      (some : pending.size ≠ 0) (short : pending.size < n) :
      Filled s a n (.error (.stated .unexpectedEof "peer closed mid-message"), { s with pending }, rest)

/-- Filling up goes on as well from where a chunk has been taken. -/
theorem Filled.of_chunk {s : Socket} {a rest : Arrivals} {n : Nat} {chunk : ByteArray}
    {result : Except IoError Bool × Socket × Arrivals}
    (h : Filled { s with pending := s.pending ++ chunk } rest n result)
    (hsame : ahead { s with pending := s.pending ++ chunk } rest = s.ahead a)
    (hchunk : chunk.size ≠ 0) : s.Filled a n result := by
  cases h with
  | enough pending later cut same full => exact .enough pending later cut (same.trans hsame) full
  | ended later cut nothing gone short =>
    have hnone : (s.pending ++ chunk).data.toList = [] := (List.append_eq_nil_iff.mp nothing).1
    have hsize : (s.pending ++ chunk).size = 0 := congrArg List.length hnone
    rw [ByteArray.size_append] at hsize
    omega
  | cutOff pending later cut same gone some short =>
    exact .cutOff pending later cut (same.trans hsame) gone some short

/-- **FILLING UP FINDS ENOUGH OR AN END**, however the bytes arrive. -/
theorem filled_fillTo {s : Socket} (hopen : s.isOpen = true) {a : Arrivals} (hcut : a.Cut) (n : Nat) :
    s.Filled a n (s.fillTo a n) := by
  fun_induction fillTo s a n with
  | case1 s a hshort e stream htake =>
    rw [takeNew_eq hopen] at htake
    exact nomatch congrArg Prod.fst htake
  | case2 s a hshort chunk rest htake hchunk hempty =>
    obtain ⟨rfl, rfl⟩ := takeNew_inj hopen htake
    obtain ⟨hbytes, hgone⟩ := hcut.at_end (by decide) hchunk
    refine .ended _ (hcut.take _) ?_ hgone hshort
    rw [ahead, hbytes, ByteArray.size_eq_zero_iff.mp (eq_of_beq hempty)]
    rfl
  | case3 s a hshort chunk rest htake hchunk hsome =>
    obtain ⟨rfl, rfl⟩ := takeNew_inj hopen htake
    obtain ⟨hbytes, hgone⟩ := hcut.at_end (by decide) hchunk
    refine .cutOff s.pending _ (hcut.take _) ?_ hgone (fun h => hsome (beq_iff_eq.mpr h)) hshort
    rw [ahead, hbytes, hgone]
  | case4 s a hshort chunk rest htake hchunk ih =>
    obtain ⟨rfl, rfl⟩ := takeNew_inj hopen htake
    exact (ih hopen (hcut.take _)).of_chunk (s.ahead_chunk a chunkSize) hchunk
  | case5 s a hfull => exact .enough s.pending a hcut rfl (Nat.le_of_not_lt hfull)

section FillTo

variable {s : Socket} {a : Arrivals} {n : Nat}

/-- There are enough bytes ahead: they come to be pending. -/
theorem fillTo_enough (hopen : s.isOpen = true) (hcut : a.Cut) (h : n ≤ (s.ahead a).length) :
    ∃ pending rest, s.fillTo a n = (.ok true, { s with pending }, rest) ∧ rest.Cut ∧
      ahead { s with pending } rest = s.ahead a ∧ n ≤ pending.size := by
  have hfilled := filled_fillTo hopen hcut n
  generalize s.fillTo a n = result at hfilled
  cases hfilled with
  | enough pending rest cut same full => exact ⟨pending, rest, rfl, cut, same, full⟩
  | ended rest cut nothing gone short =>
    rw [nothing] at h
    exact absurd (Nat.le_zero.mp h) (Nat.ne_of_gt (Nat.zero_lt_of_lt short))
  | cutOff pending rest cut same gone some short =>
    rw [gone, List.append_nil] at same
    rw [← same] at h
    exact absurd (Nat.lt_of_lt_of_le short h) (Nat.lt_irrefl _)

/-- There are bytes ahead, but not enough. -/
theorem fillTo_cutOff (hopen : s.isOpen = true) (hcut : a.Cut) (h : (s.ahead a).length < n)
    (hsome : s.ahead a ≠ []) :
    ∃ pending rest, s.fillTo a n =
        (.error (.stated .unexpectedEof "peer closed mid-message"), { s with pending }, rest) ∧
      rest.Cut ∧ ahead { s with pending } rest = s.ahead a := by
  have hfilled := filled_fillTo hopen hcut n
  generalize s.fillTo a n = result at hfilled
  cases hfilled with
  | enough pending rest cut same full =>
    rw [← same, List.length_append] at h
    exact absurd (Nat.lt_of_le_of_lt (Nat.le_add_right _ _) h) (Nat.not_lt_of_le full)
  | ended rest cut nothing gone short => exact absurd nothing hsome
  | cutOff pending rest cut same gone some short => exact ⟨pending, rest, rfl, cut, same⟩

/-- There is nothing ahead. -/
theorem fillTo_ended (hopen : s.isOpen = true) (hcut : a.Cut) (hn : n ≠ 0) (h : s.ahead a = []) :
    ∃ rest, s.fillTo a n = (.ok false, s, rest) ∧ rest.Cut ∧ s.ahead rest = [] := by
  have hfilled := filled_fillTo hopen hcut n
  generalize s.fillTo a n = result at hfilled
  cases hfilled with
  | enough pending rest cut same full =>
    have hnone : pending.data.toList = [] := (List.append_eq_nil_iff.mp (same.trans h)).1
    have hsize : pending.size = 0 := congrArg List.length hnone
    exact absurd (Nat.le_zero.mp (hsize ▸ full)) hn
  | ended rest cut nothing gone short =>
    refine ⟨rest, rfl, cut, ?_⟩
    rw [ahead, gone, List.append_nil]
    exact (List.append_eq_nil_iff.mp nothing).1
  | cutOff pending rest cut same gone some short =>
    have hnone : pending.data.toList = [] := (List.append_eq_nil_iff.mp (same.trans h)).1
    exact absurd (congrArg List.length hnone) some

end FillTo

end Socket

end PooledServer.Net
