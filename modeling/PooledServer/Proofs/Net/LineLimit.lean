import PooledServer.Proofs.Net.Mixed

/-!
# Where the limit on a line is looked at

    A call compares what is pending with the limit only after a search that has found no newline.  So the
    limit is looked at where a read ends (`Socket.ReadEnds`): with the bytes that were pending when the call
    began, and after every refill that brought no newline.  A line over the limit is refused exactly if one
    of these places lies beyond the limit and not beyond the end of the line (`Socket.LooksBeyond`), and is
    handed out otherwise (`Socket.limits_lines`).  Such a line ends within one refill of the limit, or
    within what earlier calls have left pending.

    Lines within the limit are never refused, and a last line without a newline is never over it: what is
    pending at the end has been compared. -/

namespace PooledServer.Net

/-! ## Streams that fail now and then -/

namespace Faulty

theorem refills_tail {f rest : Faulty} {n : Nat} {result : Except IoError ByteArray}
    (h : f.take n = (result, rest)) : rest.refills = f.refills.tail := by
  unfold take at h
  split at h <;> cases h <;> rfl

/-- A stream fails with the errors it is to fail with. -/
theorem mem_refills {f rest : Faulty} {n : Nat} {e : IoError} (h : f.take n = (.error e, rest)) :
    some e ∈ f.refills := by
  unfold take at h
  split at h
  · rename_i given hgiven
    cases h
    exact List.mem_of_mem_head? (Option.join_eq_some_iff.mp hgiven)
  · cases h

end Faulty

namespace Socket

open Line

section Ends

variable {s : Socket} {f : Faulty} {n : Nat}

theorem takeNew_ok (hopen : s.isOpen = true) {chunk : ByteArray} {rest : Faulty}
    (h : s.takeNew f n = (.ok chunk, rest)) :
    (f.arrivals.take n).1 = chunk ∧ (f.arrivals.take n).2 = rest.arrivals := by
  rw [takeNew, if_pos hopen] at h
  rw [Faulty.take_ok h]
  exact ⟨rfl, rfl⟩

theorem ahead_refill (hopen : s.isOpen = true) {chunk : ByteArray} {rest : Faulty}
    (h : s.takeNew f n = (.ok chunk, rest)) :
    ahead { s with pending := s.pending ++ chunk } rest.arrivals = s.ahead f.arrivals := by
  obtain ⟨rfl, hrest⟩ := takeNew_ok hopen h
  rw [← hrest]
  exact s.ahead_chunk f.arrivals n

/-! ## Where reads end -/

/-- So many bytes are pending where a read of a call ends: when the call begins, or after a refill that
    brings something. -/
inductive ReadEnds : Socket → Faulty → Nat → Prop where
  | start (s : Socket) (f : Faulty) : ReadEnds s f s.pending.size
  | refill {s : Socket} {f rest : Faulty} {chunk : ByteArray} {n : Nat}
      (take : s.takeNew f chunkSize = (.ok chunk, rest)) (some : chunk.size ≠ 0)
      (later : ReadEnds { s with pending := s.pending ++ chunk } rest n) : ReadEnds s f n

/-- A read ends beyond the limit and not beyond so many bytes. -/
def LooksBeyond (s : Socket) (f : Faulty) (length : Nat) : Prop :=
  ∃ n, ReadEnds s f n ∧ maxLineLength < n ∧ n ≤ length

/-- Reads only add to what is pending. -/
theorem ReadEnds.size_le (h : ReadEnds s f n) : s.pending.size ≤ n := by
  induction h with
  | start s f => exact Nat.le_refl _
  | refill take some later ih =>
      rw [ByteArray.size_append] at ih
      exact Nat.le_of_add_right_le ih

theorem ReadEnds.le_length (h : ReadEnds s f n) (hopen : s.isOpen = true) :
    n ≤ (s.ahead f.arrivals).length := by
  induction h with
  | start s f =>
      rw [ahead, List.length_append]
      exact Nat.le_add_right _ _
  | refill take some later ih =>
      have hle := ih hopen
      rwa [ahead_refill hopen take] at hle

section Refill

variable {rest : Faulty} {chunk : ByteArray}

/-- The first read ends where the call begins, and the others are those that follow the refill. -/
theorem readEnds_iff (htake : s.takeNew f chunkSize = (.ok chunk, rest)) (hchunk : chunk.size ≠ 0) :
    ReadEnds s f n ↔
      n = s.pending.size ∨ ReadEnds { s with pending := s.pending ++ chunk } rest n := by
  constructor
  · intro h
    cases h with
    | start => exact Or.inl rfl
    | refill take some later =>
        cases htake.symm.trans take
        exact Or.inr later
  · rintro (rfl | later)
    · exact .start s f
    · exact .refill htake hchunk later

theorem looksBeyond_iff (htake : s.takeNew f chunkSize = (.ok chunk, rest)) (hchunk : chunk.size ≠ 0)
    (hlimit : s.pending.size ≤ maxLineLength) {length : Nat} :
    LooksBeyond s f length ↔
      LooksBeyond { s with pending := s.pending ++ chunk } rest length := by
  constructor
  · rintro ⟨n, hends, hlong, hwithin⟩
    rcases (readEnds_iff htake hchunk).mp hends with rfl | hlater
    · exact absurd hlimit (Nat.not_le_of_lt hlong)
    · exact ⟨n, hlater, hlong, hwithin⟩
  · rintro ⟨n, hends, hlong, hwithin⟩
    exact ⟨n, .refill htake hchunk hends, hlong, hwithin⟩

end Refill

end Ends

/-! ## One call -/

section Call

variable {s : Socket} {f : Faulty}

/-- What a call comes to.  Only a line that is handed out is taken. -/
inductive Limited (s : Socket) (f : Faulty) :
    Except IoError (Option String) × Socket × Faulty → Prop where
  | line {line back : List UInt8} {answer : Except IoError (Option String)} {pending : ByteArray}
      {rest : Faulty} (clean : 10 ∉ line) (before : s.ahead f.arrivals = line ++ 10 :: back)
      (unseen : ¬LooksBeyond s f line.length)
      (near : line.length < s.pending.size ∨ line.length < maxLineLength + chunkSize)
      (told : Told (unreturned line) answer)
      (after : ahead { s with pending } rest.arrivals = back) :
      Limited s f (answer, { s with pending }, rest)
  | last {answer : Except IoError (Option String)} {pending : ByteArray} {rest : Faulty}
      (clean : 10 ∉ s.ahead f.arrivals) (short : (s.ahead f.arrivals).length ≤ maxLineLength)
      (told : Told (s.ahead f.arrivals) answer)
      (after : ahead { s with pending } rest.arrivals = []) :
      Limited s f (answer, { s with pending }, rest)
  | ended {pending : ByteArray} {rest : Faulty} (nothing : s.ahead f.arrivals = []) :
      Limited s f (.ok none, { s with pending }, rest)
  | tooLong {n : Nat} {pending : ByteArray} {rest : Faulty} (ends : ReadEnds s f n)
      (long : maxLineLength < n) (clean : 10 ∉ (s.ahead f.arrivals).take n)
      (same : ahead { s with pending } rest.arrivals = s.ahead f.arrivals) :
      Limited s f (.error (.stated .invalidData "line too long"), { s with pending }, rest)
  | failed {e : IoError} {pending : ByteArray} {rest : Faulty} (given : some e ∈ f.refills)
      (unseen : ∀ length, ¬LooksBeyond s f length)
      (same : ahead { s with pending } rest.arrivals = s.ahead f.arrivals) :
      Limited s f (.error e, { s with pending }, rest)

/-- What a call comes to after a refill is what it comes to, if it went on to the refill. -/
theorem Limited.of_refill {chunk : ByteArray} {rest : Faulty}
    {result : Except IoError (Option String) × Socket × Faulty}
    (h : Limited { s with pending := s.pending ++ chunk } rest result) (hopen : s.isOpen = true)
    (htake : s.takeNew f chunkSize = (.ok chunk, rest)) (hchunk : chunk.size ≠ 0)
    (hlimit : s.pending.size ≤ maxLineLength) : Limited s f result := by
  have hsame := ahead_refill hopen htake
  cases h with
  | line clean before unseen near told after =>
      refine .line clean (hsame ▸ before)
        (fun hlooks => unseen ((looksBeyond_iff htake hchunk hlimit).mp hlooks)) (Or.inr ?_) told after
      have hsize := f.arrivals.size_take_le chunkSize
      rw [(takeNew_ok hopen htake).1] at hsize
      rw [ByteArray.size_append] at near
      omega
  | last clean short told after =>
      rw [hsame] at clean short told
      exact .last clean short told after
  | ended nothing => exact .ended (hsame ▸ nothing)
  | tooLong ends long clean same =>
      exact .tooLong (.refill htake hchunk ends) long (hsame ▸ clean) (same.trans hsame)
  | failed given unseen same =>
      have htail : rest.refills = f.refills.tail := by
        rw [takeNew, if_pos hopen] at htake
        exact Faulty.refills_tail htake
      rw [htail] at given
      exact .failed (List.mem_of_mem_tail given)
        (fun length hlooks => unseen length ((looksBeyond_iff htake hchunk hlimit).mp hlooks))
        (same.trans hsame)

/-- A newline that is pending already ends the line, whatever the limit. -/
theorem Limited.of_newline {scanned place : Nat}
    (hscanned : 10 ∉ s.pending.data.toList.take scanned) (hplace : newline? s.pending scanned = some place) :
    Limited s f (lineText (withoutReturn (s.pending.extract 0 place)),
      { s with pending := s.pending.extract (place + 1) s.pending.size }, f) := by
  obtain ⟨hclean, hpending⟩ := newline?_eq_some hplace hscanned
  have hlt := newline?_lt hplace
  have hlength : (s.pending.data.toList.take place).length = place :=
    List.length_take_of_le (Nat.le_of_lt hlt)
  have hfront : (s.pending.data.toList.take place ++ [10]).length = place + 1 := by
    rw [List.length_append, hlength]
    rfl
  have hahead : s.ahead f.arrivals = (s.pending.data.toList.take place ++ [10]) ++
      (s.pending.data.toList.drop (place + 1) ++ f.arrivals.bytes) := by
    rw [List.append_assoc, List.singleton_append, ← List.cons_append, ← List.append_assoc,
      ← hpending]
    rfl
  have hback := (ahead_front _ hahead (hfront ▸ hlt)).2
  rw [hfront] at hback
  have htold := told_lineText (withoutReturn (s.pending.extract 0 place))
  rw [toList_withoutReturn, toList_extract, List.drop_zero, Nat.sub_zero] at htold
  refine .line hclean (by rw [hahead, List.append_assoc]; rfl) ?_ (Or.inl ?_) htold hback
  · rintro ⟨n, hends, -, hwithin⟩
    -- no read ends before what is pending already, and the newline is pending
    exact absurd (hends.size_le.trans hwithin) (Nat.not_le_of_lt (hlength.symm ▸ hlt))
  · exact hlength.symm ▸ hlt

/-- **THE LIMIT IS LOOKED AT WHERE A READ ENDS**, if none of the first `scanned` pending bytes is a
    newline. -/
theorem limited_readLineFrom (hopen : s.isOpen = true) (hcut : f.arrivals.Cut) {scanned : Nat}
    (hscanned : 10 ∉ s.pending.data.toList.take scanned) : Limited s f (s.readLineFrom f scanned) := by
  fun_induction readLineFrom s f scanned with
  | case1 s f scanned place hplace => exact .of_newline hscanned hplace
  | case2 s f scanned hnone hlong =>
      refine .tooLong (.start s f) hlong ?_ rfl
      rw [ahead, List.take_left' (show s.pending.data.toList.length = s.pending.size from rfl)]
      exact newline?_eq_none hnone hscanned
  | case3 s f scanned hnone hlimit e rest htake =>
      have hfails := htake
      rw [takeNew, if_pos hopen] at hfails
      refine .failed (Faulty.mem_refills hfails) ?_ (by rw [Faulty.take_error hfails])
      rintro length ⟨n, hends, hlong, -⟩
      cases hends with
      | start => exact hlimit hlong
      | refill take some later => cases htake.symm.trans take
  | case4 s f scanned hnone hlimit chunk rest htake hchunk hempty =>
      obtain ⟨rfl, hrest⟩ := takeNew_ok hopen htake
      refine .ended ?_
      rw [ahead, (hcut.at_end (by decide) hchunk).1, ByteArray.size_eq_zero_iff.mp (eq_of_beq hempty)]
      rfl
  | case5 s f scanned hnone hlimit chunk rest htake hchunk hsome =>
      obtain ⟨rfl, hrest⟩ := takeNew_ok hopen htake
      obtain ⟨hbytes, hgone⟩ := hcut.at_end (by decide) hchunk
      have hahead : s.ahead f.arrivals = s.pending.data.toList := by
        rw [ahead, hbytes, List.append_nil]
      refine .last ?_ ?_ ?_ ?_
      · rw [hahead]
        exact newline?_eq_none hnone hscanned
      · rw [hahead]
        exact Nat.le_of_not_lt hlimit
      · rw [hahead]
        exact told_lineText s.pending
      · rw [ahead, ← hrest, hgone]
        rfl
  | case6 s f scanned hnone hlimit chunk rest htake hchunk n ih =>
      have hcut' : rest.arrivals.Cut := by
        rw [← (takeNew_ok hopen htake).2]
        exact hcut.take chunkSize
      -- only what was pending before is passed over, and it held no newline
      have hscanned' : 10 ∉ (s.pending ++ chunk).data.toList.take s.pending.size := by
        rw [ByteArray.data_append, Array.toList_append,
          List.take_left' (show s.pending.data.toList.length = s.pending.size from rfl)]
        exact newline?_eq_none hnone hscanned
      exact (ih hopen hcut' hscanned').of_refill hopen htake hchunk (Nat.le_of_not_lt hlimit)

theorem limited_readLine (hopen : s.isOpen = true) (hcut : f.arrivals.Cut) :
    Limited s f (s.readLine f) :=
  limited_readLineFrom hopen hcut List.not_mem_nil

/-! ## What becomes of a line -/

/-- A call is answered that the line is too long, and takes nothing. -/
def Refuses (s : Socket) (f : Faulty) : Prop :=
  ∃ pending rest, s.readLine f =
      (.error (.stated .invalidData "line too long"), { s with pending }, rest) ∧
    ahead { s with pending } rest.arrivals = s.ahead f.arrivals

/-- A call fails as the stream does, and takes nothing. -/
def Breaks (s : Socket) (f : Faulty) : Prop :=
  ∃ e pending rest, some e ∈ f.refills ∧ s.readLine f = (.error e, { s with pending }, rest) ∧
    ahead { s with pending } rest.arrivals = s.ahead f.arrivals

/-- A call hands out `line` and leaves `back`. -/
def Hands (s : Socket) (f : Faulty) (line back : List UInt8) : Prop :=
  ∃ answer pending rest, s.readLine f = (answer, { s with pending }, rest) ∧ Told line answer ∧
    ahead { s with pending } rest.arrivals = back

/-- Bytes have one first newline. -/
theorem first_newline_unique {line line' back back' : List UInt8} (hclean : 10 ∉ line)
    (hclean' : 10 ∉ line') (h : line ++ 10 :: back = line' ++ 10 :: back') :
    line = line' ∧ back = back' := by
  have hparts := congrArg (List.splitOn 10) h
  rw [List.splitOn_append_cons_self_of_not_mem hclean,
    List.splitOn_append_cons_self_of_not_mem hclean'] at hparts
  obtain ⟨rfl, -⟩ := List.cons.inj hparts
  exact ⟨rfl, List.tail_eq_of_cons_eq (List.append_cancel_left h)⟩

/-- A beginning without a newline is no longer than the line. -/
theorem le_of_not_mem_take {line back : List UInt8} {n : Nat}
    (h : 10 ∉ (line ++ 10 :: back).take n) : n ≤ line.length := by
  by_contra hlt
  obtain ⟨k, rfl⟩ := Nat.exists_eq_add_of_lt (Nat.lt_of_not_le hlt)
  refine h ?_
  rw [Nat.add_assoc, List.take_length_add_append, List.take_succ_cons]
  exact List.mem_append_right _ (List.mem_cons_self ..)

/-- **THE LIMIT ON A LINE IS LOOKED AT WHERE A READ ENDS.**  Let an open socket have any bytes pending, on
    bytes that arrive in any pieces and a stream that may fail.  A line that ends with a newline is refused
    if a read ends beyond the limit and not beyond the line.  Otherwise it is handed out, unless the stream
    fails before, and then it ends among the bytes that were pending or within one refill of the limit.  A
    last line without a newline is handed out if it is within the limit and refused if it is not, unless
    the stream fails before. -/
theorem limits_lines (hopen : s.isOpen = true) (hcut : f.arrivals.Cut) {line : List UInt8}
    (hclean : 10 ∉ line) :
    (∀ back, s.ahead f.arrivals = line ++ 10 :: back →
      (LooksBeyond s f line.length ∧ maxLineLength < line.length ∧ Refuses s f) ∨
      (¬LooksBeyond s f line.length ∧
        (Breaks s f ∨
          Hands s f (unreturned line) back ∧
            (line.length < s.pending.size ∨ line.length < maxLineLength + chunkSize)))) ∧
    (s.ahead f.arrivals = line → line ≠ [] →
      Breaks s f ∨ (line.length ≤ maxLineLength ∧ Hands s f line []) ∨
        (maxLineLength < line.length ∧ Refuses s f)) := by
  have hlimited := limited_readLine hopen hcut
  generalize hread : s.readLine f = result at hlimited
  refine ⟨fun back hahead => ?_, fun hahead hsome => ?_⟩
  · cases hlimited with
    | line clean before unseen near told after =>
        obtain ⟨rfl, rfl⟩ := first_newline_unique clean hclean (before.symm.trans hahead)
        exact Or.inr ⟨unseen, Or.inr ⟨⟨_, _, _, hread, told, after⟩, near⟩⟩
    | last clean =>
        rw [hahead] at clean
        exact absurd (List.mem_append_right _ (List.mem_cons_self ..)) clean
    | ended nothing =>
        rw [hahead] at nothing
        exact absurd (List.append_eq_nil_iff.mp nothing).2 (List.cons_ne_nil _ _)
    | tooLong ends long clean same =>
        rw [hahead] at clean
        have hwithin := le_of_not_mem_take clean
        exact Or.inl ⟨⟨_, ends, long, hwithin⟩, Nat.lt_of_lt_of_le long hwithin, _, _, hread, same⟩
    | failed given unseen same =>
        exact Or.inr ⟨unseen _, Or.inl ⟨_, _, _, given, hread, same⟩⟩
  · cases hlimited with
    | line clean before =>
        rw [hahead] at before
        exact absurd (before ▸ List.mem_append_right _ (List.mem_cons_self ..)) hclean
    | last clean short told after =>
        rw [hahead] at short told
        exact Or.inr (Or.inl ⟨short, _, _, _, hread, told, after⟩)
    | ended nothing => exact absurd (hahead.symm.trans nothing) hsome
    | tooLong ends long clean same =>
        have hwithin := ends.le_length hopen
        rw [hahead] at hwithin
        exact Or.inr (Or.inr ⟨Nat.lt_of_lt_of_le long hwithin, _, _, hread, same⟩)
    | failed given unseen same => exact Or.inl ⟨_, _, _, given, hread, same⟩

end Call

/-! ## A line that is not seen to be too long -/

section Overlooked

variable {s : Socket} {f : Faulty}

/-- The letter `a`, so many times. -/
def letters (n : Nat) : ByteArray := ⟨(List.replicate n 97).toArray⟩

theorem toList_letters (n : Nat) : (letters n).data.toList = List.replicate n 97 := rfl

theorem size_letters (n : Nat) : (letters n).size = n := List.length_replicate

theorem unreturned_letters (n : Nat) : unreturned (List.replicate n 97) = List.replicate n 97 := by
  rw [unreturned, if_neg]
  rw [List.getLast?_replicate]
  split
  · exact Option.some_ne_none _ ∘ Eq.symm
  · decide

theorem toUTF8_letters (n : Nat) :
    (String.ofList (List.replicate n 'a')).toUTF8.data.toList = List.replicate n 97 := by
  rw [String.toUTF8_eq_toByteArray, String.toByteArray_ofList]
  induction n with
  | zero => rfl
  | succ n ih =>
      rw [List.replicate_succ, List.utf8Encode_cons, ByteArray.data_append, Array.toList_append, ih]
      rfl

/-- Letters are text: whoever is told of them is told that text. -/
theorem told_letters {n : Nat} {answer : Except IoError (Option String)}
    (h : Told (List.replicate n 97) answer) :
    ∃ text : String, answer = .ok (some text) ∧ text.toUTF8.size = n := by
  generalize hline : List.replicate n (97 : UInt8) = line at h
  cases h with
  | text text =>
      refine ⟨text, rfl, ?_⟩
      have hlength := congrArg List.length hline
      rw [List.length_replicate] at hlength
      exact hlength.symm
  | noText failure h found => exact absurd ((toUTF8_letters n).trans hline) (h _)

/-- On bytes that arrive in one piece, reads that follow each other end a whole chunk apart, but for the
    last. -/
theorem ReadEnds.aligned {n : Nat} (h : ReadEnds s f n) (hopen : s.isOpen = true)
    (hone : f.arrivals.pieces.length ≤ 1) :
    n = (s.ahead f.arrivals).length ∨ ∃ k, n = s.pending.size + k * chunkSize := by
  induction h with
  | start s f => exact Or.inr ⟨0, by omega⟩
  | @refill s f rest chunk n take some later ih =>
      have hsame := ahead_refill hopen take
      have hge := later.size_le
      have hle := later.le_length (s := { s with pending := s.pending ++ chunk }) hopen
      obtain ⟨hchunk, hrest⟩ := takeNew_ok hopen take
      rw [← hsame]
      have hcases : rest.arrivals.bytes = [] ∨
          (chunk.size = chunkSize ∧ rest.arrivals.pieces.length ≤ 1) := by
        subst hchunk
        rw [← hrest]
        rcases hpieces : f.arrivals.pieces with _ | ⟨p, ps⟩
        · simp only [Arrivals.take, hpieces] at some
          exact absurd rfl some
        · obtain rfl : ps = [] := by
            rw [hpieces, List.length_cons] at hone
            exact List.length_eq_zero_iff.mp (by omega)
          by_cases hp : p.size ≤ chunkSize
          · refine Or.inl ?_
            simp [Arrivals.take, hpieces, hp, Arrivals.bytes]
          · refine Or.inr ?_
            simp only [Arrivals.take, hpieces, hp, if_false, ByteArray.size_extract, List.length_cons,
              List.length_nil]
            omega
      rcases hcases with hend | ⟨hfull, hpieces⟩
      · -- the piece has come to an end, and with it what is ahead
        refine Or.inl (Nat.le_antisymm hle ?_)
        rw [ahead, hend, List.append_nil]
        exact hge
      · rcases ih hopen hpieces with hlast | ⟨k, hk⟩
        · exact Or.inl hlast
        · refine Or.inr ⟨k + 1, ?_⟩
          rw [hk, ByteArray.size_append, hfull, Nat.add_mul]
          omega

theorem takeNew_steady (hopen : s.isOpen = true) (hsteady : f.refills = []) (n : Nat) :
    s.takeNew f n = (.ok (f.arrivals.take n).1, ⟨(f.arrivals.take n).2, []⟩) := by
  rw [takeNew, if_pos hopen]
  show Faulty.take f n = _
  simp only [Faulty.take, hsteady]
  rfl

/-- A read ends where a piece ends. -/
theorem readEnds_piece {p : ByteArray} {ps : List ByteArray} (hopen : s.isOpen = true)
    (hsteady : f.refills = []) (hpieces : f.arrivals.pieces = p :: ps) (hsome : p.size ≠ 0) :
    ReadEnds s f (s.pending.size + p.size) := by
  induction hlength : p.size using Nat.strong_induction_on generalizing s f p with
  | _ length ih =>
      have htake := takeNew_steady hopen hsteady chunkSize
      by_cases hp : p.size ≤ chunkSize
      · simp only [Arrivals.take, hpieces, hp, if_true] at htake
        have hend := ReadEnds.refill htake hsome (.start _ _)
        rwa [ByteArray.size_append, hlength] at hend
      · simp only [Arrivals.take, hpieces, hp, if_false] at htake
        have hfirst : (p.extract 0 chunkSize).size = chunkSize := by
          rw [ByteArray.size_extract]
          omega
        have hrest : (p.extract chunkSize p.size).size = length - chunkSize := by
          rw [ByteArray.size_extract]
          omega
        have hlater := ih (length - chunkSize) (by simp only [chunkSize] at hp ⊢; omega)
          (s := { s with pending := s.pending ++ p.extract 0 chunkSize })
          (f := ⟨⟨p.extract chunkSize p.size :: ps, f.arrivals.sent⟩, []⟩) hopen rfl rfl (by omega) hrest
        have hend := ReadEnds.refill htake (by rw [hfirst]; decide) hlater
        rwa [ByteArray.size_append, hfirst, Nat.add_assoc, Nat.add_sub_cancel' (by omega)] at hend

/-- A line of so many letters with its ending, in one piece. -/
def letterLine (n : Nat) : Faulty where
  arrivals := { pieces := [letters n ++ ⟨#[10]⟩] }

/-- The same bytes, with the ending in a piece of its own. -/
def letterLineCut (n : Nat) : Faulty where
  arrivals := { pieces := [letters n, ⟨#[10]⟩] }

theorem cut_letterLine (n : Nat) : (letterLine n).arrivals.Cut := by
  intro p hp
  obtain rfl := List.mem_singleton.mp hp
  rw [ByteArray.size_append]
  exact Nat.succ_ne_zero _

theorem cut_letterLineCut {n : Nat} (h : n ≠ 0) : (letterLineCut n).arrivals.Cut := by
  intro p hp
  rcases List.mem_cons.mp hp with rfl | hp
  · rwa [size_letters]
  · obtain rfl := List.mem_singleton.mp hp
    exact Nat.one_ne_zero

theorem ahead_letterLine (n : Nat) :
    ahead { descriptor := 4 } (letterLine n).arrivals = List.replicate n 97 ++ 10 :: [] := by
  simp only [ahead, letterLine, Arrivals.bytes, List.flatMap_cons, List.flatMap_nil, List.append_nil,
    ByteArray.data_append, Array.toList_append, toList_letters]
  rfl

theorem ahead_letterLineCut (n : Nat) :
    ahead { descriptor := 4 } (letterLineCut n).arrivals = List.replicate n 97 ++ 10 :: [] := by
  simp only [ahead, letterLineCut, Arrivals.bytes, List.flatMap_cons, List.flatMap_nil,
    List.append_nil, toList_letters]
  rfl

theorem not_mem_letters (n : Nat) : 10 ∉ List.replicate n (97 : UInt8) := fun h =>
  absurd (List.eq_of_mem_replicate h) (by decide)

/-- **A LINE OVER THE LIMIT IS HANDED OUT** if it arrives in one piece and ends within one refill of the
    limit: no read ends between the two. -/
theorem letterLine_handed_out {n : Nat} (hnear : n < maxLineLength + chunkSize) :
    ∃ text : String, (readLine { descriptor := 4 } (letterLine n)).1 = .ok (some text) ∧
      text.toUTF8.size = n := by
  have hopen : ({ descriptor := 4 } : Socket).isOpen = true := rfl
  have hbytes := ahead_letterLine n
  have hlimited := limited_readLine hopen (cut_letterLine n)
  generalize readLine { descriptor := 4 } (letterLine n) = result at hlimited
  cases hlimited with
  | line clean before unseen near told after =>
      obtain ⟨rfl, -⟩ := first_newline_unique clean (not_mem_letters n) (before.symm.trans hbytes)
      rw [unreturned_letters] at told
      exact told_letters told
  | last clean =>
      rw [hbytes] at clean
      exact absurd (List.mem_append_right _ (List.mem_cons_self ..)) clean
  | ended nothing =>
      rw [hbytes] at nothing
      exact absurd (List.append_eq_nil_iff.mp nothing).2 (List.cons_ne_nil _ _)
  | tooLong ends long clean same =>
      have hwithin := le_of_not_mem_take (hbytes ▸ clean)
      have haligned := ends.aligned hopen (Nat.le_refl 1)
      rw [hbytes, List.length_append, List.length_replicate] at haligned
      rw [List.length_replicate] at hwithin
      rcases haligned with hlast | ⟨k, hk⟩
      · rw [hlast] at hwithin
        exact absurd hwithin (Nat.not_succ_le_self n)
      · -- the limit is itself the end of a read, and the next one is too far away
        rw [show ({ descriptor := 4 } : Socket).pending.size = 0 from rfl, Nat.zero_add] at hk
        simp only [maxLineLength, chunkSize] at *
        omega
  | failed given => cases given

theorem overlong_handed_out :
    ∃ text : String, (readLine { descriptor := 4 } (letterLine 65537)).1 = .ok (some text) ∧
      maxLineLength < text.toUTF8.size := by
  obtain ⟨text, htext, hsize⟩ := letterLine_handed_out (n := 65537) (by decide)
  exact ⟨text, htext, hsize ▸ by decide⟩

/-- With the ending in a piece of its own, a read ends where the letters end. -/
theorem letterLineCut_looksBeyond {n : Nat} (hlong : maxLineLength < n) :
    LooksBeyond { descriptor := 4 } (letterLineCut n) n := by
  have hsome : (letters n).size ≠ 0 := by
    rw [size_letters]
    exact Nat.ne_zero_of_lt hlong
  have hends := readEnds_piece (s := { descriptor := 4 }) (f := letterLineCut n) rfl rfl rfl hsome
  rw [size_letters, show ({ descriptor := 4 } : Socket).pending.size = 0 from rfl, Nat.zero_add]
    at hends
  exact ⟨n, hends, hlong, Nat.le_refl n⟩

theorem limits_lines_letters :
    (letterLineCut 65537).arrivals.Cut ∧ 10 ∉ List.replicate 65537 (97 : UInt8) ∧
      LooksBeyond { descriptor := 4 } (letterLineCut 65537) 65537 ∧
      Refuses { descriptor := 4 } (letterLineCut 65537) := by
  have hcut := cut_letterLineCut (n := 65537) (by decide)
  have hlooks := letterLineCut_looksBeyond (n := 65537) (by decide)
  obtain ⟨hlines, -⟩ := limits_lines (s := { descriptor := 4 }) rfl hcut (not_mem_letters 65537)
  rcases hlines [] (ahead_letterLineCut 65537) with ⟨-, -, hrefuses⟩ | ⟨hunseen, -⟩
  · exact ⟨hcut, not_mem_letters _, hlooks, hrefuses⟩
  · rw [List.length_replicate] at hunseen
    exact absurd hlooks hunseen

end Overlooked

end Socket

end PooledServer.Net
