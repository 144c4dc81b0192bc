import PooledServer.Net.Line
import PooledServer.Proofs.Net.Ahead

/-!
# Lines do not hang on the pieces

    The bytes that a peer sends have lines: the parts between newlines, each without one carriage return
    at its end, and what follows the last newline (`Line.lines`).  If no part is over the limit, a reader
    gets these lines one by one, or for each that is not text the news of that, and then the end, as often
    as it asks (`Socket.reads_lines`).

    A call looks for a newline only among the bytes that came last, and gives up as soon as too many are
    pending without one.  Neither can be seen from outside: what was scanned before held no newline, and
    what is pending without a newline begins a part that is within the limit. -/

namespace PooledServer.Net

namespace Line

/-! ## What bytes say -/

/-- A line without the carriage return of its ending. -/
def unreturned (line : List UInt8) : List UInt8 :=
  if line.getLast? = some 13 then line.dropLast else line

/-- The lines of `bytes`: every part that ends with a newline, without its ending, and the part after the
    last newline, as it stands, if there is any. -/
def lines (bytes : List UInt8) : List (List UInt8) :=
  let parts := bytes.splitOn 10
  parts.dropLast.map unreturned ++ parts.getLast?.toList.filter (· ≠ [])

/-- What a reader is told of a line: its text, or where it stops being text. -/
inductive Told : List UInt8 → Except IoError (Option String) → Prop where
  | text (text : String) : Told text.toUTF8.data.toList (.ok (some text))
  | noText {line : List UInt8} (failure : Text.Utf8Error)
      (h : ∀ text : String, text.toUTF8.data.toList ≠ line)
      (found : Text.Utf8.decode ⟨line.toArray⟩ = .error failure) :
      Told line (.error (.stated .invalidData failure.message))

/-- Of a line that was read nobody is told that it is too long. -/
theorem Told.ne_tooLong {line : List UInt8} {answer : Except IoError (Option String)}
    (h : Told line answer) : answer ≠ .error (.stated .invalidData "line too long") := by
  cases h with
  | text text => exact fun heq => nomatch heq
  | noText failure h found =>
      intro heq
      have hmessage : failure.message = "line too long" := by simpa using heq
      -- both wordings of the decoder begin with another letter
      have hfirst := congrArg (fun text => text.toList.head?) hmessage
      simp only [Text.Utf8Error.message] at hfirst
      split at hfirst <;> simp [toString] at hfirst

/-- No part between newlines is over the limit. -/
def Short (bytes : List UInt8) : Prop := ∀ part ∈ bytes.splitOn 10, part.length ≤ maxLineLength

section Parts

variable {line back bytes : List UInt8}

theorem lines_append (h : 10 ∉ line) : lines (line ++ 10 :: back) = unreturned line :: lines back := by
  have hne := List.splitOn_ne_nil (10 : UInt8) back
  simp only [lines]
  rw [List.splitOn_append_cons_self_of_not_mem h, List.dropLast_cons_of_ne_nil hne, List.map_cons,
    List.cons_append, List.getLast?_cons, List.getLast?_eq_some_getLast hne]
  rfl

theorem lines_last (h : 10 ∉ line) (hsome : line ≠ []) : lines line = [line] := by
  simp [lines, List.splitOn_eq_singleton h, hsome]

theorem lines_nil : lines [] = [] := rfl

theorem Short.after (hshort : Short (line ++ 10 :: back)) (h : 10 ∉ line) : Short back := by
  intro part hpart
  refine hshort part ?_
  rw [List.splitOn_append_cons_self_of_not_mem h]
  exact List.mem_cons_of_mem _ hpart

/-- What begins the bytes and holds no newline is within the limit. -/
theorem Short.length_le (hshort : Short (line ++ bytes)) (h : 10 ∉ line) :
    line.length ≤ maxLineLength := by
  by_cases hmem : 10 ∈ bytes
  · obtain ⟨front, back, rfl, hfront⟩ := List.eq_append_cons_of_mem hmem
    have hclean : 10 ∉ line ++ front := by
      rw [List.mem_append, not_or]
      exact ⟨h, hfront⟩
    rw [← List.append_assoc] at hshort
    have hpart := hshort (line ++ front) (by
      rw [List.splitOn_append_cons_self_of_not_mem hclean]
      exact List.mem_cons_self ..)
    rw [List.length_append] at hpart
    omega
  · have hclean : 10 ∉ line ++ bytes := by
      rw [List.mem_append, not_or]
      exact ⟨h, hmem⟩
    have hpart := hshort (line ++ bytes) (by
      rw [List.splitOn_eq_singleton hclean]
      exact List.mem_singleton_self _)
    rw [List.length_append] at hpart
    omega

end Parts

end Line

namespace Socket

open Line

/-! ## Looking for a newline -/

section Newline

variable {b : ByteArray} {start place : Nat}

theorem not_mem_take_succ (hlt : start < b.size) (hbyte : b[start] ≠ 10)
    (hbefore : 10 ∉ b.data.toList.take start) : 10 ∉ b.data.toList.take (start + 1) := by
  rw [List.take_succ_eq_append_getElem (l := b.data.toList) hlt, List.mem_append, not_or]
  exact ⟨hbefore, fun h => hbyte (List.mem_singleton.mp h).symm⟩

/-- The newline that is found is the first, if none was passed over. -/
theorem newline?_eq_some (h : newline? b start = some place)
    (hbefore : 10 ∉ b.data.toList.take start) :
    10 ∉ b.data.toList.take place ∧
    b.data.toList = b.data.toList.take place ++ 10 :: b.data.toList.drop (place + 1) := by
  fun_induction newline? b start with
  | case1 start hlt hbyte =>
    obtain rfl := Option.some.inj h
    refine ⟨hbefore, ?_⟩
    have hdrop := List.drop_eq_getElem_cons (l := b.data.toList) hlt
    rw [show b.data.toList[start] = 10 from hbyte] at hdrop
    rw [← hdrop, List.take_append_drop]
  | case2 start hlt hbyte ih => exact ih h (not_mem_take_succ hlt hbyte hbefore)
  | case3 => cases h

/-- If none is found there is none. -/
theorem newline?_eq_none (h : newline? b start = none) (hbefore : 10 ∉ b.data.toList.take start) :
    10 ∉ b.data.toList := by
  fun_induction newline? b start with
  | case1 => cases h
  | case2 start hlt hbyte ih => exact ih h (not_mem_take_succ hlt hbyte hbefore)
  | case3 start hge => rwa [List.take_of_length_le (Nat.le_of_not_lt hge)] at hbefore

end Newline

/-! ## The end of a line -/

theorem toList_withoutReturn (bytes : ByteArray) :
    (withoutReturn bytes).data.toList = unreturned bytes.data.toList := by
  have hlast : bytes[bytes.size - 1]? = bytes.data.toList.getLast? := by
    rw [List.getLast?_eq_getElem?]
    simp [getElem?_def]
    rfl
  simp only [withoutReturn, unreturned, hlast]
  split
  · rw [ByteArray.data_extract, Array.toList_extract, List.extract_eq_take_drop,
      List.dropLast_eq_take]
    rfl
  · rfl

/-- What a reader is told of a line is its text, or that it has none. -/
theorem told_lineText (line : ByteArray) : Told line.data.toList (lineText line) := by
  simp only [lineText, Text.Utf8.decode, String.fromUTF8?]
  by_cases hvalid : line.IsValidUTF8
  · rw [dif_pos hvalid]
    exact .text (String.fromUTF8 line hvalid)
  · rw [dif_neg hvalid]
    refine .noText _ (fun text htext => hvalid ?_) ?_
    · have hline : text.toUTF8 = line := ByteArray.ext (Array.toList_inj.mp htext)
      exact hline ▸ text.isValidUTF8
    · simp only [Text.Utf8.decode, String.fromUTF8?]
      rw [dif_neg hvalid]

/-! ## Reading -/

section Read

variable {s : Socket} {a : Arrivals}

/-- What reading one line comes to, told by the bytes ahead before and after it. -/
inductive LineRead : List UInt8 → Except IoError (Option String) → List UInt8 → Prop where
  | line {line : List UInt8} {text : ByteArray} {back : List UInt8} (clean : 10 ∉ line)
      (h : text.data.toList = unreturned line) : LineRead (line ++ 10 :: back) (lineText text) back
  | last {text : ByteArray} (clean : 10 ∉ text.data.toList) (some : text.data.toList ≠ []) :
      LineRead text.data.toList (lineText text) []
  | ended : LineRead [] (.ok none) []

/-- **A CALL READS THE NEXT LINE**, if none of the first `scanned` pending bytes is a newline. -/
theorem lineRead_readLineFrom (hopen : s.isOpen = true) (hcut : a.Cut) (hshort : Short (s.ahead a))
    {scanned : Nat} (hscanned : 10 ∉ s.pending.data.toList.take scanned) :
    ∃ answer pending rest, s.readLineFrom a scanned = (answer, { s with pending }, rest) ∧ rest.Cut ∧
      LineRead (s.ahead a) answer (ahead { s with pending } rest) := by
  fun_induction readLineFrom s a scanned with
  | case1 s a scanned place hplace =>
    obtain ⟨hclean, hpending⟩ := newline?_eq_some hplace hscanned
    have hlt := newline?_lt hplace
    have hfront : (s.pending.data.toList.take place ++ [10]).length = place + 1 := by
      rw [List.length_append, List.length_take_of_le (Nat.le_of_lt hlt)]
      rfl
    have hahead : s.ahead a = (s.pending.data.toList.take place ++ [10]) ++
        (s.pending.data.toList.drop (place + 1) ++ a.bytes) := by
      rw [List.append_assoc, List.singleton_append, ← List.cons_append, ← List.append_assoc,
        ← hpending]
      rfl
    have hback := (ahead_front _ hahead (hfront ▸ hlt)).2
    rw [hfront] at hback
    refine ⟨_, _, a, rfl, hcut, ?_⟩
    rw [hback, hahead, List.append_assoc]
    refine .line hclean ?_
    rw [toList_withoutReturn, ByteArray.data_extract, Array.toList_extract,
      List.extract_eq_take_drop]
    rfl
  | case2 s a scanned hnone hlong =>
    exact absurd (hshort.length_le (newline?_eq_none hnone hscanned)) (Nat.not_le_of_lt hlong)
  | case3 s a scanned hnone hlimit e rest htake =>
    rw [takeNew_eq hopen] at htake
    cases congrArg Prod.fst htake
  | case4 s a scanned hnone hlimit chunk rest htake hchunk hempty =>
    obtain ⟨rfl, rfl⟩ := takeNew_inj hopen htake
    obtain ⟨hbytes, hgone⟩ := hcut.at_end (by decide) hchunk
    refine ⟨_, s.pending, _, rfl, hcut.take _, ?_⟩
    rw [ahead, ahead, hbytes, hgone, ByteArray.size_eq_zero_iff.mp (eq_of_beq hempty)]
    exact .ended
  | case5 s a scanned hnone hlimit chunk rest htake hchunk hsome =>
    obtain ⟨rfl, rfl⟩ := takeNew_inj hopen htake
    obtain ⟨hbytes, hgone⟩ := hcut.at_end (by decide) hchunk
    refine ⟨_, .empty, _, rfl, hcut.take _, ?_⟩
    rw [ahead, ahead, hbytes, hgone, List.append_nil]
    exact .last (newline?_eq_none hnone hscanned) fun h =>
      hsome (beq_iff_eq.mpr (congrArg List.length h))
  | case6 s a scanned hnone hlimit chunk rest htake hchunk n ih =>
    obtain ⟨rfl, rfl⟩ := takeNew_inj hopen htake
    -- only what was pending before is passed over, and it held no newline
    have hscanned' : 10 ∉ (s.pending ++ (a.take chunkSize).1).data.toList.take s.pending.size := by
      rw [ByteArray.data_append, Array.toList_append,
        List.take_left' (show s.pending.data.toList.length = s.pending.size from rfl)]
      exact newline?_eq_none hnone hscanned
    have hsame := s.ahead_chunk a chunkSize
    rw [← hsame]
    exact ih hopen (hcut.take _) (hsame ▸ hshort) hscanned'

theorem LineRead.told {bytes back : List UInt8} {answer : Except IoError (Option String)}
    (h : LineRead bytes answer back) :
    (lines bytes = [] ∧ answer = .ok none ∧ back = []) ∨
      ∃ line, lines bytes = line :: lines back ∧ answer = lineText ⟨line.toArray⟩ := by
  cases h with
  | @line line text back clean h =>
    refine Or.inr ⟨_, lines_append clean, ?_⟩
    rw [← h]
  | @last text clean some => exact Or.inr ⟨_, lines_last clean some, rfl⟩
  | ended => exact Or.inl ⟨rfl, rfl, rfl⟩

theorem LineRead.short {bytes back : List UInt8} {answer : Except IoError (Option String)}
    (h : LineRead bytes answer back) (hshort : Short bytes) : Short back := by
  cases h with
  | line clean h => exact hshort.after clean
  | last | ended =>
    intro part hpart
    rw [List.splitOn_nil, List.mem_singleton] at hpart
    rw [hpart]
    exact Nat.zero_le _

/-- **EVERY CALL GETS THE NEXT LINE**, and after the last the end. -/
theorem answers_of_lines (hopen : s.isOpen = true) (hcut : a.Cut) (hshort : Short (s.ahead a))
    (n : Nat) :
    answers readLine s a n =
      ((lines (s.ahead a)).take n).map (fun line => lineText ⟨line.toArray⟩) ++
        List.replicate (n - (lines (s.ahead a)).length) (.ok none) := by
  induction n generalizing s a with
  | zero =>
    rw [Nat.zero_sub, List.take_zero]
    rfl
  | succ n ih =>
    have hnone : 10 ∉ s.pending.data.toList.take 0 := List.not_mem_nil
    obtain ⟨answer, pending, rest, hread, hcut', hline⟩ :=
      lineRead_readLineFrom hopen hcut hshort hnone
    rw [answers_succ hread, ih (s := { s with pending }) hopen hcut' (hline.short hshort)]
    rcases hline.told with ⟨hnone, rfl, hback⟩ | ⟨line, hlines, rfl⟩
    · rw [hback, hnone, lines_nil, List.take_nil, List.take_nil]
      rfl
    · rw [hlines, List.length_cons, Nat.add_sub_add_right]
      rfl

/-- **LINES DO NOT HANG ON THE PIECES**: an open socket with nothing pending, on bytes of which no part
    between newlines is over the limit, reads the lines one by one, however the bytes arrive, and then
    the end as often as it asks. -/
theorem reads_lines (hopen : s.isOpen = true) (hfresh : s.pending = .empty) (hcut : a.Cut)
    (hshort : Short a.bytes) :
    ∃ told, List.Forall₂ Told (lines a.bytes) told ∧
      ∀ n, answers readLine s a n =
        told.take n ++ List.replicate (n - told.length) (.ok none) := by
  have hahead : s.ahead a = a.bytes := by
    rw [ahead, hfresh]
    rfl
  refine ⟨(lines a.bytes).map fun line => lineText ⟨line.toArray⟩, ?_, fun n => ?_⟩
  · refine List.forall₂_map_right_iff.mpr (List.forall₂_same.mpr fun line _ => ?_)
    exact told_lineText ⟨line.toArray⟩
  · rw [answers_of_lines hopen hcut (hahead ▸ hshort), hahead, List.map_take, List.length_map]

end Read

/-- A line with a carriage return, a line that is not text and a last line without an ending, in pieces
    that cut both endings. -/
def cutLines : Arrivals where
  pieces := [⟨#[97, 13]⟩, ⟨#[10, 255]⟩, ⟨#[10, 98]⟩]

theorem reads_lines_cutLines :
    cutLines.Cut ∧ Short cutLines.bytes ∧ lines cutLines.bytes = [[97], [255], [98]] ∧
    ∃ told, List.Forall₂ Told (lines cutLines.bytes) told ∧
      ∀ n, answers readLine { descriptor := 4 } cutLines n =
        told.take n ++ List.replicate (n - told.length) (.ok none) := by
  have hcut : cutLines.Cut := by
    unfold Arrivals.Cut
    decide
  have hshort : Short cutLines.bytes := by
    unfold Short
    decide
  exact ⟨hcut, hshort, by decide, reads_lines rfl rfl hcut hshort⟩

end Socket

end PooledServer.Net
