/-!
# Reading bytes as UTF-8

    Either the text, or the place where the bytes stop being UTF-8: how many bytes before it are
    good, and how long the sequence is that cannot be continued to a character.  A sequence that the
    end of the bytes cuts off has no length.
-/

namespace PooledServer.Text

/-- Where and how bytes fail to be UTF-8. -/
structure Utf8Error where
  validUpTo : Nat
  badLength : Option Nat
  deriving DecidableEq, Repr

namespace Utf8Error

/-- The wording of the failure. -/
def message (e : Utf8Error) : String :=
  match e.badLength with
  | some n => s!"invalid utf-8 sequence of {n} bytes from index {e.validUpTo}"
  | none => s!"incomplete utf-8 byte sequence from index {e.validUpTo}"

end Utf8Error

namespace Utf8

/-- Number of bytes of the character that begins with `b`; zero if none does. -/
def width (b : UInt8) : Nat :=
  if b < 0x80 then 1
  else if 0xC2 ≤ b ∧ b ≤ 0xDF then 2
  else if 0xE0 ≤ b ∧ b ≤ 0xEF then 3
  else if 0xF0 ≤ b ∧ b ≤ 0xF4 then 4
  else 0

/-- Whether `b` may be the second byte of a character that begins with `first`. -/
def mayFollow (first b : UInt8) : Bool :=
  let low : UInt8 := if first == 0xE0 then 0xA0 else if first == 0xF0 then 0x90 else 0x80
  let high : UInt8 := if first == 0xED then 0x9F else if first == 0xF4 then 0x8F else 0xBF
  low ≤ b && b ≤ high

/-- Whether `b` continues a character. -/
def isTail (b : UInt8) : Bool :=
  0x80 ≤ b && b ≤ 0xBF

/-- The bytes after the first of a character of `n` bytes: `none` if they are all good, else the
    length of the bad sequence. -/
def checkRest (first : UInt8) (n : Nat) (rest : List UInt8) : Option (Option Nat) :=
  match n, rest with
  | 0, _ => some (some 1)
  | 1, _ => none
  | _, [] => some none
  | n + 2, b :: rest =>
    if !mayFollow first b then some (some 1)
    else
      match n, rest with
      | 0, _ => none
      | _, [] => some none
      | n + 1, c :: rest =>
        if !isTail c then some (some 2)
        else
          match n, rest with
          | 0, _ => none
          | _, [] => some none
          | _ + 1, d :: _ => if !isTail d then some (some 3) else none

/-- The first failure in `bytes`, which begin at `index`; `skip` bytes of a character already
    checked come first. -/
def failure? (index skip : Nat) : List UInt8 → Option Utf8Error
  | [] => none
  | b :: rest =>
    match skip with
    | k + 1 => failure? (index + 1) k rest
    | 0 =>
      match checkRest b (width b) rest with
      | some bad => some ⟨index, bad⟩
      | none => failure? (index + 1) (width b - 1) rest

/-- The bytes as text. -/
def decode (bytes : ByteArray) : Except Utf8Error String :=
  match String.fromUTF8? bytes with
  | some s => .ok s
  | none => .error ((failure? 0 0 bytes.toList).getD ⟨0, none⟩)

/-- What stands in a text for bytes that are no character. -/
def replacement : Char := Char.ofNat 0xFFFD

/-- The good parts of `bytes` with a replacement for every bad sequence between them, at most `fuel` of
    them. -/
def mend (fuel : Nat) (bytes : List UInt8) : List Char :=
  match fuel with
  | 0 => []
  | fuel + 1 =>
    let good (bs : List UInt8) : List Char := ((String.fromUTF8? ⟨bs.toArray⟩).getD "").toList
    match failure? 0 0 bytes with
    | none => good bytes
    | some ⟨n, none⟩ => good (bytes.take n) ++ [replacement]
    | some ⟨n, some bad⟩ => good (bytes.take n) ++ replacement :: mend fuel (bytes.drop (n + bad))

/-- The bytes as text, in which a replacement stands for every sequence that cannot be continued to a
    character.  Every such sequence takes at least one byte. -/
def decodeLossy (bytes : ByteArray) : String :=
  match String.fromUTF8? bytes with
  | some s => s
  | none => String.ofList (mend (bytes.size + 1) bytes.toList)

end Utf8

end PooledServer.Text
