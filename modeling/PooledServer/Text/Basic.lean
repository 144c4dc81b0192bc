import PooledServer.Text.CaseTable

/-!
# Texts

    What the server does with texts that it reads as settings, and with bytes that it shows: trimming,
    decimal numbers, case and digests.
-/

namespace PooledServer.Text

open CaseTable

/-! ## White space

    The `White_Space` property of the Unicode standard, and trimming by it.  Every text that the
    server reads as a setting is trimmed this way before it is looked at. -/

/-- The characters with the property `White_Space`. -/
def isBlank (c : Char) : Bool :=
  let n := c.toNat
  (0x09 ≤ n && n ≤ 0x0D) || n == 0x20 || n == 0x85 || n == 0xA0 || n == 0x1680
    || (0x2000 ≤ n && n ≤ 0x200A) || n == 0x2028 || n == 0x2029 || n == 0x202F || n == 0x205F
    || n == 0x3000

/-- The characters without the blanks at both ends. -/
def trimChars (cs : List Char) : List Char :=
  ((cs.dropWhile isBlank).reverse.dropWhile isBlank).reverse

/-- The text without the blanks at both ends. -/
def trim (s : String) : String :=
  String.ofList (trimChars s.toList)

/-! ## Decimal numbers

    A number is written with decimal digits and at most one plus sign before them.  It must fit the
    width that the reader asks for. -/

/-- The value of a decimal digit. -/
def digit? (c : Char) : Option Nat :=
  if '0' ≤ c ∧ c ≤ '9' then some (c.toNat - 48) else none

/-- The number that the digits `cs` make of `acc`, or `none` at the first other character.  More digits
    never make a number less, so there is none either once `bound` is reached. -/
def digits? (bound acc : Nat) : List Char → Option Nat
  | [] => some acc
  | c :: rest =>
    match digit? c with
    | some d => if acc * 10 + d < bound then digits? bound (acc * 10 + d) rest else none
    | none => none

/-- The number below `bound` that `s` writes. -/
def unsigned? (bound : Nat) (s : String) : Option Nat :=
  let cs := match s.toList with
    | '+' :: rest => rest
    | cs => cs
  match cs with
  | [] => none
  | cs => digits? bound 0 cs

/-! ## Full case conversion

    Lower and upper case of whole texts as the Unicode standard defines them without a locale: a
    letter may become several, and a capital sigma at the end of a word becomes the final form. -/

/-- Whether code point `c` lies in one of the ranges. -/
def inRanges (ranges : Array (Nat × Nat)) (c : Nat) : Bool :=
  ranges.any fun r => r.1 ≤ c && c ≤ r.2

/-- The image of a character under a table of runs and a table of sequences; itself if it is in
    neither. -/
def image (runs : Array Run) (sequences : Array (Nat × List Nat)) (c : Char) : List Char :=
  match sequences.find? (·.1 == c.toNat) with
  | some (_, cs) => cs.map Char.ofNat
  | none =>
    match runs.findSome? (·.image? c.toNat) with
    | some n => [Char.ofNat n]
    | none => [c]

/-- Lower case of one character by itself.  Letters of the ASCII range need no table. -/
def lowerChar (c : Char) : List Char :=
  if c.toNat < 0x80 then [c.toLower] else image lowerRuns lowerSequences c

/-- Upper case of one character by itself. -/
def upperChar (c : Char) : List Char :=
  if c.toNat < 0x80 then [c.toUpper] else image upperRuns upperSequences c

/-- Whether the first character that is not to be ignored is a letter with a case. -/
def startsCased (cs : List Char) : Bool :=
  match cs.dropWhile fun c => inRanges caseIgnorable c.toNat with
  | c :: _ => inRanges cased c.toNat
  | [] => false

/-- Lower case of the characters `cs`, which follow the characters `before` (nearest first). -/
def lowerChars (before : List Char) : List Char → List Char
  | [] => []
  | c :: rest =>
    let here :=
      if c == 'Σ' then
        if startsCased before && !startsCased rest then ['ς'] else ['σ']
      else lowerChar c
    here ++ lowerChars (c :: before) rest

/-- The text in lower case. -/
def lower (s : String) : String :=
  String.ofList (lowerChars [] s.toList)

/-- The text in upper case. -/
def upper (s : String) : String :=
  String.ofList (s.toList.flatMap upperChar)

/-! ## A short digest of bytes

    The 64-bit FNV-1a hash, written with sixteen hexadecimal digits, stands for byte strings that are
    too long to show. -/

/-- The 64-bit FNV-1a hash. -/
def fnv1a (bytes : ByteArray) : UInt64 :=
  bytes.foldl (fun h b => (h ^^^ b.toUInt64) * 0x100000001b3) 0xcbf29ce484222325

/-- A hexadecimal digit in lower case. -/
def hexDigit (n : Nat) : Char :=
  (Nat.digitChar n)

/-- `count` hexadecimal digits of `n`, most significant first. -/
def hexDigits (count n : Nat) : List Char :=
  (List.range count).reverse.map fun i => hexDigit (n >>> (4 * i) % 16)

/-- Each byte as two hexadecimal digits. -/
def hex (bytes : ByteArray) : String :=
  String.ofList (bytes.toList.flatMap fun b => hexDigits 2 b.toNat)

/-- The digest of the bytes as text. -/
def digest (bytes : ByteArray) : String :=
  String.ofList (hexDigits 16 (fnv1a bytes).toNat)

end PooledServer.Text
