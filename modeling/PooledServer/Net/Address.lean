import PooledServer.Text.Basic

/-!
# Internet addresses

    Addresses of both families, read from text and written to text.  Reading is strict: no leading
    zeros in the dotted form, at most four hexadecimal digits in a group.  Only an endpoint may have a
    scope, which is the number of an interface.  Writing
    an address of the newer family follows RFC 5952: the longest run of zero groups (the first of
    equal ones, and only if it has at least two groups) becomes a double colon.
-/

namespace PooledServer.Net

/-- An address of either family. -/
inductive Address where
  /-- Four bytes. -/
  | v4 (a b c d : UInt8)
  /-- Eight groups of sixteen bits. -/
  | v6 (groups : Vector UInt16 8)
  deriving DecidableEq, Repr

/-- An address and a port. -/
structure Endpoint where
  address : Address
  port : UInt16
  /-- The interface to which a link-local address belongs; zero for none. -/
  scope : UInt32 := 0
  deriving DecidableEq, Repr

namespace Address

/-! ## Reading -/

/-- The value of a hexadecimal digit. -/
def hexDigit? (c : Char) : Option Nat :=
  if '0' ≤ c ∧ c ≤ '9' then some (c.toNat - 48)
  else if 'a' ≤ c ∧ c ≤ 'f' then some (c.toNat - 87)
  else if 'A' ≤ c ∧ c ≤ 'F' then some (c.toNat - 55)
  else none

/-- The digits at the start of `cs` as a number in `base`, and the rest. -/
def takeNumber (digit? : Char → Option Nat) (base : Nat) (cs : List Char) : List Nat × List Char :=
  match cs with
  | [] => ([], [])
  | c :: rest =>
    match digit? c with
    | some d => let (ds, rest') := takeNumber digit? base rest; (d :: ds, rest')
    | none => ([], cs)

/-- The number with digits `ds`. -/
def ofDigits (base : Nat) (ds : List Nat) : Nat :=
  ds.foldl (fun n d => n * base + d) 0

/-- One part of the dotted form: one to three decimal digits, at most 255, no leading zero. -/
def octet? (cs : List Char) : Option (UInt8 × List Char) :=
  match takeNumber Text.digit? 10 cs with
  | ([], _) => none
  | (ds, rest) =>
    let n := ofDigits 10 ds
    if ds.length ≤ 3 ∧ n < 256 ∧ ¬ (ds.head? = some 0 ∧ 1 < ds.length) then some (n.toUInt8, rest)
    else none

/-- Drops the character `c` from the front. -/
def skip? (c : Char) : List Char → Option (List Char)
  | d :: rest => if d = c then some rest else none
  | [] => none

/-- The dotted form at the start of `cs`. -/
def dotted? (cs : List Char) : Option ((UInt8 × UInt8 × UInt8 × UInt8) × List Char) := do
  let (a, cs) ← octet? cs
  let (b, cs) ← octet? (← skip? '.' cs)
  let (c, cs) ← octet? (← skip? '.' cs)
  let (d, cs) ← octet? (← skip? '.' cs)
  pure ((a, b, c, d), cs)

/-- One group: one to four hexadecimal digits. -/
def group? (cs : List Char) : Option (UInt16 × List Char) :=
  match takeNumber hexDigit? 16 cs with
  | ([], _) => none
  | (ds, rest) => if ds.length ≤ 4 then some ((ofDigits 16 ds).toUInt16, rest) else none

/-- Two bytes as one group. -/
def pair (a b : UInt8) : UInt16 :=
  a.toUInt16 * 256 + b.toUInt16

/-- At most `room` groups with colons between them, as many as there are, and whether they end in
    the dotted form, which takes the room of two groups.  `first` tells that no group came before. -/
def takeGroups (room : Nat) (first : Bool) (cs : List Char) : List UInt16 × Bool × List Char :=
  match room with
  | 0 => ([], false, cs)
  | room + 1 =>
    let start? := if first then some cs else skip? ':' cs
    match start? with
    | none => ([], false, cs)
    | some start =>
      let dotted := if 1 ≤ room then dotted? start else none
      match dotted with
      | some ((a, b, c, d), rest) => ([pair a b, pair c d], true, rest)
      | none =>
        match group? start with
        | none => ([], false, cs)
        | some (g, rest) =>
          let (gs, isDotted, rest') := takeGroups room false rest
          (g :: gs, isDotted, rest')

/-- Eight groups, if `gs` are that many. -/
def ofGroups? (gs : List UInt16) : Option Address :=
  if h : gs.length = 8 then some (.v6 ⟨gs.toArray, by simpa using h⟩) else none

/-- An address in groups at the start of `cs`.  One double colon stands for at least one zero group,
    and the dotted form may only come last. -/
def grouped? (cs : List Char) : Option (Address × List Char) :=
  let (front, isDotted, rest) := takeGroups 8 true cs
  if front.length = 8 then (ofGroups? front).map (·, rest)
  else if isDotted then none
  else do
    let rest ← skip? ':' (← skip? ':' rest)
    let (back, _, rest) := takeGroups (7 - front.length) true rest
    let zeros := List.replicate (8 - front.length - back.length) 0
    (ofGroups? (front ++ zeros ++ back)).map (·, rest)

/-- Reads an address of either family; nothing may follow it. -/
def parse? (s : String) : Option Address :=
  match dotted? s.toList with
  | some ((a, b, c, d), []) => some (.v4 a b c d)
  | some _ => none
  | none =>
    match grouped? s.toList with
    | some (address, []) => some address
    | _ => none

/-! ## Writing -/

/-- Start and length of the longest run of zeros in `gs`, which begin at `index`; the first of
    equal ones. -/
def longestZeros (index : Nat) : List UInt16 → Nat × Nat
  | [] => (index, 0)
  | g :: gs =>
    let run := ((g :: gs).takeWhile (· == 0)).length
    let later := longestZeros (index + 1) gs
    if run ≠ 0 ∧ later.2 ≤ run then (index, run) else later

/-- A group in lower-case hexadecimal without leading zeros. -/
def groupText (g : UInt16) : String :=
  String.ofList (Nat.toDigits 16 g.toNat)

/-- Groups with colons between them. -/
def groupsText (gs : List UInt16) : String :=
  String.intercalate ":" (gs.map groupText)

/-- The dotted form of two groups. -/
def dottedText (a b c d : UInt8) : String :=
  String.intercalate "." ([a, b, c, d].map fun x => toString x.toNat)

/-- The text of an address. -/
def text : Address → String
  | v4 a b c d => dottedText a b c d
  | v6 groups =>
    match groups.toList with
    | [0, 0, 0, 0, 0, 0xFFFF, x, y] =>
      "::ffff:" ++ dottedText (x / 256).toUInt8 (x % 256).toUInt8 (y / 256).toUInt8 (y % 256).toUInt8
    | gs =>
      let (start, count) := longestZeros 0 gs
      if 1 < count then
        groupsText (gs.take start) ++ "::" ++ groupsText (gs.drop (start + count))
      else groupsText gs

/-- The address that stands for all interfaces. -/
def unspecified : Address := .v4 0 0 0 0

/-- The address of the machine itself. -/
def loopback : Address := .v4 127 0 0 1

end Address

/-- The text of an endpoint; groups stand in brackets before the port. -/
def Endpoint.text (e : Endpoint) : String :=
  match e.address with
  | .v4 .. => s!"{e.address.text}:{e.port.toNat}"
  | .v6 _ =>
    let scope := if e.scope = 0 then "" else s!"%{e.scope.toNat}"
    s!"[{e.address.text}{scope}]:{e.port.toNat}"

/-- Reads the port that ends an endpoint: a colon and decimal digits. -/
def Endpoint.port? (cs : List Char) : Option UInt16 :=
  match cs with
  | ':' :: d :: ds => (Text.digits? 65536 0 (d :: ds)).map (·.toUInt16)
  | _ => none

/-- Reads the scope at the start of `cs`, if there is one. -/
def Endpoint.takeScope (cs : List Char) : UInt32 × List Char :=
  match cs with
  | '%' :: cs =>
    match Address.takeNumber Text.digit? 10 cs with
    | ([], _) => (0, '%' :: cs)
    | (ds, rest) =>
      let n := Address.ofDigits 10 ds
      if n < UInt32.size then (n.toUInt32, rest) else (0, '%' :: cs)
  | cs => (0, cs)

/-- Reads an endpoint as it is written. -/
def Endpoint.parse? (s : String) : Option Endpoint :=
  match s.toList with
  | '[' :: cs =>
    (Address.grouped? cs).bind fun (address, cs) =>
      match takeScope cs with
      | (scope, ']' :: rest) => (port? rest).map fun port => { address, port, scope }
      | _ => none
  | cs =>
    (Address.dotted? cs).bind fun ((a, b, c, d), rest) =>
      (port? rest).map fun port => { address := .v4 a b c d, port }

end PooledServer.Net
