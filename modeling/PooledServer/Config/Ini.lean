import PooledServer.Text.Basic
import PooledServer.Net.Address

/-!
# Configuration files

    The grammar of configuration files and the settings they hold.

    A file is a sequence of items with blanks between them: a comment (a line that begins with a
    semicolon or a number sign in its very first column), the name of a section in brackets, or a key,
    an equals sign or colon, and a value.  A value ends with its line unless it begins with a quote, in
    which case it runs to the same quote and on to the end of that line.  Names, keys and values may
    hold escapes, which begin with a backslash.

    Settings form a tree of tables.  A key before any section is a setting of its own, and so is each
    section with its keys as a table.  A dotted name is a path into the tree.  Case does not count.
-/

namespace PooledServer.Config.Ini

/-- A place in a text: line ends before it and on it, and characters since the last one. -/
structure Place where
  line : Nat := 0
  column : Nat := 0
  deriving DecidableEq, Repr

/-- What is wrong with a text. -/
inductive Fault where
  | commentNotInFirstColumn
  /-- The text ends before one of these; `none` stands for the end itself. -/
  | endOfText (expected : List (Option Char))
  | missingKey
  | badEscape
  /-- A backslash inside an escape is not followed by a line end. -/
  | brokenEscape (found : Option Char)
  deriving DecidableEq, Repr

/-- Why a text is not a configuration file, and where. -/
structure SyntaxError where
  place : Place
  fault : Fault
  deriving DecidableEq, Repr

/-- A character in quotes, as messages show it. -/
def quoted (c : Char) : String :=
  match c with
  | '\n' => "'\\n'"
  | '\r' => "'\\r'"
  | '\t' => "'\\t'"
  | '\x00' => "'\\0'"
  | '\'' => "'\\''"
  | '\\' => "'\\\\'"
  | c => "'" ++ c.toString ++ "'"

/-- A character or the end of the text, as messages show it. -/
def shown : Option Char → String
  | some c => "Some(" ++ quoted c ++ ")"
  | none => "None"

def Fault.message : Fault → String
  | commentNotInFirstColumn => "doesn't support inline comment"
  | endOfText expected =>
    "expecting \"[" ++ String.intercalate ", " (expected.map shown) ++ "]\" but found EOF."
  | missingKey => "missing key"
  | badEscape => "unknown character in \\xHHHH form"
  | brokenEscape found => "expecting \"\\\\n\" but found \"" ++ shown found ++ "\"."

/-- The wording of a syntax error; lines and columns count from one. -/
def SyntaxError.message (e : SyntaxError) : String :=
  s!"{e.place.line + 1}:{e.place.column + 1} {e.fault.message}"

/-- A character and its place. -/
structure Mark where
  char : Char
  place : Place

/-- The place of `c` after `p`. -/
def Place.next (p : Place) (c : Char) : Place :=
  if c = '\n' then ⟨p.line + 1, 0⟩ else ⟨p.line, p.column + 1⟩

/-- The characters `cs` with their places, which come after `p`. -/
def marks (p : Place) : List Char → List Mark
  | [] => []
  | c :: cs => ⟨c, p.next c⟩ :: marks (p.next c) cs

/-- The place of the last character of a text. -/
def lastPlace (cs : List Char) : Place :=
  cs.foldl Place.next {}

/-- A key and its value. -/
structure Entry where
  key : String
  value : String
  deriving DecidableEq, Repr

/-- Entries under one heading; those before any heading have no name. -/
structure Section where
  name : Option String
  entries : List Entry
  deriving DecidableEq, Repr

/-! ## Escapes and runs of text -/

/-- The character that four hexadecimal digits name.  A plus sign may stand for the first digit. -/
def hexEscape? (cs : List Char) : Option Char :=
  let digits := match cs with
    | '+' :: rest => rest
    | cs => cs
  (digits.mapM Net.Address.hexDigit?).bind fun ds =>
    let n := Net.Address.ofDigits 16 ds
    if n.isValidChar then some (Char.ofNat n) else none

/-- The character that a backslash before `c` stands for, if it stands for one. -/
def escaped (c : Char) : List Char :=
  match c with
  | '0' => ['\x00']
  | 'a' => ['\x07']
  | 'b' => ['\x08']
  | 't' => ['\t']
  | 'r' => ['\r']
  | 'n' => ['\n']
  | '\n' => []
  | c => [c]

/-- The four characters of an escape and what follows; a backslash among them must come before a line
    end, which it takes with it. -/
def escapeDigits (stops : List (Option Char)) (last : Place) (count : Nat) (ms : List Mark) :
    Except SyntaxError (List Mark × List Mark) :=
  match count, ms with
  | 0, ms => .ok ([], ms)
  | _, [] => .error ⟨last, .endOfText stops⟩
  | count + 1, m :: rest =>
    if m.char = '\\' then
      match rest with
      | [] => .error ⟨last, .brokenEscape none⟩
      | e :: rest =>
        if e.char = '\n' then
          (escapeDigits stops last count rest).map fun (ds, rest) => (⟨m.char, e.place⟩ :: ds, rest)
        else .error ⟨e.place, .brokenEscape (some e.char)⟩
    else (escapeDigits stops last count rest).map fun (ds, rest) => (m :: ds, rest)

/-- What follows the four characters is part of what followed the escape. -/
theorem length_escapeDigits {stops : List (Option Char)} {last : Place} {count : Nat}
    {ms ds rest : List Mark} (h : escapeDigits stops last count ms = .ok (ds, rest)) :
    rest.length ≤ ms.length := by
  fun_induction escapeDigits stops last count ms generalizing ds rest with
  | case1 ms => simp_all
  | case2 => simp at h
  | case3 => simp at h
  | case4 count m hm e tail he ih =>
    cases hd : escapeDigits stops last count tail with
    | error _ => simp [hd, Except.map] at h
    | ok r =>
      simp only [hd, Except.map, Except.ok.injEq, Prod.mk.injEq] at h
      have := ih hd
      rw [← h.2]
      simp only [List.length_cons]
      omega
  | case5 => simp at h
  | case6 count m tail hm ih =>
    cases hd : escapeDigits stops last count tail with
    | error _ => simp [hd, Except.map] at h
    | ok r =>
      simp only [hd, Except.map, Except.ok.injEq, Prod.mk.injEq] at h
      have := ih hd
      rw [← h.2]
      simp only [List.length_cons]
      omega

/-- Text up to one of `stops`, with its escapes resolved, and the rest from there on.  `none` among the
    stops says that the end of the text, after `last`, is as good as a stop. -/
def textUntil (stops : List (Option Char)) (last : Place) (ms : List Mark) :
    Except SyntaxError (List Char × List Mark) :=
  match ms with
  | [] => if stops.contains none then .ok ([], []) else .error ⟨last, .endOfText stops⟩
  | m :: rest =>
    if stops.contains (some m.char) then .ok ([], m :: rest)
    else if m.char = '\\' then
      match rest with
      | [] => .error ⟨last, .endOfText stops⟩
      | e :: rest =>
        if e.char = 'x' then
          match _h : escapeDigits stops last 4 rest with
          | .error fault => .error fault
          | .ok (digits, rest) =>
            match hexEscape? (digits.map (·.char)) with
            | some x => (textUntil stops last rest).map fun (cs, rest) => (x :: cs, rest)
            | none => .error ⟨(digits.getLast?.map (·.place)).getD last, .badEscape⟩
        else (textUntil stops last rest).map fun (cs, rest) => (escaped e.char ++ cs, rest)
    else (textUntil stops last rest).map fun (cs, rest) => (m.char :: cs, rest)
termination_by ms.length
decreasing_by
  all_goals simp_wf
  all_goals (try have := length_escapeDigits _h); omega

def isLineEnd (c : Char) : Bool := c == '\n' || c == '\r'

/-- Text to the end of the line. -/
def restOfLine (last : Place) (ms : List Mark) : Except SyntaxError (List Char × List Mark) :=
  textUntil [some '\n', some '\r', none] last ms

/-- The value that begins at `ms`, after the equals sign or colon. -/
def value (last : Place) (ms : List Mark) : Except SyntaxError (List Char × List Mark) :=
  match ms.dropWhile fun m => Text.isBlank m.char && !isLineEnd m.char with
  | [] => .ok ([], [])
  | m :: rest =>
    if m.char = '"' ∨ m.char = '\'' then do
      let (quoted, rest) ← textUntil [some m.char] last rest
      let (tail, rest) ← restOfLine last (rest.drop 1)
      .ok (quoted ++ tail, rest)
    else restOfLine last (m :: rest)

/-! ## Items -/

/-- One item of a file. -/
inductive Item where
  | comment
  | heading (name : String)
  | entry (entry : Entry)

def trimmed (cs : List Char) : String := String.ofList (Text.trimChars cs)

/-- The item that begins with `m`, and the rest. -/
def item (last : Place) (m : Mark) (rest : List Mark) : Except SyntaxError (Item × List Mark) :=
  if m.char = ';' ∨ m.char = '#' then
    if m.place.column = 1 then .ok (.comment, (rest.dropWhile (·.char != '\n')).drop 1)
    else .error ⟨m.place, .commentNotInFirstColumn⟩
  else if m.char = '[' then do
    let (name, rest) ← textUntil [some ']'] last rest
    .ok (.heading (trimmed name), rest.drop 1)
  else do
    let (key, rest) ← textUntil [some '=', some ':'] last (m :: rest)
    if (trimmed key).isEmpty then .error ⟨(rest.head?.map (·.place)).getD last, .missingKey⟩
    else
      let (text, rest) ← value last (rest.drop 1)
      .ok (.entry ⟨trimmed key, trimmed text⟩, rest)

/-- Adds an item to the sections read so far.  The latest section comes first, and so does its latest
    entry. -/
def addItem (sections : List Section) : Item → List Section
  | .comment => sections
  | .heading name => ⟨some name, []⟩ :: sections
  | .entry e =>
    match sections with
    | s :: rest => { s with entries := e :: s.entries } :: rest
    | [] => [⟨none, [e]⟩]

/-- Sections read so far in the order of the text. -/
def inOrder (sections : List Section) : List Section :=
  (sections.map fun s => { s with entries := s.entries.reverse }).reverse

/-- Reads items until the text ends, at most `fuel` of them. -/
def items (last : Place) (fuel : Nat) (sections : List Section) (ms : List Mark) :
    Except SyntaxError (List Section) :=
  match fuel with
  | 0 => .ok (inOrder sections)
  | fuel + 1 =>
    match ms.dropWhile (fun m => Text.isBlank m.char) with
    | [] => .ok (inOrder sections)
    | m :: rest =>
      match item last m rest with
      | .error e => .error e
      | .ok (i, rest) => items last fuel (addItem sections i) rest

/-- The sections of a file, in order.  Every item takes at least one character, so the length of the
    text bounds their number. -/
def parse (text : String) : Except SyntaxError (List Section) :=
  let cs := text.toList
  items (lastPlace cs) (cs.length + 1) [⟨none, []⟩] (marks {} cs)

/-! ## The tree of settings -/

/-- A setting or a table of settings. -/
inductive Node where
  | text (value : String)
  | table (entries : List (String × Node))

namespace Node

/-- The entries of a table; a setting has none. -/
def entries : Node → List (String × Node)
  | text _ => []
  | table es => es

/-- Replaces or adds the entry `name`. -/
def insert (node : Node) (name : String) (child : Node) : Node :=
  .table ((name, child) :: node.entries.filter (·.1 != name))

/-- The entry `name`. -/
def child? (node : Node) (name : String) : Option Node :=
  node.entries.lookup name

/-- Puts `value` at the end of a path, making tables on the way. -/
def put (node : Node) (value : String) : List String → Node
  | [] => .text value
  | name :: path => node.insert name (((node.child? name).getD (.table [])).put value path)

/-- Makes sure that something is at the end of a path, an empty table if nothing was there.  A setting
    at the end stays; a setting on the way gives place to a table. -/
def touch (node : Node) : List String → Node
  | [] => node
  | name :: path => node.insert name (((node.child? name).getD (.table [])).touch path)

/-- The setting at the end of a path; a table there counts as absent. -/
def get? (node : Node) : List String → Option String
  | [] => match node with
    | text value => some value
    | table _ => none
  | name :: path => (node.child? name).bind (·.get? path)

end Node

/-- Characters that a part of a dotted name may have. -/
def isNameChar (c : Char) : Bool :=
  ('a' ≤ c && c ≤ 'z') || ('A' ≤ c && c ≤ 'Z') || ('0' ≤ c && c ≤ '9') || c == ' ' || c == '_' || c == '-'

/-- The parts of a name, in lower case: split at the dots if it is a dotted name, else one. -/
def path (name : String) : List String :=
  let parts := name.toList.splitOn '.'
  if parts.all fun p => !p.isEmpty && p.all isNameChar then parts.map fun p => Text.lower (String.ofList p)
  else [Text.lower name]

/-- Adds a section to the tree.  A table is known by its name: a later section of the same name takes
    the place of the earlier one. -/
def addSection (node : Node) (s : Section) : Node :=
  match s.name with
  | none => s.entries.foldl (fun node e => node.put e.value (path e.key)) node
  | some name =>
    s.entries.foldl (fun node e => node.put e.value (path name ++ [Text.lower e.key])) (node.touch (path name))

/-- What counts of the sections: of equal names the last.  A section also takes the place of an entry
    with its name that stands before all sections. -/
def lastOfEach : List Section → List Section
  | [] => []
  | s :: rest =>
    match s.name with
    | some name => if rest.any (·.name == some name) then lastOfEach rest else s :: lastOfEach rest
    | none => ⟨none, s.entries.filter fun e => !rest.any (·.name == some e.key)⟩ :: lastOfEach rest

/-- The tree of settings of a file. -/
def tree (sections : List Section) : Node :=
  (lastOfEach sections).foldl addSection (.table [])

end PooledServer.Config.Ini
