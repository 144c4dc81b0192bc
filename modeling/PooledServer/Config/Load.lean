import PooledServer.Config.Basic
import PooledServer.Config.Ini
import PooledServer.Environment

/-!
# Where settings come from

    Settings come from a file and from the environment.  The environment overrides the file, and the
    file overrides what is there before.  A file may be named without its ending, and its text is read
    by whatever reader is given.
-/

namespace PooledServer.Config

/-- The section of a file that holds the settings. -/
def sectionName : String := "server"

/-- What the names of environment variables begin with. -/
def variableStem : String := "SOCKSERVE_"

/-- The environment variable of a setting. -/
def Key.variable (k : Key) : String :=
  variableStem ++ Text.upper k.name

/-- What the environment has for a setting. -/
def environmentLookup (env : Environment) (k : Key) : Option String :=
  env.get? k.variable

/-- What a tree of settings has for a setting. -/
def treeLookup (tree : Ini.Node) (k : Key) : Option String :=
  tree.get? [sectionName, k.name]

/-- Settings overridden by the environment. -/
def withEnvironment (env : Environment) (c : Config) : Config × List Warning :=
  c.overlay "environment" (environmentLookup env)

/-- How the text of a settings file is read: what it has for each setting, or the wording of what is
    wrong with it. -/
abbrev Reader := String → Except String (Key → Option String)

/-- The reader of configuration files. -/
def fileReader : Reader := fun text =>
  match Ini.parse text with
  | .ok sections => .ok (treeLookup (Ini.tree sections))
  | .error e => .error e.message

/-- The settings of a text; `source` names it in warnings, and `fault` words a failure. -/
def withRead (read : Reader) (source : String) (fault : String → String) (text : String)
    (c : Config) : Except ConfigError (Config × List Warning) :=
  match read text with
  | .ok said => .ok (c.overlay source said)
  | .error e => .error (.unreadable (fault e))

/-- The settings of a file in text form; `source` names the file in warnings. -/
def withText (read : Reader) (source text : String) (c : Config) :
    Except ConfigError (Config × List Warning) :=
  c.withRead read source id text

/-! ## Files -/

/-- A file that exists: its place as seen from the working directory, and what it holds. -/
structure Found where
  place : String
  content : ByteArray

/-- A file to load: the path by which it is named, and the file if there is one. -/
structure Source where
  path : String
  found : Option Found

/-- The ending that the name of a settings file may go without. -/
def fileEnding : String := ".ini"

/-- The parts of a path between its slashes. -/
def pathParts (path : String) : List (List Char) :=
  path.toList.splitOn '/'

/-- Whether a part of a path stays where it is. -/
def isIdle (part : List Char) : Bool :=
  part = [] || part = ['.']

/-- The parts of a path put together. -/
def joined (parts : List (List Char)) : String :=
  String.ofList (['/'].intercalate parts)

/-- The paths at which a file is looked for: its own path, and its name with the ending added.  Idle
    parts at the end of the path are no part of the name, and a path that leads back up has no name. -/
def candidates (path : String) : List String :=
  match (pathParts path).reverse.dropWhile isIdle with
  | [] | ['.', '.'] :: _ => [path]
  | parts => [path, joined parts.reverse ++ fileEnding]

/-- A path from the working directory without its idle parts.  A path from the root stays. -/
def direct (path : String) : String :=
  match pathParts path with
  | [] :: _ => path
  | parts => joined (parts.filter fun part => !isIdle part)

/-- Looks for the file that `path` names, where `content` is what there is at a path. -/
def locate (content : String → Option ByteArray) (path : String) : Source :=
  ⟨path, (candidates path).findSome? fun p => (content p).map fun bytes => ⟨direct p, bytes⟩⟩

/-- The settings of a file.  Warnings name it as it was asked for. -/
def withFile (read : Reader) (source : Source) (c : Config) :
    Except ConfigError (Config × List Warning) :=
  match source.found with
  | none => .error (.fileNotFound source.path)
  | some file =>
    match Text.Utf8.decode file.content with
    | .ok text => c.withRead read source.path (fun e => s!"{source.path}: {e} in {file.place}") text
    | .error _ => .error (.unreadable (source.path ++ ": stream did not contain valid UTF-8"))

/-- The settings of the file, if one is given, overridden by the environment.  The warnings of the
    file come first. -/
def load (read : Reader) (file : Option Source) (env : Environment) (base : Config) :
    Except ConfigError (Config × List Warning) := do
  let (c, fromFile) ← match file with
    | some source => base.withFile read source
    | none => pure (base, [])
  let (c, fromEnvironment) := c.withEnvironment env
  pure (c, fromFile ++ fromEnvironment)

end PooledServer.Config
