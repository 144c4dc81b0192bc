import PooledServer.Config.Load

/-!
# A session with settings

    A configuration that is changed step by step: read anew, overridden by a file or set directly.  A
    step that fails leaves the configuration as it was.
-/

namespace PooledServer.Session.Settings

/-- One step of the session. -/
inductive Command where
  | defaults
  | fromEnvironment
  | keep
  /-- Override by a configuration text. -/
  | text (text : String)
  /-- Override by a file. -/
  | file (source : Config.Source)
  /-- Start anew from a file, if one is given, and the environment. -/
  | load (file : Option Config.Source)
  /-- Set one setting. -/
  | assign (key : Config.Key) (value : key.Value)

/-- What a step leads to, and the warnings on the way. -/
def run (env : Environment) (c : Config) : Command → Except ConfigError (Config × List Config.Warning)
  | .defaults => .ok ({}, [])
  | .fromEnvironment => .ok (Config.withEnvironment env {})
  | .keep => .ok (c, [])
  | .text text => c.withText Config.fileReader "ini" text
  | .file source => c.withFile Config.fileReader source
  | .load file => Config.load Config.fileReader file env {}
  | .assign key value => .ok (c.set key value, [])

end PooledServer.Session.Settings
