import PooledServer.Text.Utf8
import PooledServer.Text.Basic

/-!
# Environment variables

    The variables that a process is started with.  A variable whose value is not UTF-8 counts as
    unset.
-/

namespace PooledServer

/-- Variables and their values; of equal names the first counts. -/
structure Environment where
  bindings : List (String × ByteArray)

namespace Environment

def empty : Environment := ⟨[]⟩

/-- The value of a variable as text. -/
def get? (env : Environment) (name : String) : Option String :=
  match env.bindings.lookup name with
  | some bytes => (Text.Utf8.decode bytes).toOption
  | none => none

/-- The value of a variable as text, whatever its bytes are. -/
def lossy? (env : Environment) (name : String) : Option String :=
  (env.bindings.lookup name).map Text.Utf8.decodeLossy

/-- Whether a variable is set to one of the words for yes; `none` if it is unset. -/
def flag? (env : Environment) (name : String) : Option Bool :=
  (env.get? name).map fun value =>
    match Text.lower (Text.trim value) with
    | "1" | "true" | "yes" | "on" => true
    | _ => false

end Environment

end PooledServer
