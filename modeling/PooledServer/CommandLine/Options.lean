/-!
# Options on a command line

    A program's options each take one value.  A long option is followed by its value, as the next
    argument or after an equals sign; a short one may have it attached.  Arguments are looked at from
    left to right, and the first that is wrong, or asks for help or the version, decides.

    An option is given at most once, and there are no other arguments.
-/

namespace PooledServer.CommandLine

/-- Why a program does not run. -/
inductive Stop where
  | help
  | version
  | misuse
  deriving DecidableEq, Repr

/-- The options of a program: their letters and names, and the values they accept. -/
structure Grammar (κ : Type) where
  options : List (κ × Char × String)
  accepts : κ → String → Bool
  hasVersion : Bool

namespace Grammar

variable {κ : Type} [DecidableEq κ]

/-- Whether an argument cannot be a value because it looks like an option. -/
def looksLikeOption (arg : String) : Bool :=
  match arg.toList with
  | '-' :: _ :: _ => true
  | _ => false

/-- The values found so far with one more, unless the option was given before or refuses the value. -/
def add (g : Grammar κ) (found : List (κ × String)) (key : κ) (value : String) :
    Except Stop (List (κ × String)) :=
  if (found.any fun f => f.1 = key) || !g.accepts key value then .error .misuse
  else .ok (found ++ [(key, value)])

/-- The option with a long name, or the stop it stands for. -/
def long (g : Grammar κ) (name : String) : Except Stop κ :=
  if name = "help" then .error .help
  else if name = "version" ∧ g.hasVersion then .error .version
  else
    match g.options.find? fun o => o.2.2 == name with
    | some o => .ok o.1
    | none => .error .misuse

/-- The option with a letter, or the stop it stands for. -/
def short (g : Grammar κ) (letter : Char) : Except Stop κ :=
  if letter = 'h' then .error .help
  else if letter = 'V' ∧ g.hasVersion then .error .version
  else
    match g.options.find? fun o => o.2.1 == letter && letter != ' ' with
    | some o => .ok o.1
    | none => .error .misuse

/-- What an argument that is not a value says: which option it gives, and the value attached to it. -/
def meaning (g : Grammar κ) (arg : String) : Except Stop (κ × Option String) :=
  match arg.toList with
  | '-' :: '-' :: cs =>
    let name := String.ofList (cs.takeWhile (· ≠ '='))
    match cs.dropWhile (· ≠ '=') with
    | [] => (g.long name).map (·, none)
    | _ :: value =>
      match g.long name with
      | .ok key => .ok (key, some (String.ofList value))
      | .error _ => .error .misuse
  | ['-', letter] => (g.short letter).map (·, none)
  | '-' :: letter :: '=' :: value => (g.short letter).map (·, some (String.ofList value))
  | '-' :: letter :: value => (g.short letter).map (·, some (String.ofList value))
  | _ => .error .misuse

/-- Reads the arguments; `found` are the values of those before. -/
def read (g : Grammar κ) (found : List (κ × String)) : List String → Except Stop (List (κ × String))
  | [] => .ok found
  | "--" :: rest => if rest.isEmpty then .ok found else .error .misuse
  | arg :: rest =>
    match g.meaning arg with
    | .error stop => .error stop
    | .ok (key, some value) =>
      match g.add found key value with
      | .ok found => g.read found rest
      | .error stop => .error stop
    | .ok (key, none) =>
      match rest with
      | [] => .error .misuse
      | value :: rest =>
        if looksLikeOption value then .error .misuse
        else
          match g.add found key value with
          | .ok found => g.read found rest
          | .error stop => .error stop

end Grammar

end PooledServer.CommandLine
