import PooledServer.Net.Socket
import PooledServer.Readiness

/-!
# Open files and watches

    What the system knows: which file every open descriptor number stands for, and which descriptors
    are watched for readiness.  Closing a number closes whatever it stands for at that moment, and
    ends its watch.

    The calls on the readiness queue are checked against what is open; a wait reports the watched
    descriptors that are ready, and goes on reporting them for as long as they are.
-/

namespace PooledServer.Events

open Net

/-- What a descriptor number stands for. -/
inductive File where
  | listener
  | connection (number : Nat)
  | other (number : Nat)
  deriving DecidableEq, Repr, Inhabited

/-- The open files by descriptor, and the watched descriptors. -/
structure Kernel where
  files : List (Descriptor × File) := []
  watched : List Descriptor := []
  deriving DecidableEq, Repr, Inhabited

namespace Kernel

/-- What the number `d` stands for. -/
def file? (k : Kernel) (d : Descriptor) : Option File :=
  (k.files.find? (·.1 == d)).map (·.2)

/-- Whether the number `d` is in use. -/
def isOpen (k : Kernel) (d : Descriptor) : Bool :=
  0 ≤ d && (k.file? d).isSome

/-- Gives the number `d` to a file. -/
def openFile (k : Kernel) (d : Descriptor) (f : File) : Kernel :=
  { k with files := (d, f) :: k.files.filter (·.1 != d) }

/-- Closes the number `d`, whatever it stands for. -/
def close (k : Kernel) (d : Descriptor) : Kernel :=
  { files := k.files.filter (·.1 != d), watched := k.watched.filter (· != d) }

/-- Begins to watch `d`. -/
def watch (k : Kernel) (d : Descriptor) : Kernel :=
  { k with watched := d :: k.watched.filter (· != d) }

/-- Ends the watch of `d`. -/
def unwatch (k : Kernel) (d : Descriptor) : Kernel :=
  { k with watched := k.watched.filter (· != d) }

end Kernel

/-! ## The readiness queue -/

/-- The name of the readiness queue. -/
def queueName : String := "epoll"

/-- The number does not stand for an open file. -/
def badDescriptor : IoError := .system 9

/-- The file cannot be watched. -/
def notWatchable : IoError := .system 1

/-- There is no watch to end. -/
def notWatched : IoError := .system 2

/-- What a file is ready for at the moment.  There is no answer for a file that cannot be watched. -/
abbrev Poll := File → Option EventFlags

/-- The room for events that is made when so much is asked for. -/
def eventRoom (asked : Nat) : Nat := max asked 1

/-- One wait reports no more than this, whatever room there is. -/
def mostReports : Nat := 2147483647

namespace Kernel

/-- Whether the file with the number `d` can be watched, and why not. -/
def watchable (k : Kernel) (poll : Poll) (d : Descriptor) : Except IoError Unit :=
  match k.file? d with
  | none => .error badDescriptor
  | some file => if (poll file).isSome then .ok () else .error notWatchable

/-- Asks for `d` to be watched.  That it is watched already is no failure. -/
def addReadWatch (k : Kernel) (poll : Poll) (d : Descriptor) : Except IoError Kernel :=
  (k.watchable poll d).map fun _ => if d ∈ k.watched then k else k.watch d

/-- Asks for the watch of `d` to end. -/
def removeReadWatch (k : Kernel) (poll : Poll) (d : Descriptor) : Except IoError Kernel :=
  (k.watchable poll d).bind fun _ =>
    if d ∈ k.watched then .ok (k.unwatch d) else .error notWatched

/-- What a wait has to say of `d`, if it is ready. -/
def report? (k : Kernel) (poll : Poll) (d : Descriptor) : Option (Descriptor × EventFlags) :=
  match (k.file? d).bind poll with
  | some flags => if flags = {} then none else some (d, flags)
  | none => none

/-- What a wait reports, with room for so many events; the longest watched come first.  While nothing
    that is watched is ready it goes on waiting. -/
def waitForEvents (k : Kernel) (poll : Poll) (room : Nat) : Option (List (Descriptor × EventFlags)) :=
  match k.watched.reverse.filterMap (k.report? poll) with
  | [] => none
  | ready => some (ready.take (min room mostReports))

end Kernel

end PooledServer.Events
