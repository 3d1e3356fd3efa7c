import ArtifactCache.Trace

/-!
Hooks around the operations on a resource. They see the operation and may
refuse it, put a filter around its stream, change a listing, or answer for
the store whether something exists. The hook for writing is handed the stream,
and may use it before it decides. `Hooks.passing` lets everything pass.
-/
namespace ArtifactCache

/-- What a filter makes of the next bytes read, given those that came before. -/
abbrev ReadFilter := (seen next : Bytes) → Except Fault Bytes

def ReadFilter.passing : ReadFilter := fun _ next => .ok next

/-- A call on an output stream. -/
inductive StreamCall
  | write (bytes : Bytes)
  | flush
  deriving DecidableEq

/-- What a filter does on a call: the calls it makes on the stream below, and
its own answer. -/
structure Reaction where
  passes : List StreamCall
  answer : Except Fault Unit := .ok ()

/-- A filter reacts to each call, given the calls that came before. -/
structure WriteFilter where
  react : (past : List StreamCall) → StreamCall → Reaction
  /-- The calls it makes on the stream below before that is closed. -/
  leave : (past : List StreamCall) → List StreamCall := fun _ => []

def WriteFilter.passing : WriteFilter where
  react _ call := { passes := [call] }

structure Hooks where
  read : Resource → Metadata → Except Fault ReadFilter := fun _ _ => .ok .passing
  write : Purpose → Resource → Metadata → Except Fault WriteFilter := fun _ _ _ => .ok .passing
  /-- The calls that the hook for writing makes on the stream before it puts a
  filter around it or refuses it. -/
  header : Purpose → Resource → Metadata → List StreamCall := fun _ _ _ => []
  /-- `none` leaves the answer to the store. -/
  present? : Resource → Metadata → Option Bool := fun _ _ => none
  copyFrom : Resource → Resource → Metadata → Except Fault Unit := fun _ _ _ => .ok ()
  delete : Resource → Metadata → Except Fault Unit := fun _ _ => .ok ()
  listing : Resource → List String → Metadata → Except Fault (List String) :=
    fun _ names _ => .ok names
  mkdirs : Resource → Metadata → Except Fault Unit := fun _ _ => .ok ()
  createFile : Resource → Metadata → Except Fault Unit := fun _ _ => .ok ()

def Hooks.passing : Hooks := {}

end ArtifactCache
