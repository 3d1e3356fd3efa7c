import ArtifactCache.Handle.Basic

/-!
Open readers. The access event fires once, when the reader is closed.
-/
namespace ArtifactCache.Handle

structure Input (R : Type) where
  stream : R
  filter : ReadFilter := .passing
  /-- The bytes that went through the filter so far. -/
  seen : Bytes := []
  onClose? : Option Event := none

variable {S R W : Type}

/-- The next bytes, at most as many as the limit says. -/
def Input.read (c : Cache S R W) (input : Input R) (limit : Option Nat) :
    Action S (Except Fault Bytes × Input R) := do
  let (bytes, stream) ← Action.inspect (c.backend.read input.stream limit)
  return (input.filter input.seen bytes, { input with stream, seen := input.seen ++ bytes })

/-- Closes the reader, on purpose or because it is no longer used. -/
def Input.close (c : Cache S R W) (input : Input R) : Action S Unit :=
  match input.onClose? with
  | none => return ()
  | some event => Handle.fire ⟨c, event.resource⟩ event

end ArtifactCache.Handle
