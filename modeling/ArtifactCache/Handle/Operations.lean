import ArtifactCache.Handle.Input
import ArtifactCache.Handle.Output

/-!
The operations on one resource. Each waits for foreign writers where it has
to, asks its hook, goes to the store and fires its event.
-/
namespace ArtifactCache.Handle
variable {S R W : Type} (h : Handle S R W)

/-- Records an access without reading. -/
def touch (m : Metadata) : Action S Unit := do
  if h.cache.hooks?.isSome then Action.note (.hooked (.touch h.resource m))
  h.fire (.access h.resource m)

/-- The reader behind its filter, or `none` where there is no content. -/
def openReader (fire : Bool) (m : Metadata) : Action S (Except Failure (Option (Input R))) := do
  match ← Action.inspect (h.cache.backend.openReader h.resource) with
  | .error e => return .error e
  | .ok none => return .ok none
  | .ok (some stream) =>
    match ← h.consult .read (.read h.resource m) (·.read h.resource m) .passing with
    | .error e => return .error e
    | .ok filter =>
      let onClose? := if fire then some (.access h.resource m) else none
      return .ok (some { stream, filter, onClose? })

/-- Opens the content for reading, once no other thread writes it. -/
def openInput (t : Thread) (fire : Bool) (m : Metadata) :
    Action S (Except Failure (Option (Input R))) := do
  Locks.awaitFree t h.resource
  let result ← h.openReader fire m
  h.reportFailure fire m result
  return result

/-- What the hook for writing puts before all that is written. -/
def header (purpose : Purpose) (m : Metadata) : List StreamCall :=
  h.cache.hooks?.elim [] (·.header purpose h.resource m)

/-- The stream after the calls that the hook makes on it, if it makes any. -/
def begin (purpose : Purpose) (m : Metadata) (stream : W) : Action S W :=
  if h.header purpose m = [] then return stream
  else Action.alter (Output.pass h.cache (h.header purpose m) stream)

/-- The writer behind its filter. The hold that this thread has goes with it;
a writer that the hook refuses is closed again. -/
def openWriter (purpose : Purpose) (fire : Bool) (m : Metadata) :
    Action S (Except Failure (Output W)) := do
  match ← Action.alter (h.cache.backend.openWriter h.resource) with
  | .error e => return .error e
  | .ok stream =>
    let answer ← h.consult .write (.write purpose h.resource m) (·.write purpose h.resource m)
      .passing
    let stream ← h.begin purpose m stream
    match answer with
    | .error e =>
      Action.alter fun s => ((), h.cache.backend.closeWriter stream s)
      return .error e
    | .ok filter =>
      if fire then
        Action.say .info .handle ("Wrapping output stream to: " ++ h.display ++
          " using event metadata: " ++ m.display)
        return .ok { stream, filter, resource := h.resource,
                     onClose? := some (.storage h.resource purpose m) }
      else
        Action.say .info .handle ("Wrapping output stream to: " ++ h.display ++
          " WITHOUT event metadata")
        return .ok { stream, filter, resource := h.resource }

/-- Opens a writer that replaces the content, once no other thread holds the
resource. A thread cannot open a second one while its first is open. -/
def openOutput (t : Thread) (purpose : Purpose) (fire : Bool) (m : Metadata) :
    Action S (Except Failure (Output W)) := do
  Locks.awaitFree t h.resource
  let result ← match ← Locks.acquire t h.resource with
    | .error e => pure (.error e)
    | .ok () => do
      match ← h.openWriter purpose fire m with
      | .error e =>
        let _ ← Locks.unlockStream h.resource
        pure (.error e)
      | .ok output => pure (.ok output)
  h.reportFailure fire m result
  return result

/-- Whether there is something, unless the hook knows better. -/
def present : Action S Bool := do
  let fromStore := Action.inspect (h.cache.backend.present h.resource)
  match h.cache.hooks? with
  | none => fromStore
  | some hooks =>
    Action.note (.hooked (.present h.resource ∅))
    match hooks.present? h.resource ∅ with
    | some answer => return answer
    | none => fromStore

/-- Replaces the content by that of `source`, under the hold of a streamed write. -/
def copyFrom (t : Thread) (source : Handle S R W) : Action S (Except Failure Unit) := do
  Locks.awaitFree t h.resource
  match ← Locks.acquire t h.resource with
  | .error e => return .error e
  | .ok () =>
    let result ←
      match ← h.consult .copyFrom (.copyFrom source.resource h.resource ∅)
          (·.copyFrom source.resource h.resource ∅) () with
      | .error e => pure (.error e)
      | .ok () => Action.alter (h.cache.backend.copy source.resource h.resource)
    let _ ← Locks.unlockStream h.resource
    return result

/-- Deletes what is there, once no other thread writes it, and holds nothing
meanwhile. Tells whether there was something. -/
def delete (t : Thread) (fire : Bool) (m : Metadata) : Action S (Except Failure Bool) := do
  Locks.awaitFree t h.resource
  let result ←
    match ← h.consult .delete (.delete h.resource m) (·.delete h.resource m) () with
    | .error e => pure (.error e)
    | .ok () => Action.alter (h.cache.backend.delete h.resource)
  match result with
  | .ok true => if fire then h.fire (.deletion h.resource m)
  | _ => h.reportFailure fire m result
  return result

/-- The names of the children, as the hook leaves them. -/
def list : Action S (Except Failure (List String)) := do
  match ← Action.inspect (h.cache.backend.list h.resource) with
  | .error e => return .error e
  | .ok names =>
    h.consult .listing (.listing h.resource names ∅) (·.listing h.resource names ∅) names

def mkdirs : Action S (Except Failure Unit) := do
  match ← h.consult .mkdirs (.mkdirs h.resource ∅) (·.mkdirs h.resource ∅) () with
  | .error e => return .error e
  | .ok () => Action.alter (h.cache.backend.mkdirs h.resource)

/-- Creates an empty file where there is none, once no other thread writes it. -/
def createFile (t : Thread) : Action S (Except Failure Unit) := do
  Locks.awaitFree t h.resource
  match ← h.consult .createFile (.createFile h.resource ∅) (·.createFile h.resource ∅) () with
  | .error e => return .error e
  | .ok () => Action.alter (h.cache.backend.createFile h.resource)

end ArtifactCache.Handle
