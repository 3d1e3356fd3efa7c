import ArtifactCache.Handle.Basic

/-!
Open writers. A writer owns the hold of a streamed write on its resource, and
only its end gives that back: first the stream is flushed and closed, then the
hold is given back, then the storage event fires.
-/
namespace ArtifactCache.Handle

structure Output (W : Type) where
  stream : W
  resource : Resource
  filter : WriteFilter := .passing
  /-- The calls that the filter has answered so far. -/
  past : List StreamCall := []
  onClose? : Option Event := none

namespace Output
variable {S R W : Type}

/-- Makes the calls on the stream below. -/
def pass (c : Cache S R W) (calls : List StreamCall) (stream : W) (s : S) : W × S :=
  calls.foldl (fun (stream, s) call =>
    match call with
    | .write bytes => c.backend.write stream bytes s
    | .flush => c.backend.flush stream s) (stream, s)

def call (c : Cache S R W) (output : Output W) (call : StreamCall) :
    Action S (Except Fault Unit × Output W) := do
  let reaction := output.filter.react output.past call
  let stream ← Action.alter (pass c reaction.passes output.stream)
  return (reaction.answer, { output with stream, past := output.past ++ [call] })

/-- One call for the bytes, be there any or not. -/
def put (c : Cache S R W) (output : Output W) (bytes : Bytes) :
    Action S (Except Fault Unit × Output W) :=
  output.call c (.write bytes)

/-- Writes all the bytes; writing none is no call. -/
def write (c : Cache S R W) (output : Output W) (bytes : Bytes) :
    Action S (Except Fault Unit × Output W) :=
  if bytes = [] then return (.ok (), output) else output.put c bytes

def flush (c : Cache S R W) (output : Output W) : Action S (Except Fault Unit × Output W) :=
  output.call c .flush

/-- Ends the writer. The answer is that of the last flush, whatever it is the
stream is closed, the hold given back and the event fired. -/
def close (c : Cache S R W) (output : Output W) : Action S (Except Fault Unit) := do
  let (flushed, output) ← output.flush c
  Action.alter fun s =>
    let (stream, s) := pass c (output.filter.leave output.past) output.stream s
    ((), c.backend.closeWriter stream s)
  let _ ← Locks.unlockStream output.resource
  match output.onClose? with
  | none => pure ()
  | some event => Handle.fire ⟨c, output.resource⟩ event
  return flushed

/-- Ends a writer that is no longer used: nobody is there to hear of a failed flush. -/
def drop (c : Cache S R W) (output : Output W) : Action S Unit := do
  match ← output.close c with
  | .ok () => return ()
  | .error fault =>
    Action.say .warn .stream ("flush failed while dropping write stream: " ++ fault.message)

/-- The most bytes that are taken from a source at once. -/
def runLength : Nat := 8192

/-- Writes run after run, until one fails. -/
def writeRuns (c : Cache S R W) (output : Output W) :
    List Bytes → Action S (Except Fault Unit × Output W)
  | [] => return (.ok (), output)
  | run :: rest => do
    match ← output.write c run with
    | (.error fault, output) => return (.error fault, output)
    | (.ok (), output) => writeRuns c output rest

/-- Writes what the source yields, and ends the writer. Answers the number of
bytes, or the first fault: of a write, of the source, of the last flush. -/
def pour (c : Cache S R W) (output : Output W) (source : Source S) :
    Action S (Except Fault Nat) := do
  let content ← Action.inspect source
  let (written, output) ← output.writeRuns c (content.bytes.runs runLength (by decide))
  match written, content.fault? with
  | .error fault, _ | .ok (), some fault =>
    output.drop c
    return .error fault
  | .ok (), none =>
    return (← output.close c).map fun _ => content.bytes.length

end Output
end ArtifactCache.Handle
