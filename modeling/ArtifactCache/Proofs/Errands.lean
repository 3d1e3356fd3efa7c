import ArtifactCache.Catalog

/-!
Errands. What a thread wants of a cache is told by resources and by the numbers of
streams, and what it learns by answers that name no cache; so runs can be compared, and
what has happened can be told from the journal of what was asked and answered.

Streams are shared by all threads. One that was ended is gone: whoever uses or ends it
again is told so, and nothing happens. That is how a destructor behaves after an explicit
close.
-/
namespace ArtifactCache

/-- What can be done without a stream: through a handle, through a cache, by a search in
several locations, and under the name of a location or group. -/
inductive Chore (S : Type)
  | lock (r : Resource)
  | unlock (r : Resource)
  | isLocked (r : Resource)
  | isFile (r : Resource)
  | isDirectory (r : Resource)
  | length (r : Resource)
  | isDated (r : Resource)
  | present (r : Resource)
  | metaSibling (r : Resource) (suffix : String)
  | touch (r : Resource) (m : Metadata)
  | copyFrom (target source : Resource)
  | delete (r : Resource) (fire : Bool) (m : Metadata)
  | list (r : Resource)
  | mkdirs (r : Resource)
  | createFile (r : Resource)
  | retrieve (r : Resource) (m : Metadata)
  | store (r : Resource) (source : Source S) (m : Metadata)
  | publish (r : Resource) (source : Source S) (length : Nat) (contentType : String)
  | createAlias (source target : Resource)
  | retrieveFirst (spread : Spread) (m : Metadata)
  | retrieveAll (spread : Spread) (m : Metadata)
  | deleteAll (spread : Spread) (m : Metadata)
  | storeOne (spread : Spread) (source : Source S) (m : Metadata)
  | find (e : Expansion) (locations : List Location) (path : String) (m : Metadata)
  | findAll (e : Expansion) (locations : List Location) (path : String) (m : Metadata)
  | clear (e : Expansion) (locations : List Location) (path : String) (m : Metadata)
  | report (e : Expansion) (locations : List Location) (path : String) (m : Metadata)
  | keep (e : Expansion) (l : Location) (path : String) (source : Source S) (m : Metadata)
  | send (e : Expansion) (l : Location) (path : String) (source : Source S) (length : Nat)
      (contentType : String)
  | listAll (e : Expansion) (l : Location) (path : String)

/-- What is done with an open stream. -/
inductive StreamUse
  | read (limit : Option Nat)
  | write (bytes : Bytes)
  /-- One call for the bytes, be there any or not. -/
  | put (bytes : Bytes)
  | flush
  deriving DecidableEq

inductive Errand (S : Type)
  | chore (job : Chore S)
  | openInput (r : Resource) (fire : Bool) (m : Metadata)
  | openOutput (r : Resource) (purpose : Purpose) (fire : Bool) (m : Metadata)
  | use (stream : Nat) (how : StreamUse)
  /-- Closes the stream, or drops it. -/
  | finish (stream : Nat) (dropped : Bool)

inductive Reply
  | done
  | told (yes : Bool)
  | counted (n : Nat)
  | names (names : List String)
  | opened (stream? : Option Nat)
  | read (result : Except Fault Bytes)
  | wrote (result : Except Fault Unit)
  | found (resource? : Option Resource)
  | hits (resources : List Resource)
  | deletions (report : DeleteReport)
  | listings (children : List (Location × List String))
  | failed (why : Failure)
  /-- There is no such stream, or not any more. -/
  | gone

/-- What an operation answers, or why it failed. -/
def Reply.ofResult {α : Type} (answer : α → Reply) : Except Failure α → Reply
  | .ok a => answer a
  | .error e => .failed e

namespace Chore
variable {S R W : Type} (c : Cache S R W) (t : Thread)

/-- How the thread does it with the cache. -/
def action : Chore S → Action S Reply
  | lock r => do
    Locks.lock t r
    return .done
  | unlock r => return .told (← Locks.unlock r)
  | isLocked r => return .told (← Locks.isLocked r)
  | isFile r => return .told (← Action.inspect (c.backend.isFile r))
  | isDirectory r => return .told (← Action.inspect (c.backend.isDirectory r))
  | length r => return .counted (← Action.inspect (c.backend.length r))
  | isDated r => return .told (← Action.inspect (c.backend.isDated r))
  | present r => return .told (← (c.handle r).present)
  | metaSibling r suffix => return .found ((← (c.handle r).metaSibling suffix).map (·.resource))
  | touch r m => do
    (c.handle r).touch m
    return .done
  | copyFrom target source =>
    return .ofResult (fun _ => .done) (← (c.handle target).copyFrom t (c.handle source))
  | delete r fire m => return .ofResult .told (← (c.handle r).delete t fire m)
  | list r => return .ofResult .names (← (c.handle r).list)
  | mkdirs r => return .ofResult (fun _ => .done) (← (c.handle r).mkdirs)
  | createFile r => return .ofResult (fun _ => .done) (← (c.handle r).createFile t)
  | retrieve r m => return .ofResult (fun h? => .found (h?.map (·.resource))) (← c.retrieve t r m)
  | store r source m =>
    return .ofResult (fun h => .found (some h.resource)) (← c.store t r source m)
  | publish r source n contentType =>
    return .ofResult .told (← c.publish r source n contentType)
  | createAlias source target =>
    return .ofResult (fun _ => .done) (← c.createAlias source target)
  | retrieveFirst spread m =>
    return .ofResult (fun h? => .found (h?.map (·.resource)))
      (← Search.retrieveFirst (c.supplier t) spread m)
  | retrieveAll spread m =>
    return .ofResult (fun hs => .hits (hs.map (·.resource)))
      (← Search.retrieveAll (c.supplier t) spread m)
  | deleteAll spread m => return .deletions (← Search.deleteAll (c.supplier t) spread m)
  | storeOne spread source m =>
    return .ofResult (fun h => .found (some h.resource))
      (← Search.store (c.supplier t) spread source m)
  | find e locations path m =>
    return .ofResult (fun h? => .found (h?.map (·.resource)))
      (← Catalog.retrieveFirst ⟨c.supplier t, e⟩ locations path m)
  | findAll e locations path m =>
    return .ofResult (fun hs => .hits (hs.map (·.resource)))
      (← Catalog.retrieveAll ⟨c.supplier t, e⟩ locations path m)
  | clear e locations path m =>
    return .ofResult .told (← Catalog.deleteAll ⟨c.supplier t, e⟩ locations path m)
  | report e locations path m =>
    return .ofResult .deletions (← Catalog.deleteReport ⟨c.supplier t, e⟩ locations path m)
  | keep e l path source m =>
    return .ofResult (fun h => .found (some h.resource))
      (← Catalog.store ⟨c.supplier t, e⟩ l path source m)
  | send e l path source n contentType =>
    return .ofResult .told (← Catalog.publish ⟨c.supplier t, e⟩ l path source n contentType)
  | listAll e l path =>
    return .ofResult .listings (← Catalog.list ⟨c.supplier t, e⟩ l path)

/-- It is an operation of a handle. -/
def isOfHandle : Chore S → Bool
  | lock _ | unlock _ | isLocked _ | isFile _ | isDirectory _ | length _ | isDated _ | present _
  | metaSibling .. | touch .. | copyFrom .. | delete .. | list _ | mkdirs _ | createFile _ => true
  | _ => false

end Chore

/-! ## Open streams -/

inductive OpenStream (R W : Type)
  | input (input : Handle.Input R)
  | output (output : Handle.Output W)

namespace OpenStream
variable {S R W : Type} (c : Cache S R W)

/-- The event that is fired when the stream ends. -/
def onClose? : OpenStream R W → Option Event
  | input i => i.onClose?
  | output o => o.onClose?

/-- Readers are not written to, and writers are not read. -/
def use : StreamUse → OpenStream R W → Action S (Reply × OpenStream R W)
  | .read limit, input i => do
    let (bytes, i) ← i.read c limit
    return (.read bytes, input i)
  | .write bytes, output o => do
    let (result, o) ← o.write c bytes
    return (.wrote result, output o)
  | .put bytes, output o => do
    let (result, o) ← o.put c bytes
    return (.wrote result, output o)
  | .flush, output o => do
    let (result, o) ← o.flush c
    return (.wrote result, output o)
  | _, stream => return (.gone, stream)

def finish (dropped : Bool) : OpenStream R W → Action S Reply
  | input i => do
    i.close c
    return .done
  | output o =>
    if dropped then do
      o.drop c
      return .done
    else return .wrote (← o.close c)

end OpenStream

/-- A stream, or the place of one that was ended. -/
structure Slot (S R W : Type) where
  cache : Cache S R W
  /-- The errand on which it was opened. -/
  opening : Errand S
  stream? : Option (OpenStream R W)

structure Record (S : Type) where
  thread : Thread
  errand : Errand S
  answer : Reply
  /-- The errand that had opened the stream that was ended. -/
  ended? : Option (Errand S) := none

/-- A world with the streams of all threads, and the journal of their errands. -/
structure Office (S R W : Type) where
  world : World S
  streams : List (Slot S R W) := []
  journal : List (Record S) := []

/-- How an errand ends. -/
inductive Outcome (S R W : Type)
  | answered (answer : Reply)
  | opened (stream : OpenStream R W)
  | ended (opening : Errand S) (answer : Reply)

namespace Outcome
variable {S R W : Type}

/-- The record for it, if `stream` is the number of the next stream. -/
def record (thread : Thread) (errand : Errand S) (stream : Nat) : Outcome S R W → Record S
  | answered answer => { thread, errand, answer }
  | opened _ => { thread, errand, answer := .opened (some stream) }
  | ended opening answer => { thread, errand, answer, ended? := some opening }

/-- The place for a stream that was opened. -/
def slots (c : Cache S R W) (errand : Errand S) : Outcome S R W → List (Slot S R W)
  | opened stream => [⟨c, errand, some stream⟩]
  | _ => []

end Outcome

namespace Office
variable {S R W α : Type}

/-- What the world does, the streams are not concerned with. -/
def act (p : Action S α) : Program (Office S R W) α :=
  p.within Office.world fun world o => { o with world }

/-- The stream, while it is open. -/
def stream? (o : Office S R W) (i : Nat) : Option (Slot S R W × OpenStream R W) :=
  o.streams[i]?.bind fun slot => slot.stream?.map fun stream => (slot, stream)

def put (i : Nat) (slot : Slot S R W) (stream? : Option (OpenStream R W)) (o : Office S R W) :
    Office S R W :=
  { o with streams := o.streams.set i { slot with stream? } }

/-- Uses the stream in one step: nobody else has it meanwhile. -/
def use (i : Nat) (how : StreamUse) : Program (Office S R W) Reply :=
  Program.attempt fun o =>
    match o.stream? i with
    | none => some (.gone, o)
    | some (slot, stream) =>
      match (stream.use slot.cache how).run o.world with
      | .finished (answer, stream) world => some (answer, { o with world }.put i slot (some stream))
      | .waiting _ _ => none

/-- Takes the stream away, for good. -/
def take (i : Nat) : Program (Office S R W) (Option (Slot S R W × OpenStream R W)) :=
  Program.change fun o =>
    match o.stream? i with
    | none => (none, o)
    | some (slot, stream) => (some (slot, stream), o.put i slot none)

/-- Notes the end of an errand, and gives a place to a stream that was opened. -/
def settle (c : Cache S R W) (t : Thread) (errand : Errand S) (outcome : Outcome S R W)
    (o : Office S R W) : Reply × Office S R W :=
  let record := outcome.record t errand o.streams.length
  (record.answer, { o with
    streams := o.streams ++ outcome.slots c errand
    journal := o.journal ++ [record] })

end Office

namespace Errand
variable {S R W : Type}

/-- How the thread goes about it. -/
def program (c : Cache S R W) (t : Thread) : Errand S → Program (Office S R W) (Outcome S R W)
  | chore job => return .answered (← Office.act (job.action c t))
  | openInput r fire m => do
    match ← Office.act ((c.handle r).openInput t fire m) with
    | .error e => return .answered (.failed e)
    | .ok none => return .answered (.opened none)
    | .ok (some input) => return .opened (.input input)
  | openOutput r purpose fire m => do
    match ← Office.act ((c.handle r).openOutput t purpose fire m) with
    | .error e => return .answered (.failed e)
    | .ok output => return .opened (.output output)
  | use i how => return .answered (← Office.use i how)
  | finish i dropped => do
    match ← Office.take i with
    | none => return .answered .gone
    | some (slot, stream) =>
      return .ended slot.opening (← Office.act (stream.finish slot.cache dropped))

/-- It is an operation of a handle or of a stream. -/
def isOfHandle : Errand S → Bool
  | chore job => job.isOfHandle
  | _ => true

end Errand

/-- The errands of a thread, each with the cache that it is done with. What comes next
may depend on all answers. -/
inductive Script (S R W : Type)
  | stop
  | ask (c : Cache S R W) (errand : Errand S) (next : Reply → Script S R W)

namespace Script
variable {S R W : Type}

def program (t : Thread) : Script S R W → Program (Office S R W) Unit
  | stop => return ()
  | ask c errand next => do
    let outcome ← errand.program c t
    let answer ← Program.change (Office.settle c t errand outcome)
    (next answer).program t

/-- All errands are done through handles and streams. -/
def IsOfHandles : Script S R W → Prop
  | stop => True
  | ask _ errand next => errand.isOfHandle = true ∧ ∀ answer, (next answer).IsOfHandles

end Script

/-- Threads that take turns in any order on their scripts, and what is left of them. -/
inductive Office.Reached {S R W : Type} (scripts : Thread → Script S R W) (w : World S) :
    Office S R W → (Thread → Program (Office S R W) Unit) → Prop
  | start : Reached scripts w { world := w } fun t => (scripts t).program t
  | step {o o' : Office S R W} {left : Thread → Program (Office S R W) Unit} {t : Thread}
      {β : Type} {b : β} {act : Office S R W → Option (β × Office S R W)}
      {next : β → Program (Office S R W) Unit} :
      Reached scripts w o left → left t = .step act next → act o = some (b, o') →
      Reached scripts w o' fun u => if u = t then next b else left u

/-- A thread that goes on alone, to the end of its script. -/
theorem Office.Reached.of_run {S R W : Type} {scripts : Thread → Script S R W} {w : World S}
    {o o' : Office S R W} {left : Thread → Program (Office S R W) Unit} {t : Thread}
    (reached : Reached scripts w o left) (ends : (left t).run o = .finished () o') :
    ∃ left', Reached scripts w o' left' ∧ left' t = .done () := by
  generalize at_start : left t = p at ends
  induction p generalizing o left with
  | done v =>
    obtain ⟨_, rfl⟩ := Program.Progress.finished.inj ends
    exact ⟨left, reached, at_start⟩
  | step act next ih =>
    rw [Program.run] at ends
    split at ends
    · cases ends
    · next b o₁ admits => exact ih b (reached.step at_start admits) (if_pos rfl) ends

end ArtifactCache
