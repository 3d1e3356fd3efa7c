import ArtifactCache.Locks
import ArtifactCache.Program
import ArtifactCache.Trace

/-!
The state that the threads of a cache share, and the lock steps over it.
-/
namespace ArtifactCache

structure World (S : Type) where
  storage : S
  locks : Locks := ∅
  /-- In the order of the occurrences. -/
  trace : List Occurrence := []

namespace World
variable {S α : Type}

def note (o : Occurrence) (w : World S) : World S := { w with trace := w.trace ++ [o] }

def say (level : Level) (speaker : Speaker) (text : String) (w : World S) : World S :=
  w.note (.logged ⟨level, speaker, text⟩)

/-- The events that were fired, in order. -/
def events (w : World S) : List Event := w.trace.filterMap Occurrence.event?

def withLocks (ls : Locks) (w : World S) : World S := { w with locks := ls }

end World

/-- A program over a cache whose store has the state `S`. -/
abbrev Action (S α : Type) := Program (World S) α

namespace Action
variable {S α : Type}

def note (o : Occurrence) : Action S Unit := Program.change fun w => ((), w.note o)

def say (level : Level) (speaker : Speaker) (text : String) : Action S Unit :=
  note (.logged ⟨level, speaker, text⟩)

def inspect (view : S → α) : Action S α := Program.look fun w => view w.storage

def alter (act : S → α × S) : Action S α :=
  Program.change fun w =>
    let (answer, s) := act w.storage
    (answer, { w with storage := s })

end Action

namespace Locks
variable {S : Type}

/-- Waits until `t` has a hold on the resource. -/
def lock (t : Thread) (r : Resource) : Action S Unit := do
  Program.change fun w => ((), w.withLocks (w.locks.enter r.address))
  Program.attempt fun w => (w.locks.hold t r.address).map fun move =>
    ((), (w.withLocks move.locks).say .trace .locks
      ("write lock acquired on " ++ r.display ++ " (holds: " ++ toString move.answer ++ ")"))

/-- Waits until no other thread holds the resource, then takes the hold of a
streamed write. `false` if this thread has one in flight. -/
def lockStream (t : Thread) (r : Resource) : Action S Bool := do
  Program.change fun w => ((), w.withLocks (w.locks.enter r.address))
  Program.attempt fun w => (w.locks.holdStream t r.address).map fun move =>
    match move.answer with
    | none => (false, w.say .warn .locks (r.display ++ " already has a write in flight"))
    | some holds => (true, (w.withLocks move.locks).say .trace .locks
        ("stream lock acquired on " ++ r.display ++ " (holds: " ++ toString holds ++ ")"))

/-- Takes the hold of a streamed write, or fails if this thread has one in flight. -/
def acquire (t : Thread) (r : Resource) : Action S (Except Failure Unit) := do
  return if ← lockStream t r then .ok () else .error (.writeInProgress r)

/-- The state after a hold was given back, or not. -/
def settle (r : Resource) (notHeld : String) (move : Move Release) (w : World S) :
    Bool × World S :=
  (move.answer.succeeded,
    match move.answer with
    | .neverLocked =>
      w.say .warn .locks ("unlock requested for " ++ r.display ++ " which was never locked")
    | .notHeld => w.say .warn .locks notHeld
    | .kept => w.withLocks move.locks
    | .freed =>
      (w.withLocks move.locks).say .trace .locks ("write lock released on " ++ r.display))

/-- Gives one hold back, whoever took it. `false` if there is none. -/
def unlock (r : Resource) : Action S Bool :=
  Program.change fun w =>
    settle r ("unlock requested for " ++ r.display ++ " which is not locked")
      (w.locks.release r.address) w

/-- Gives back the hold of the streamed write in flight. `false` if there is none. -/
def unlockStream (r : Resource) : Action S Bool :=
  Program.change fun w =>
    settle r ("stream unlock requested for " ++ r.display ++ " with no write in flight")
      (w.locks.releaseStream r.address) w

/-- Waits until no other thread holds the resource, and takes nothing. -/
def awaitFree (t : Thread) (r : Resource) : Action S Unit :=
  Program.await fun w => w.locks.admits t r.address

def isLocked (r : Resource) : Action S Bool := Program.look fun w => w.locks.isHeld r.address

end Locks
end ArtifactCache
