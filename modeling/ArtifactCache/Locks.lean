import ArtifactCache.Resource
import ArtifactCache.Table

/-!
Write locks, one to a resource, created when first asked for and never
removed. A lock is re-entrant for its owner, except that only one streamed
write may be in flight. Holds are counted, and whoever gives one back need
not be the owner.
-/
namespace ArtifactCache

abbrev Thread := Nat

structure Lock where
  owner : Option Thread := none
  holds : Nat := 0
  /-- One of the holds belongs to a streamed write. -/
  streaming : Bool := false
  deriving DecidableEq, Repr

namespace Lock

/-- Somebody else holds the lock. -/
def blocks (l : Lock) (t : Thread) : Bool := 0 < l.holds && l.owner ≠ some t

def take (l : Lock) (t : Thread) : Lock := { l with owner := some t, holds := l.holds + 1 }

def takeStream (l : Lock) (t : Thread) : Lock := { l.take t with streaming := true }

/-- Gives one hold back; with the last one the lock is free for everybody. -/
def release (l : Lock) : Lock :=
  if l.holds ≤ 1 then {} else { l with holds := l.holds - 1 }

def releaseStream (l : Lock) : Lock := { l with streaming := false }.release

end Lock

abbrev Locks := Table Address Lock

namespace Locks

/-- What a step on the table answers, the table after it, and whether it wakes
those who wait for the resource. -/
structure Move (α : Type) where
  answer : α
  locks : Locks
  wakes : Bool := false

/-- How giving back a hold ends. -/
inductive Release
  | neverLocked
  | notHeld
  /-- Other holds remain. -/
  | kept
  | freed
  deriving DecidableEq, Repr

def Release.succeeded : Release → Bool
  | .kept | .freed => true
  | .neverLocked | .notHeld => false

/-- The lock of a resource, free where the table has none. -/
def lockAt (ls : Locks) (a : Address) : Lock := (ls.get? a).getD {}

/-- Makes sure that the table has a lock for the resource. -/
def enter (a : Address) (ls : Locks) : Locks := ls.insert a (ls.lockAt a)

/-- Takes a hold and answers their number, unless `t` has to wait. -/
def hold (t : Thread) (a : Address) (ls : Locks) : Option (Move Nat) :=
  let l := ls.lockAt a
  if l.blocks t then none
  else some { answer := l.holds + 1, locks := ls.insert a (l.take t) }

/-- Takes the hold of a streamed write and answers the number of holds, unless
`t` has to wait. Where a streamed write is in flight, it is `t`'s own, and the
answer is `none`. -/
def holdStream (t : Thread) (a : Address) (ls : Locks) : Option (Move (Option Nat)) :=
  let l := ls.lockAt a
  if l.blocks t then none
  else if l.streaming then some { answer := none, locks := ls }
  else some { answer := some (l.holds + 1), locks := ls.insert a (l.takeStream t) }

/-- Those who wait are woken when the last hold is gone. -/
def put (a : Address) (l : Lock) (ls : Locks) : Move Release :=
  if l.holds = 0 then { answer := .freed, locks := ls.insert a l, wakes := true }
  else { answer := .kept, locks := ls.insert a l }

/-- Gives back one hold of whatever kind. -/
def release (a : Address) (ls : Locks) : Move Release :=
  match ls.get? a with
  | none => { answer := .neverLocked, locks := ls }
  | some l =>
    if l.holds = 0 then { answer := .notHeld, locks := ls }
    else put a l.release ls

/-- Gives back the hold of the streamed write in flight. -/
def releaseStream (a : Address) (ls : Locks) : Move Release :=
  match ls.get? a with
  | none => { answer := .neverLocked, locks := ls }
  | some l =>
    if l.streaming then put a l.releaseStream ls
    else { answer := .notHeld, locks := ls }

/-- `t` need not wait for the resource. -/
def admits (t : Thread) (a : Address) (ls : Locks) : Bool := !(ls.lockAt a).blocks t

def isHeld (a : Address) (ls : Locks) : Bool := 0 < (ls.lockAt a).holds

end Locks
end ArtifactCache
