import ArtifactCache.Backend
import ArtifactCache.Endpoint
import ArtifactCache.Hooks
import ArtifactCache.Text.Quoted
import ArtifactCache.World

/-!
A cache with its collaborators, and the handle on one resource of it. A
handle owns no bytes; any number of them may stand for the same resource.
-/
namespace ArtifactCache

/-- Who hears of events. -/
inductive Listener
  | silent
  | logging
  | recording
  deriving DecidableEq, Repr

structure Cache (S R W : Type) where
  backend : Backend S R W
  listener : Listener := .logging
  hooks? : Option Hooks := none
  endpoint? : Option (Endpoint S) := none

structure Handle (S R W : Type) where
  cache : Cache S R W
  resource : Resource

/-- The metadata as the log shows it. -/
def Metadata.display (m : Metadata) : String :=
  "EventMetadata \x7b values: \x7b" ++
    ", ".intercalate (m.pairs.map fun (k, v) => Text.quoted k ++ ": " ++ Text.quoted v) ++
    "\x7d \x7d"

namespace Handle
variable {S R W α : Type} (h : Handle S R W)

/-- Where the resource is kept, in words. -/
def place : String := h.cache.backend.place h.resource

def display : String :=
  h.resource.location.name ++ ":" ++ h.resource.path.text ++ " (stored at: " ++ h.place ++ ")"

/-- The root is its own parent. -/
def parent : Handle S R W := { h with resource := h.resource.parent }

def child (name : String) : Handle S R W := { h with resource := h.resource.child name }

/-- The child of the parent; a root has no siblings. -/
def sibling (name : String) : Option (Handle S R W) :=
  if h.resource.isRoot then none else some (h.parent.child name)

/-- The file beside this one whose name has the suffix; a root has none. -/
def metaSibling (suffix : String) : Action S (Option (Handle S R W)) :=
  match h.resource.withSuffix suffix with
  | none => return none
  | some resource => do
    Action.say .debug .handle ("creating meta sibling " ++ resource.display ++ " for " ++ h.display)
    return some { h with resource }

/-- Tells the listener. -/
def fire (event : Event) : Action S Unit := do
  Action.note (.fired event)
  if h.cache.listener = .logging then
    Action.say .debug .events ("file event: " ++ event.display)

/-- Fires the error event of a failed operation, if events are wanted. -/
def reportFailure (fire : Bool) (m : Metadata) : Except Failure α → Action S Unit
  | .ok _ => return ()
  | .error e => if fire then h.fire (.error h.resource e.message m) else return ()

/-- Asks a hook. Without hooks, the answer is the one that lets everything pass. -/
def consult (hook : Hook) (call : HookCall) (ask : Hooks → Except Fault α) (passing : α) :
    Action S (Except Failure α) :=
  match h.cache.hooks? with
  | none => return .ok passing
  | some hooks => do
    Action.note (.hooked call)
    return match ask hooks with
      | .ok answer => .ok answer
      | .error fault => .error (.storage (.hook hook) h.place fault)

end Handle
end ArtifactCache
