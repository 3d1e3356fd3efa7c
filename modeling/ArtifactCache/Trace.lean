import ArtifactCache.Bytes
import ArtifactCache.Event

/-!
The trace of a cache: what an observer sees of it, in order.
-/
namespace ArtifactCache

inductive Level
  | error | warn | info | debug | trace
  deriving DecidableEq, Repr

namespace Level

def label : Level → String
  | error => "ERROR"
  | warn => "WARN"
  | info => "INFO"
  | debug => "DEBUG"
  | trace => "TRACE"

/-- The more it tells, the higher. -/
def rank : Level → Nat
  | error => 1
  | warn => 2
  | info => 3
  | debug => 4
  | trace => 5

end Level

/-- The part of the cache that writes a line. -/
inductive Speaker
  | locks | memory | files | handle | stream | events | endpoint | cache | search | catalog
  | documents | command
  deriving DecidableEq, Repr

/-- The name under which a part logs. -/
def Speaker.label : Speaker → String
  | .locks => "repo_cache::cache::locks"
  | .memory => "repo_cache::cache::memory"
  | .files => "repo_cache::cache::file"
  | .handle => "repo_cache::transfer"
  | .stream => "repo_cache::transfer::stream"
  | .events => "repo_cache::event"
  | .endpoint => "repo_cache::transport"
  | .cache => "repo_cache::manager"
  | .search => "repo_cache::resolver"
  | .catalog => "repo_cache::content"
  | .documents => "repo_cache::reader"
  | .command => "repo_cache::commands"

structure Line where
  level : Level
  speaker : Speaker
  text : String
  deriving DecidableEq, Repr

/-- What a reader yields: its bytes, and then its end or a fault. -/
structure Content where
  bytes : Bytes
  fault? : Option Fault := none
  deriving DecidableEq

/-- What a hook is asked. -/
inductive HookCall
  | touch (resource : Resource) (metadata : Metadata)
  | read (resource : Resource) (metadata : Metadata)
  | write (purpose : Purpose) (resource : Resource) (metadata : Metadata)
  | present (resource : Resource) (metadata : Metadata)
  | copyFrom (source target : Resource) (metadata : Metadata)
  | delete (resource : Resource) (metadata : Metadata)
  | listing (resource : Resource) (names : List String) (metadata : Metadata)
  | mkdirs (resource : Resource) (metadata : Metadata)
  | createFile (resource : Resource) (metadata : Metadata)
  deriving DecidableEq

inductive Occurrence
  | fired (event : Event)
  | logged (line : Line)
  | hooked (call : HookCall)
  /-- The endpoint was asked for a resource. -/
  | fetched (resource : Resource)
  /-- Content was sent to the endpoint. -/
  | published (resource : Resource) (length : Nat) (contentType : String) (content : Content)
  deriving DecidableEq

namespace Occurrence

def event? : Occurrence → Option Event
  | fired event => some event
  | _ => none

def line? : Occurrence → Option Line
  | logged line => some line
  | _ => none

end Occurrence
end ArtifactCache
