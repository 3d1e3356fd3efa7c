import ArtifactCache.Handle.Operations

/-!
What a cache supplies: a handle where content is there or can be fetched, and
the ways in for new content. `Supplier` is that without the cache behind it.
-/
namespace ArtifactCache

structure Supplier (S H : Type) where
  /-- The handle, if the content is there or could be fetched. -/
  retrieve : Resource → Metadata → Action S (Except Failure (Option H))
  store : Resource → Source S → Metadata → Action S (Except Failure H)
  publish : Resource → Source S → (length : Nat) → (contentType : String) →
    Action S (Except Failure Bool)
  /-- Whether there was something to delete. -/
  delete : Resource → Metadata → Action S (Except Failure Bool)
  list : Resource → Action S (Except Failure (List String))

namespace Cache
variable {S R W : Type} (c : Cache S R W)

def handle (r : Resource) : Handle S R W := ⟨c, r⟩

def sayAll : List Line → Action S Unit
  | [] => return ()
  | line :: rest => do
    Action.note (.logged line)
    sayAll rest

/-- Asks the endpoint for the content. -/
def fetch (endpoint : Endpoint S) (r : Resource) :
    Action S (Except Failure (Option (Source S))) := do
  Action.note (.fetched r)
  let (found, lines) ← Action.inspect (endpoint.fetch r)
  sayAll lines
  return found

/-- Fetches the content into the store. What a failed download has left is
deleted. -/
def download (t : Thread) (endpoint : Endpoint S) (h : Handle S R W) (m : Metadata) :
    Action S (Except Failure Bool) := do
  match ← fetch endpoint h.resource with
  | .error e => return .error e
  | .ok none => return .ok false
  | .ok (some source) =>
    match ← h.openOutput t .download true m with
    | .error e => return .error e
    | .ok output =>
      match ← output.pour c source with
      | .ok n =>
        Action.say .debug .cache ("downloaded " ++ toString n ++ " bytes into " ++ h.display)
        return .ok true
      | .error fault =>
        match ← h.delete t false ∅ with
        | .ok _ => pure ()
        | .error e =>
          Action.say .warn .cache
            ("failed to remove partial download " ++ h.display ++ ": " ++ e.message)
        return .error (.endpoint h.resource.location.name (.downloadFailed h.resource fault))

def retrieve (t : Thread) (r : Resource) (m : Metadata) :
    Action S (Except Failure (Option (Handle S R W))) := do
  let h := c.handle r
  if ← h.present then return .ok (some h)
  else if !r.location.downloads then return .ok none
  else match c.endpoint? with
    | none => return .ok none
    | some endpoint =>
      match ← c.download t endpoint h m with
      | .error e => return .error e
      | .ok fetched => return .ok (if fetched then some h else none)

def store (t : Thread) (r : Resource) (source : Source S) (m : Metadata) :
    Action S (Except Failure (Handle S R W)) := do
  let h := c.handle r
  match ← h.openOutput t .upload true m with
  | .error e => return .error e
  | .ok output =>
    match ← output.pour c source with
    | .error fault => return .error (.storage .store h.place fault)
    | .ok n =>
      Action.say .debug .cache ("stored " ++ toString n ++ " bytes at " ++ h.display)
      return .ok h

def publish (r : Resource) (source : Source S) (length : Nat) (contentType : String) :
    Action S (Except Failure Bool) :=
  match c.endpoint? with
  | none => return .error (.endpoint r.location.name .unconfigured)
  | some endpoint => do
    let content ← Action.inspect source
    Action.note (.published r length contentType content)
    let (accepted, lines) ← Action.alter (endpoint.publish r source length contentType)
    sayAll lines
    return accepted

def delete (t : Thread) (r : Resource) (m : Metadata) : Action S (Except Failure Bool) :=
  (c.handle r).delete t true m

/-- Makes the content at `source` readable at `target`. -/
def createAlias (source target : Resource) : Action S (Except Failure Unit) := do
  let (result, lines) ← Action.alter (c.backend.createAlias source target)
  sayAll lines
  return result

def display : String :=
  "CacheTransferManager \x7b decorated: " ++ toString c.hooks?.isSome ++
    ", transport: " ++ toString c.endpoint?.isSome ++ " \x7d"

/-- The cache as one thread uses it. -/
def supplier (t : Thread) : Supplier S (Handle S R W) where
  retrieve := c.retrieve t
  store := c.store t
  publish := c.publish
  delete := c.delete t
  list r := (c.handle r).list

end Cache
end ArtifactCache
