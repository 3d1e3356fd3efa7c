import ArtifactCache.Trace

/-!
The endpoint of a location: where missing content is fetched from, and where
new content is published.
-/
namespace ArtifactCache

/-- A reader that is not opened yet. What it yields may depend on the state of
the store when it is read. -/
abbrev Source (S : Type) := S → Content

structure Endpoint (S : Type) where
  /-- `none` where the endpoint does not have the resource; with what there is
  to say about it. -/
  fetch : Resource → S → Except Failure (Option (Source S)) × List Line
  /-- `false` where the endpoint takes nothing. -/
  publish : Resource → Source S → (length : Nat) → (contentType : String) → S →
    (Except Failure Bool × List Line) × S

end ArtifactCache
