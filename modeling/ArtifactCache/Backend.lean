import ArtifactCache.Trace

/-!
What a store of content has to offer. `S` is the state of the store; `R` and
`W` are the states of its open readers and writers.
-/
namespace ArtifactCache

structure Backend (S R W : Type) where
  isFile : Resource → S → Bool
  isDirectory : Resource → S → Bool
  /-- There is a file or a directory. -/
  present : Resource → S → Bool
  /-- The length of the content, 0 where there is none. -/
  length : Resource → S → Nat
  /-- The store knows when the resource was last modified. -/
  isDated : Resource → S → Bool
  /-- Where the resource is kept, in words. -/
  place : Resource → String
  /-- `none` where there is no content. -/
  openReader : Resource → S → Except Failure (Option R)
  /-- The next bytes, at most as many as the limit says, and the reader behind them. -/
  read : R → Option Nat → S → Bytes × R
  /-- Replaces the content by what will be written. -/
  openWriter : Resource → S → Except Failure W × S
  write : W → Bytes → S → W × S
  flush : W → S → W × S
  /-- What is still buffered is delivered. -/
  closeWriter : W → S → S
  copy : Resource → Resource → S → Except Failure Unit × S
  /-- Whether there was something to delete. -/
  delete : Resource → S → Except Failure Bool × S
  /-- The names of the children in ascending order; none where there is no directory. -/
  list : Resource → S → Except Failure (List String)
  mkdirs : Resource → S → Except Failure Unit × S
  /-- Creates an empty file where there is none. -/
  createFile : Resource → S → Except Failure Unit × S
  /-- Makes the content of the first resource readable at the second, with
  what there is to say about it. -/
  createAlias : Resource → Resource → S → (Except Failure Unit × List Line) × S

/-- The same store as a part of a larger state. -/
def Backend.within {S T R W : Type} (b : Backend S R W) (get : T → S) (set : S → T → T) :
    Backend T R W where
  isFile r t := b.isFile r (get t)
  isDirectory r t := b.isDirectory r (get t)
  present r t := b.present r (get t)
  length r t := b.length r (get t)
  isDated r t := b.isDated r (get t)
  place := b.place
  openReader r t := b.openReader r (get t)
  read reader limit t := b.read reader limit (get t)
  openWriter r t := lift (b.openWriter r) t
  write w bytes t := lift (b.write w bytes) t
  flush w t := lift (b.flush w) t
  closeWriter w t := set (b.closeWriter w (get t)) t
  copy source target t := lift (b.copy source target) t
  delete r t := lift (b.delete r) t
  list r t := b.list r (get t)
  mkdirs r t := lift (b.mkdirs r) t
  createFile r t := lift (b.createFile r) t
  createAlias source target t := lift (b.createAlias source target) t
where
  lift {α : Type} (act : S → α × S) (t : T) : α × T :=
    let (answer, s) := act (get t)
    (answer, set s t)

end ArtifactCache
