import ArtifactCache.Disk.PathText

/-!
Where the cache is kept: where somebody says, else where the configuration
says, else in the cache directory of the user.
-/
namespace ArtifactCache

/-- What a process knows of its user. -/
structure Surroundings where
  home? : Option String := none
  cacheHome? : Option String := none
  /-- The home directory in the list of accounts. -/
  accountHome? : Option String := none

namespace Surroundings

/-- An empty home directory counts as none. -/
def homeDirectory? (s : Surroundings) : Option String :=
  (s.home?.filter (· ≠ "")).or s.accountHome?

/-- The directory for caches: where it is given as an absolute path, or below
the home directory. -/
def cacheDirectory? (s : Surroundings) : Option String :=
  (s.cacheHome?.filter fun path => path.toList.head? = some '/').or
    (s.homeDirectory?.map (PathText.pushName · ".cache"))

end Surroundings

namespace CacheRoot

def directoryName : String := "repo-cache"

/-- A hidden directory here, where there is no directory for caches. -/
def default (s : Surroundings) : String :=
  match s.cacheDirectory? with
  | some path => PathText.pushName path directoryName
  | none => "." ++ directoryName

def resolve (given? configured? : Option String) (s : Surroundings) : String :=
  (given?.or configured?).getD (default s)

end CacheRoot
end ArtifactCache
