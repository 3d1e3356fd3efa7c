import ArtifactCache.Resource

/-!
What can go wrong below the cache: in the operating system, in a stream, in
the memory store, in a collaborator.
-/
namespace ArtifactCache

/-- Why the memory store refuses. -/
inductive Refusal
  | beneathFile (file : Resource)
  | directory
  | file
  | notEmpty
  | noSource
  deriving DecidableEq

def Refusal.message : Refusal → String
  | .beneathFile r => r.display ++ " is a file, not a directory"
  | .directory => "is a directory"
  | .file => "is a file"
  | .notEmpty => "directory not empty"
  | .noSource => "source does not exist"

inductive Fault
  | notFound
  | alreadyExists
  | notADirectory
  | isADirectory
  | nameTooLong
  | directoryNotEmpty
  /-- A name given to the operating system holds a NUL. -/
  | nulInName
  /-- Only a regular file can be copied. -/
  | notRegular
  /-- Content read as text is not UTF-8. -/
  | notText
  /-- The path of a directory that a walk has come to is too long to open it by. -/
  | tooLongBelow (place : String)
  | refused (why : Refusal)
  /-- The words of a hook, an endpoint or a stream. -/
  | reported (words : String)
  deriving DecidableEq

def Fault.message : Fault → String
  | .notFound => "No such file or directory (os error 2)"
  | .alreadyExists => "File exists (os error 17)"
  | .notADirectory => "Not a directory (os error 20)"
  | .isADirectory => "Is a directory (os error 21)"
  | .nameTooLong => "File name too long (os error 36)"
  | .directoryNotEmpty => "Directory not empty (os error 39)"
  | .nulInName => "file name contained an unexpected NUL byte"
  | .notRegular => "the source path is neither a regular file nor a symlink to a regular file"
  | .notText => "stream did not contain valid UTF-8"
  | .tooLongBelow place =>
    "IO error for operation on " ++ place ++ ": File name too long (os error 36)"
  | .refused why => why.message
  | .reported words => words

/-- The fault below this one. -/
def Fault.cause? : Fault → Option Fault
  | .tooLongBelow _ => some .nameTooLong
  | _ => none

end ArtifactCache
