import ArtifactCache.Disk.PathText

/-!
Places on disk: a path as somebody gave it, and names below it.
-/
namespace ArtifactCache

structure Place where
  base : PathText
  below : List String := []
  deriving DecidableEq, Repr

namespace Place

/-- The path as it is given to the operating system. -/
def path (p : Place) : PathText := p.below.foldl .push p.base

/-- The path as it is shown. -/
def text (p : Place) : String := p.path.display

def push (p : Place) (name : String) : Place := { p with below := p.below ++ [name] }

def isAbsolute (p : Place) : Bool := p.base.isAbsolute

/-- The steps that a path takes, `.` and `..` among them. -/
def stepsOf (path : PathText) : List PathText := path.pieces.filter (· ≠ .text "")

/-- The steps from the root or the working directory to the place. -/
def steps (p : Place) : List PathText :=
  stepsOf p.base ++ (p.below.filter (· ≠ "")).map .text

/-- The steps without those that lead nowhere. -/
def names (p : Place) : List PathText := p.steps.filter (· ≠ .text ".")

/-- Two spellings of one place. -/
def same (p q : Place) : Bool := p.isAbsolute = q.isAbsolute && p.names = q.names

/-- A path that ends in a slash can only be a directory. -/
def wantsDirectory (p : Place) : Bool := p.path.endsInSlash

/-- The place without its last name, and without slashes and dots at its end. -/
def parent? (p : Place) : Option Place :=
  match p.below.reverse.dropWhile (· = "") with
  | [] => p.base.parent?.map fun base => { base }
  | _ :: above =>
    match above.dropWhile (· = "") with
    | [] => some { base := p.base.tidy }
    | above => some { p with below := above.reverse }

/-- The place and those above it, as many as `count` says, nearest first. -/
def upward : (count : Nat) → Place → List Place
  | 0, p => [p]
  | n + 1, p => p :: match p.parent? with
    | none => []
    | some above => upward n above

/-- The place and all those above it. -/
def selfAndAbove (p : Place) : List Place := upward p.steps.length p

end Place
end ArtifactCache
