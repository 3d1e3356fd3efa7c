import ArtifactCache.Failure
import ArtifactCache.Text.Pieces

/-!
What the program says when it gives up: a message, and under it the causes.
-/
namespace ArtifactCache.CommandLine

structure Complaint where
  message : String
  /-- What lies under the message, the nearest first. -/
  causes : List String := []
  deriving DecidableEq, Repr

namespace Complaint

def ofFailure (e : Failure) : Complaint := { message := e.message, causes := e.causes }

/-- A complaint that has the failure for its cause. -/
def about (message : String) (e : Failure) : Complaint :=
  { message, causes := e.message :: e.causes }

def ofFault (message : String) (fault : Fault) : Complaint := { message, causes := [fault.message] }

/-- Puts `first` before the first line and `further` before the others. -/
def indent (first further text : String) : String :=
  let lines := (Text.split '\n' text.toList).map String.ofList
  first ++ ("\n" ++ further).intercalate lines

/-- The causes are numbered if there are several. -/
def causeLines : List String → List String
  | [] => []
  | [cause] => [indent "    " "    " cause]
  | causes => causes.zipIdx.map fun (cause, n) =>
    let number := toString n
    indent (String.ofList (List.replicate (5 - number.length) ' ') ++ number ++ ": ") "       " cause

def text (c : Complaint) : String :=
  let causes := match causeLines c.causes with
    | [] => ""
    | lines => "\n\nCaused by:\n" ++ "\n".intercalate lines
  "Error: " ++ c.message ++ causes ++ "\n"

end Complaint
end ArtifactCache.CommandLine
