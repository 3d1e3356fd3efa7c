import ArtifactCache.Text.Digits
import ArtifactCache.Text.Pieces

/-!
What is known of characters, in tables of code points. A table is written as a
text of runs in ascending order: `61-7A` is a run, `E9` a run of one, and the
numbers that go with a run follow it, as in `DF=73.73`. All of them are
hexadecimal. `mem_of_find?` and `covers_of_find?` say that a run that is found
is one of the table and holds the character.
-/
namespace ArtifactCache.Text

/-- Code points that follow each other and share what is known of them. -/
structure CodeRun where
  first : Nat
  last : Nat
  values : List Nat := []
  deriving DecidableEq, Repr

namespace CodeRun

def covers (run : CodeRun) (c : Char) : Prop := run.first ≤ c.toNat ∧ c.toNat ≤ run.last

instance (run : CodeRun) (c : Char) : Decidable (run.covers c) := by
  unfold covers; infer_instance

/-- The run that a word writes. -/
def ofWord? (word : List Char) : Option CodeRun := do
  let bounds ← ((split '-' (word.takeWhile (· ≠ '='))).mapM (digitsIn 16))
  let values ← match word.dropWhile (· ≠ '=') with
    | [] => some []
    | _ :: values => (split '.' values).mapM (digitsIn 16)
  match bounds with
  | [one] => some { first := one, last := one, values }
  | [first, last] => some { first, last, values }
  | _ => none

end CodeRun

/-- The words of a text. White space stands between them. -/
def words (s : String) : List (List Char) :=
  let close (word : List Char) (done : List (List Char)) : List (List Char) :=
    if word = [] then done else word.reverse :: done
  let (word, done) := s.toList.foldl (fun (word, done) c =>
    if c.isWhitespace then ([], close word done) else (c :: word, done)) ([], [])
  (close word done).reverse

structure CodeTable where
  /-- In ascending order. -/
  runs : Array CodeRun

namespace CodeTable

def ofText (s : String) : CodeTable := ⟨((words s).filterMap CodeRun.ofWord?).toArray⟩

/-- Looks for the run of a character between two places of the table, by halving. -/
def findIn (runs : Array CodeRun) (c : Char) (low high : Nat) : Option CodeRun :=
  if low < high then
    let middle := low + (high - low) / 2
    match runs[middle]? with
    | none => none
    | some run =>
      if c.toNat < run.first then findIn runs c low middle
      else if run.last < c.toNat then findIn runs c (middle + 1) high
      else some run
  else none
termination_by high - low

/-- The run that a character is in. -/
def find? (t : CodeTable) (c : Char) : Option CodeRun := findIn t.runs c 0 t.runs.size

def holds (t : CodeTable) (c : Char) : Bool := (t.find? c).isSome

/-- The first number that goes with a character. -/
def value? (t : CodeTable) (c : Char) : Option Nat := (t.find? c).bind (·.values.head?)

theorem mem_and_covers_of_findIn {runs : Array CodeRun} {c : Char} {low high : Nat}
    {run : CodeRun} (h : findIn runs c low high = some run) : run ∈ runs ∧ run.covers c := by
  fun_induction findIn runs c low high with
  | case1 => simp at h
  | case2 _ _ _ _ _ _ _ ih => exact ih h
  | case3 _ _ _ _ _ _ _ _ ih => exact ih h
  | case4 low high hlt middle found hfound hfirst hlast =>
    cases h
    exact ⟨Array.mem_of_getElem? hfound, Nat.le_of_not_lt hfirst, Nat.le_of_not_lt hlast⟩
  | case5 => simp at h

theorem mem_of_find? {t : CodeTable} {c : Char} {run : CodeRun} (h : t.find? c = some run) :
    run ∈ t.runs := (mem_and_covers_of_findIn h).1

theorem covers_of_find? {t : CodeTable} {c : Char} {run : CodeRun} (h : t.find? c = some run) :
    run.covers c := (mem_and_covers_of_findIn h).2

end CodeTable
end ArtifactCache.Text
