/-!
The encoding of international labels in ASCII letters and digits: the basic
characters first, then the places and code points of the others as a chain of
variable-length numbers whose thresholds follow an adapting bias.
-/
namespace ArtifactCache.Uri.Punycode

def digitValue? (c : Char) : Option Nat :=
  if 'a' ≤ c && c ≤ 'z' then some (c.toNat - 97)
  else if 'A' ≤ c && c ≤ 'Z' then some (c.toNat - 65)
  else if '0' ≤ c && c ≤ '9' then some (c.toNat - 22)
  else none

def threshold (k bias : Nat) : Nat :=
  if k ≤ bias then 1 else if bias + 26 ≤ k then 26 else k - bias

def scale (delta k : Nat) : Nat :=
  if 455 < delta then scale (delta / 35) (k + 36) else k + 36 * delta / (delta + 38)
termination_by delta
decreasing_by omega

def adapt (delta count : Nat) (first : Bool) : Nat :=
  let delta := if first then delta / 700 else delta / 2
  scale (delta + delta / count) 0

/-- Numbers have thirty-two bits. -/
def limit : Nat := Nat.pow 2 32

/-- One variable-length number, added to `i`, and what follows it. -/
def number? (bias : Nat) : List Char → (k weight i : Nat) → Option (Nat × List Char)
  | [], _, _, _ => none
  | c :: rest, k, weight, i =>
    match digitValue? c with
    | none => none
    | some d =>
      let t := threshold k bias
      let i := i + d * weight
      if limit ≤ i then none
      else if d < t then some (i, rest)
      else if limit ≤ weight * (36 - t) then none
      else number? bias rest (k + 36) (weight * (36 - t)) i

theorem length_of_number? {bias : Nat} {cs : List Char} {k weight i j : Nat} {rest : List Char}
    (h : number? bias cs k weight i = some (j, rest)) : rest.length < cs.length := by
  induction cs generalizing k weight i with
  | nil => simp [number?] at h
  | cons c cs ih =>
    simp only [number?] at h
    repeat' split at h
    all_goals first | contradiction | skip
    · cases h; simp
    · have := ih h; simp only [List.length_cons]; omega

set_option linter.unusedVariables false in
/-- Puts the characters that the numbers tell at their places. -/
def insertAll (out : List Char) (n i bias : Nat) (first : Bool) (cs : List Char) :
    Option (List Char) :=
  match cs with
  | [] => some out
  | c :: cs =>
    match h : number? bias (c :: cs) 36 1 i with
    | none => none
    | some (j, rest) =>
      let count := out.length + 1
      let code := n + j / count
      if code < 0xD800 || (0xDFFF < code && code < 0x110000) then
        let place := j % count
        insertAll (out.take place ++ Char.ofNat code :: out.drop place) code (place + 1)
          (adapt (j - i) count first) false rest
      else none
termination_by cs.length
decreasing_by exact length_of_number? h

/-- The label that is written as `cs`. The basic characters stand before the
last hyphen; a hyphen that nothing stands before is none of that kind. -/
def decode? (cs : List Char) : Option (List Char) :=
  let tail := (cs.reverse.takeWhile (· ≠ '-')).reverse
  match (cs.take (cs.length - tail.length)).dropLast with
  | [] => insertAll [] 128 0 72 true cs
  | basic => insertAll basic 128 0 72 true tail

end ArtifactCache.Uri.Punycode
