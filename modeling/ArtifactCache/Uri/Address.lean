import ArtifactCache.Text.Digits
import ArtifactCache.Text.Pieces
import ArtifactCache.Uri.Fault

/-!
Hosts that are numbers: dotted addresses of four bytes, and addresses of
eight groups of hexadecimal digits.
-/
namespace ArtifactCache.Uri

/-- A number in decimal, in hexadecimal after `0x`, in octal after another `0`. -/
def numberPart? : List Char → Option Nat
  | [] => none
  | '0' :: 'x' :: rest | '0' :: 'X' :: rest => Text.digitsIn 16 rest
  | ['0'] => some 0
  | '0' :: rest => Text.digitsIn 8 rest
  | cs => Text.digitsIn 10 cs

/-- The parts between the dots; a dot at the end adds none. -/
def dottedParts (cs : List Char) : List (List Char) :=
  let parts := Text.split '.' cs
  if parts.getLast? = some [] then parts.dropLast else parts

/-- A host whose last part is a number has to be a dotted address. -/
def endsInNumber (cs : List Char) : Bool :=
  match (dottedParts cs).getLast? with
  | none | some [] => false
  | some last => last.all Char.isDigit || (numberPart? last).isSome

/-- At most four numbers. All but the last are bytes, and the last fills the
bytes that remain. -/
def isIpv4 (cs : List Char) : Bool :=
  let parts := dottedParts cs
  match parts.mapM numberPart? with
  | none | some [] => false
  | some numbers =>
    numbers.length ≤ 4 && numbers.dropLast.all (· ≤ 255) &&
      numbers.getLastD 0 < Nat.pow 256 (5 - numbers.length)

/-- Four decimal bytes without leading zeros. -/
def isDottedQuad (cs : List Char) : Bool :=
  let parts := Text.split '.' cs
  parts.length = 4 && parts.all fun part =>
    part ≠ [] && part.all Char.isDigit && (part.length = 1 || part.head? ≠ some '0') &&
      (Text.digitsIn 10 part).any (· ≤ 255)

/-- Reads groups until eight are complete; one run of groups may be left out. -/
def groupsFrom (count : Nat) (elided : Bool) (cs : List Char) : Bool :=
  match cs with
  | [] => elided || count = 8
  | c :: rest =>
    if count = 8 then false
    else if c = ':' then !elided && groupsFrom (count + 1) true rest
    else
      let digits := ((c :: rest).take 4).takeWhile fun c => (Text.hexValue? c).isSome
      match h : (c :: rest).drop digits.length with
      | [] => elided || count + 1 = 8
      | '.' :: _ => digits ≠ [] && count ≤ 6 && isDottedQuad (c :: rest) && (elided || count = 6)
      | ':' :: next => next ≠ [] && groupsFrom (count + 1) elided next
      | _ => false
termination_by cs.length
decreasing_by
  · simp
  · have := congrArg List.length h
    simp only [List.length_drop, List.length_cons] at this ⊢
    omega

def isIpv6 : List Char → Bool
  | ':' :: ':' :: rest => groupsFrom 1 true rest
  | [] | [_] | ':' :: _ => false
  | cs => groupsFrom 0 false cs

end ArtifactCache.Uri
