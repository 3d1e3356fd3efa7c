/-!
Numbers written in digits of a radix up to sixteen.
-/
namespace ArtifactCache.Text

def hexValue? (c : Char) : Option Nat :=
  if '0' ≤ c && c ≤ '9' then some (c.toNat - 48)
  else if 'a' ≤ c && c ≤ 'f' then some (c.toNat - 87)
  else if 'A' ≤ c && c ≤ 'F' then some (c.toNat - 55)
  else none

/-- The number that digits stand for; no digits are zero. -/
def digitsIn (radix : Nat) (cs : List Char) : Option Nat :=
  cs.foldlM (fun n c => (hexValue? c).bind fun v =>
    if v < radix then some (n * radix + v) else none) 0

end ArtifactCache.Text
