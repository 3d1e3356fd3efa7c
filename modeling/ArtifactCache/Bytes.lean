/-!
Content as a list of bytes, and the text that it may hold.
-/
namespace ArtifactCache

abbrev Bytes := List UInt8

namespace Bytes

def ofText (s : String) : Bytes := s.toUTF8.toList

/-- The text that the bytes hold, if they are valid UTF-8. -/
def toText? (b : Bytes) : Option String := String.fromUTF8? ⟨b.toArray⟩

/-- How many bytes follow a first byte in UTF-8, and the bounds of the next one. -/
def followers? (first : UInt8) : Option (Nat × UInt8 × UInt8) :=
  if 0xC2 ≤ first && first ≤ 0xDF then some (1, 0x80, 0xBF)
  else if first = 0xE0 then some (2, 0xA0, 0xBF)
  else if first = 0xED then some (2, 0x80, 0x9F)
  else if 0xE1 ≤ first && first ≤ 0xEF then some (2, 0x80, 0xBF)
  else if first = 0xF0 then some (3, 0x90, 0xBF)
  else if first = 0xF4 then some (3, 0x80, 0x8F)
  else if 0xF1 ≤ first && first ≤ 0xF3 then some (3, 0x80, 0xBF)
  else none

/-- How many of the bytes `rest` belong to one character with the byte before
them. They may be fewer than the character needs. -/
def belonging (first : UInt8) (rest : Bytes) : Nat :=
  match followers? first, rest with
  | some (count, low, high), next :: more =>
    if low ≤ next && next ≤ high then
      1 + ((more.take (count - 1)).takeWhile fun b => 0x80 ≤ b && b ≤ 0xBF).length
    else 0
  | _, _ => 0

/-- The characters that are shown for bytes: one replacement character for the
bytes of each character that breaks off, and for each byte that begins none. -/
def shown : Bytes → List Char
  | [] => []
  | first :: rest =>
    let count := belonging first rest
    let char := match toText? (first :: rest.take count) with
      | some s => s.toList
      | none => [Char.ofNat 0xFFFD]
    char ++ shown (rest.drop count)
termination_by b => b.length
decreasing_by simp only [List.length_drop, List.length_cons]; omega

/-- The text that is shown for bytes, which is the text that they hold if they
hold one. -/
def display (b : Bytes) : String := (toText? b).getD (String.ofList (shown b))

/-- Puts `data` at `offset`. A gap before it is filled with zeros, and what
lies behind it stays. -/
def writeAt (content : Bytes) (offset : Nat) (data : Bytes) : Bytes :=
  content.take offset ++ List.replicate (offset - content.length) 0 ++ data
    ++ content.drop (offset + data.length)

/-- The bytes in runs of at most `size`, which is positive. -/
def runs (size : Nat) (h : 0 < size) (b : Bytes) : List Bytes :=
  if b = [] then [] else b.take size :: runs size h (b.drop size)
termination_by b.length
decreasing_by
  have : b.length ≠ 0 := by simpa using ‹b ≠ []›
  simp only [List.length_drop]
  omega

theorem flatten_runs (size : Nat) (h : 0 < size) (b : Bytes) : (runs size h b).flatten = b := by
  fun_induction runs size h b with
  | case1 => rfl
  | case2 b hb ih => rw [List.flatten_cons, ih, List.take_append_drop]

end Bytes
end ArtifactCache
