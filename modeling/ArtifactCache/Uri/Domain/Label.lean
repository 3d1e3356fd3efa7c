import ArtifactCache.Text.Composition
import ArtifactCache.Text.Direction
import ArtifactCache.Text.Joining
import ArtifactCache.Uri.Domain.Mapping
import ArtifactCache.Uri.Punycode

/-!
Labels, the parts of a domain name between its dots. A label is read back if
it claims to be encoded; no mark may begin it, characters that join letters
need letters to join, and where text of the domain runs from right to left,
every label has to run one way.
-/
namespace ArtifactCache.Uri.Domain

def isAscii (c : Char) : Bool := c.toNat < 0x80

/-- Characters that separate the parts of a URI, controls and the space. -/
def isDenied (c : Char) : Bool :=
  c.toNat ≤ 0x20 || c.toNat = 0x7F || "%#/:<>?@[\\]^|".toList.contains c

/-- The most characters that the encoded part of a label may have. -/
def maxEncoded : Nat := 2000

/-- The most characters that a label may have that needs to be encoded. -/
def maxLabel : Nat := 1000

/-- Encoded text is what mapping leaves as it is. -/
def isMapped (text : List Char) : Bool :=
  text.all (fun c => mapChar c = some [c]) && Text.Composition.compose text = text

/-- The characters that a label stands for. -/
def readLabel? (label : List Char) : Option (List Char) :=
  match label with
  | 'x' :: 'n' :: '-' :: '-' :: code =>
    if label.all isAscii && code.getLast?.any (· ≠ '-') && code.length ≤ maxEncoded then
      (Punycode.decode? code).filter isMapped
    else none
  | _ => some label

/-! ## Joiners -/

/-- The mark that takes the vowel from the letter before it. -/
def silencerClass : Nat := 9

/-- Whether a joiner or non-joiner may stand behind `before`, the nearest
character first, and ahead of `after`. -/
def mayJoin (c : Char) (before after : List Char) : Bool :=
  before.head?.any (Text.Composition.classOf · = silencerClass) ||
    (c.toNat = 0x200C &&
      (before.dropWhile Text.Joining.isTransparent).head?.any Text.Joining.joinsAfter &&
      (after.dropWhile Text.Joining.isTransparent).head?.any Text.Joining.joinsBefore)

def joinersFit (before : List Char) : List Char → Bool
  | [] => true
  | c :: after =>
    ((c.toNat ≠ 0x200C && c.toNat ≠ 0x200D) || mayJoin c before after)
      && joinersFit (c :: before) after

/-- Whether a label may stand in a domain name, its direction apart. -/
def isLabel (label : List Char) : Bool :=
  label.all isAscii ||
    (!label.head?.any Text.isMark && joinersFit [] label && label.length ≤ maxLabel)

/-! ## Direction -/

/-- What both kinds of label may hold behind the first character. -/
def fitsBoth : List Text.Direction :=
  [.separator, .commonSeparator, .terminator, .neutral, .boundary, .mark]

/-- A label that begins with a letter from left to right holds none of the
other direction, and ends in a letter or digit. -/
def runsRight (inner : List Text.Direction) (last : Text.Direction) : Bool :=
  let ends : List Text.Direction := [.leftToRight, .europeanDigit]
  ends.contains last && inner.all fun d => ends.contains d || fitsBoth.contains d

/-- A label that begins with a letter from right to left holds none of the
other direction, ends in a letter or digit, and has digits of one kind. -/
def runsLeft (inner : List Text.Direction) (last : Text.Direction) : Bool :=
  let ends : List Text.Direction := [.rightToLeft, .arabicLetter, .europeanDigit, .arabicDigit]
  let all := last :: inner
  ends.contains last && (inner.all fun d => ends.contains d || fitsBoth.contains d) &&
    !(all.contains .europeanDigit && all.contains .arabicDigit)

/-- Whether a label runs one way. Marks at its end count for nothing. -/
def runsOneWay (label : List Char) : Bool :=
  match label.map Text.Direction.ofChar with
  | [] => true
  | first :: rest =>
    match rest.reverse.dropWhile (· = .mark) with
    | [] => first = .leftToRight || first = .rightToLeft || first = .arabicLetter
    | last :: inner =>
      if first = .leftToRight then runsRight inner last
      else (first = .rightToLeft || first = .arabicLetter) && runsLeft inner last

/-- Whether a label holds text that runs from right to left. -/
def turns (label : List Char) : Bool :=
  label.any fun c =>
    let d := Text.Direction.ofChar c
    d = .rightToLeft || d = .arabicLetter || d = .arabicDigit

end ArtifactCache.Uri.Domain
