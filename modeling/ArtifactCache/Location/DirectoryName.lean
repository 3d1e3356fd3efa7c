import ArtifactCache.Location

/-!
The name of the directory that holds a location. A slash becomes `-`, a colon
`_`; ASCII letters, digits and dots stay, except a dot in front; every other
character is written as its UTF-8 bytes, each a `%` and two hexadecimal
digits. The marks `-`, `_` and `%` are themselves written that way, so the
name can be read back.
-/
namespace ArtifactCache.Location.DirectoryName

/-- A hexadecimal digit in upper case. -/
def hexDigit (n : Nat) : Char :=
  if n < 10 then Char.ofNat (48 + n) else Char.ofNat (55 + n)

def escapeByte (b : UInt8) : List Char :=
  ['%', hexDigit (b.toNat / 16), hexDigit (b.toNat % 16)]

def escape (c : Char) : List Char := (String.utf8EncodeChar c).flatMap escapeByte

/-- How one character is written; `first` tells whether the name starts with it. -/
def encodeChar (first : Bool) (c : Char) : List Char :=
  if c = '/' then ['-']
  else if c = ':' then ['_']
  else if c = '.' ∧ first = false then ['.']
  else if c.isAlphanum then [c]
  else escape c

def encodeChars : List Char → List Char
  | [] => []
  | c :: rest => encodeChar true c ++ rest.flatMap (encodeChar false)

end DirectoryName

/-- The directory name of a URI. -/
def directoryName (uri : String) : String :=
  String.ofList (DirectoryName.encodeChars uri.toList)

end ArtifactCache.Location
