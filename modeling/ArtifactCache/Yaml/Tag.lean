import ArtifactCache.Bytes
import ArtifactCache.Uri.Percent
import ArtifactCache.Yaml.Cursor

/-!
The spelling of tags: a handle and a suffix, or the whole tag between angle
brackets.
-/
namespace ArtifactCache.Yaml.Tag

/-- The tag that says nothing. -/
def bare : Bytes := Bytes.ofText "!"

def isUriChar (c : Char) : Bool := isNameChar c || ";/?:@&=+$.%!~*'()".toList.contains c

/-- In directives and between angle brackets there may be flow indicators too. -/
def isWideUriChar (c : Char) : Bool := isUriChar c || ",[]".toList.contains c

/-- How many bytes a character has that begins with this one. -/
def byteCount? (first : UInt8) : Option Nat :=
  if first < 0x80 then some 1
  else if first &&& 0xE0 = 0xC0 then some 2
  else if first &&& 0xF0 = 0xE0 then some 3
  else if first &&& 0xF8 = 0xF0 then some 4
  else none

/-- Whether the escapes come in groups, each for the bytes of one character.
`owed` bytes of a group are still to come. -/
def escapesWell (owed : Nat) : List Char → Bool
  | '%' :: a :: b :: rest =>
    match Text.hexValue? a, Text.hexValue? b with
    | some x, some y =>
      let byte := UInt8.ofNat (16 * x + y)
      match owed with
      | more + 1 => byte &&& 0xC0 = 0x80 && escapesWell more rest
      | 0 =>
        match byteCount? byte with
        | some n => escapesWell (n - 1) rest
        | none => false
    | _, _ => false
  | '%' :: _ => false
  | _ :: rest => owed = 0 && escapesWell 0 rest
  | [] => owed = 0

/-- The bytes up to the first NUL, which ends a tag. -/
def cutAtNul (b : Bytes) : Bytes := b.takeWhile (· ≠ 0)

/-- The bytes of percent-encoded characters, if each `%` begins an escape. -/
def decode? (cs : List Char) : Option Bytes :=
  if escapesWell 0 cs then some (cutAtNul (Uri.percentDecode cs)) else none

/-- The handle at the start of a text: `!`, `!!`, or a name between two marks. -/
def handle? (cs : List Char) : Option (List Char) :=
  match cs with
  | '!' :: rest =>
    let name := rest.takeWhile isNameChar
    some ('!' :: name ++ (if rest[name.length]? = some '!' then ['!'] else []))
  | _ => none

/-- Handle, suffix and length of the tag at the start of a text. A tag that is
`!` alone, or stands between angle brackets, has no handle. -/
def read (cs : List Char) : Option (String × Bytes × Nat) :=
  match cs with
  | '!' :: '<' :: rest => do
    let uri := rest.takeWhile isWideUriChar
    if uri = [] || rest[uri.length]? ≠ some '>' then none
    some ("", ← decode? uri, uri.length + 3)
  | _ => do
    let handle ← handle? cs
    let uri := (cs.drop handle.length).takeWhile isUriChar
    let length := handle.length + uri.length
    if 1 < handle.length && handle.getLast? = some '!' then
      if uri = [] then none
      some (String.ofList handle, ← decode? uri, length)
    else
      let suffix ← decode? (handle.drop 1 ++ uri)
      if suffix = [] then some ("", bare, length)
      else some ("!", suffix, length)

end ArtifactCache.Yaml.Tag
