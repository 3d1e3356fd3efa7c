import ArtifactCache.Bytes
import ArtifactCache.Text.Digits

/-!
Percent-encoded text: `%` and two hexadecimal digits stand for a byte, every
other character for its UTF-8 bytes.
-/
namespace ArtifactCache.Uri

def percentDecode : List Char → Bytes
  | [] => []
  | '%' :: a :: b :: rest =>
    match Text.hexValue? a, Text.hexValue? b with
    | some x, some y => UInt8.ofNat (16 * x + y) :: percentDecode rest
    | _, _ => 37 :: percentDecode (a :: b :: rest)
  | c :: rest => String.utf8EncodeChar c ++ percentDecode rest

end ArtifactCache.Uri
