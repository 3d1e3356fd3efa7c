import ArtifactCache.Proofs.Confinement

/-!
# Reading directory names back

The URI of a location can be decoded from the name of its directory, and from no other name
(`Location.uriOf?_eq_some_iff`). The name is written in few characters, the same on every file
system: `DirectoryName.IsWritten` is its grammar.
-/
namespace ArtifactCache

/-- Text that is written in UTF-8 is read as it was. -/
theorem Bytes.toText?_ofText (s : String) : toText? (ofText s) = some s := by
  have bytes : (⟨(ofText s).toArray⟩ : ByteArray) = s.toUTF8 := by
    rw [ofText, toList_byteArray, Array.toArray_toList]
  rw [toText?, bytes, String.fromUTF8?, String.toUTF8_eq_toByteArray, dif_pos s.isValidUTF8]
  rfl

namespace Location

/-- The URI that a directory is named for, if there is one. -/
def uriOf? (name : String) : Option String :=
  (Bytes.toText? (DirectoryName.readBack name.toList)).filter (directoryName · = name)

namespace DirectoryName

def hexDigits : List Char := "0123456789ABCDEF".toList

/-- Letters and digits of ASCII, dots, dashes and underscores stand alone; a `%` has two
hexadecimal digits behind it. -/
inductive IsWritten : List Char → Prop
  | nil : IsWritten []
  | plain {c : Char} {rest : List Char} :
      c.isAlphanum = true ∨ c = '.' ∨ c = '-' ∨ c = '_' → IsWritten rest → IsWritten (c :: rest)
  | byte {high low : Char} {rest : List Char} :
      high ∈ hexDigits → low ∈ hexDigits → IsWritten rest → IsWritten ('%' :: high :: low :: rest)

theorem hexDigit_mem {n : Nat} (small : n < 16) : hexDigit n ∈ hexDigits := by
  have each : ∀ n < 16, hexDigit n ∈ hexDigits := by decide
  exact each n small

namespace IsWritten

theorem append {name more : List Char} (written : IsWritten name) (written' : IsWritten more) :
    IsWritten (name ++ more) := by
  induction written with
  | nil => exact written'
  | plain allowed _ ih => exact .plain allowed ih
  | byte high low _ ih => exact .byte high low ih

theorem flatMap {α : Type} {write : α → List Char} (each : ∀ a, IsWritten (write a))
    (items : List α) : IsWritten (items.flatMap write) := by
  induction items with
  | nil => exact .nil
  | cons a rest ih =>
    rw [List.flatMap_cons]
    exact (each a).append ih

end IsWritten

theorem isWritten_escapeByte (b : UInt8) : IsWritten (escapeByte b) :=
  .byte (hexDigit_mem (by have := b.toNat_lt; omega)) (hexDigit_mem (by omega)) .nil

theorem isWritten_encodeChar (first : Bool) (c : Char) : IsWritten (encodeChar first c) := by
  unfold encodeChar
  split
  · exact .plain (by simp) .nil
  split
  · exact .plain (by simp) .nil
  split
  · exact .plain (by simp) .nil
  split
  · next letter => exact .plain (.inl letter) .nil
  · exact .flatMap isWritten_escapeByte _

theorem isWritten_encodeChars (uri : List Char) : IsWritten (encodeChars uri) := by
  cases uri with
  | nil => exact .nil
  | cons c rest =>
    exact (isWritten_encodeChar true c).append (.flatMap (isWritten_encodeChar false) rest)

end DirectoryName

theorem uriOf?_directoryName (uri : String) : uriOf? (directoryName uri) = some uri := by
  have bytes : DirectoryName.readBack (directoryName uri).toList = Bytes.ofText uri := by
    rw [directoryName, String.toList_ofList, DirectoryName.readBack_encodeChars, Bytes.ofText_eq]
  rw [uriOf?, bytes, Bytes.toText?_ofText]
  simp

/-- Names that are made from no URI are not read as one. -/
theorem uriOf?_eq_some_iff {name uri : String} :
    uriOf? name = some uri ↔ directoryName uri = name := by
  constructor
  · intro read
    exact of_decide_eq_true (Option.filter_eq_some_iff.1 read).2
  · rintro rfl
    exact uriOf?_directoryName uri

/-- **The name of a directory can be undone.** The URI is read back from the name of its
directory, and from no other, so no two URIs share one. The name is written in letters, digits,
dots, dashes, underscores and escaped bytes, and does not begin with a dot. -/
theorem directoryName_can_be_undone (uri : String) :
    uriOf? (directoryName uri) = some uri ∧
    (∀ name, uriOf? name = some uri ↔ directoryName uri = name) ∧
    (∀ other, directoryName other = directoryName uri ↔ other = uri) ∧
    DirectoryName.IsWritten (directoryName uri).toList ∧
    (directoryName uri).toList.head? ≠ some '.' := by
  refine ⟨uriOf?_directoryName uri, fun name => uriOf?_eq_some_iff, fun other => ?_, ?_,
    head?_directoryName_ne uri⟩
  · exact directoryName_injective.eq_iff
  · rw [directoryName, String.toList_ofList]
    exact DirectoryName.isWritten_encodeChars uri.toList

/-- Marks that are part of the URI are escaped, and so is a dot in front. -/
example : directoryName ".a-b:é%" = "%2Ea%2Db_%C3%A9%25" := by decide

end Location
end ArtifactCache
