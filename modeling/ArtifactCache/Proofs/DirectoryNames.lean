import ArtifactCache.Proofs.FileStore
import ArtifactCache.Uri.Percent

/-!
The URI of a location can be read back from the name of its directory, so
locations with different URIs have different directories
(`directoryName_injective`). The empty URI has no directory of its own: its
resources are in the root, among the directories of the other locations. Only
there can two resources be at one place (`Files.apart_of_named`).
-/
namespace ArtifactCache

namespace Location.DirectoryName

/-- The mark that stands for a slash or a colon, as what it stands for. -/
def restore (c : Char) : Char := if c = '-' then '/' else if c = '_' then ':' else c

/-- The bytes of the URI that a name was made from. -/
def readBack (name : List Char) : Bytes := Uri.percentDecode (name.map restore)

theorem restore_hexDigit {n : Nat} (small : n < 16) :
    restore (hexDigit n) = hexDigit n ∧ Text.hexValue? (hexDigit n) = some n := by
  have each : ∀ n < 16,
      restore (hexDigit n) = hexDigit n ∧ Text.hexValue? (hexDigit n) = some n := by decide
  exact each n small

theorem readBack_cons {c : Char} (plain : restore c ≠ '%') (rest : List Char) :
    readBack (c :: rest) = String.utf8EncodeChar (restore c) ++ readBack rest := by
  unfold readBack
  rw [List.map_cons, Uri.percentDecode]
  intro high low rest' percent
  exact absurd percent plain

theorem readBack_escapeByte (b : UInt8) (rest : List Char) :
    readBack (escapeByte b ++ rest) = b :: readBack rest := by
  have percent : restore '%' = '%' := by decide
  have high := restore_hexDigit (n := b.toNat / 16) (by have := b.toNat_lt; omega)
  have low := restore_hexDigit (n := b.toNat % 16) (by omega)
  have whole : 16 * (b.toNat / 16) + b.toNat % 16 = b.toNat := Nat.div_add_mod _ _
  simp [readBack, escapeByte, Uri.percentDecode, percent, high, low, whole]

theorem readBack_escape (c : Char) (rest : List Char) :
    readBack (escape c ++ rest) = String.utf8EncodeChar c ++ readBack rest := by
  unfold escape
  induction String.utf8EncodeChar c with
  | nil => rfl
  | cons b bytes ih =>
    rw [List.flatMap_cons, List.append_assoc, readBack_escapeByte, ih, List.cons_append]

/-- A letter or digit is none of the marks that a name is written with. -/
theorem ne_mark_of_isAlphanum {c : Char} (letter : c.isAlphanum = true) :
    c ≠ '-' ∧ c ≠ '_' ∧ c ≠ '%' := by
  refine ⟨?_, ?_, ?_⟩ <;>
  · rintro rfl
    exact absurd letter (by decide)

theorem readBack_encodeChar (first : Bool) (c : Char) (rest : List Char) :
    readBack (encodeChar first c ++ rest) = String.utf8EncodeChar c ++ readBack rest := by
  unfold encodeChar
  split
  · next slash =>
    subst slash
    exact readBack_cons (c := '-') (by decide) rest
  split
  · next colon =>
    subst colon
    exact readBack_cons (c := '_') (by decide) rest
  split
  · next dot =>
    rw [dot.1]
    exact readBack_cons (c := '.') (by decide) rest
  split
  · next letter =>
    obtain ⟨dash, low, percent⟩ := ne_mark_of_isAlphanum letter
    have same : restore c = c := by simp [restore, dash, low]
    have plain : restore c ≠ '%' := same.symm ▸ percent
    exact (readBack_cons plain rest).trans (by rw [same])
  · exact readBack_escape c rest

theorem readBack_encodeChars (uri : List Char) :
    readBack (encodeChars uri) = uri.flatMap String.utf8EncodeChar := by
  have others (rest : List Char) :
      readBack (rest.flatMap (encodeChar false)) = rest.flatMap String.utf8EncodeChar := by
    induction rest with
    | nil => rfl
    | cons c rest ih => rw [List.flatMap_cons, readBack_encodeChar, ih, List.flatMap_cons]
  cases uri with
  | nil => rfl
  | cons c rest => rw [encodeChars, readBack_encodeChar, others, List.flatMap_cons]

end Location.DirectoryName

namespace Location

open DirectoryName in
/-- Two URIs never have one directory name. -/
theorem directoryName_injective : Function.Injective directoryName := by
  intro uri uri' same
  have chars : encodeChars uri.toList = encodeChars uri'.toList := String.ofList_injective same
  have bytes := congrArg readBack chars
  rw [readBack_encodeChars, readBack_encodeChars] at bytes
  have encoded : uri.toList.utf8Encode = uri'.toList.utf8Encode :=
    congrArg List.toByteArray bytes
  rw [String.utf8Encode_toList, String.utf8Encode_toList] at encoded
  exact String.toByteArray_inj.1 encoded

theorem directoryName_ne_empty {uri : String} (named : uri ≠ "") : directoryName uri ≠ "" :=
  fun empty => named (directoryName_injective (empty.trans rfl))

end Location

namespace Resource

/-- Below a directory with a name, the trail has all the names. -/
theorem trail_of_named {r : Resource} (named : r.location.uri ≠ "") :
    r.trail = (Location.directoryName r.location.uri :: r.path.segments).map .text := by
  rw [trail, List.filter_eq_self.2]
  intro name mem
  obtain rfl | segment := List.mem_cons.1 mem
  · simpa using Location.directoryName_ne_empty named
  · simpa using (r.path.named name segment).1

/-- Only with an empty URI can two resources have one trail. -/
theorem same_of_trail_eq {r q : Resource} (named : r.location.uri ≠ "")
    (named' : q.location.uri ≠ "") (trails : r.trail = q.trail) : r.same q = true := by
  rw [trail_of_named named, trail_of_named named',
    List.map_inj_right fun _ _ => PathText.text.inj] at trails
  obtain ⟨directory, segments⟩ := List.cons.inj trails
  have uri := Location.directoryName_injective directory
  have path : r.path = q.path := Path.eq_iff.2 segments
  simp [Resource.same, address, uri, path]

end Resource

theorem Files.apart_of_named {f : Files} {r q : Resource} (named : r.location.uri ≠ "")
    (named' : q.location.uri ≠ "") (other : r.same q = false) :
    (f.placeOf r).same (f.placeOf q) = false := by
  refine Bool.not_eq_true _ |>.mp fun same => ?_
  rw [Resource.same_of_trail_eq named named' (same_iff.1 same)] at other
  cases other

end ArtifactCache
