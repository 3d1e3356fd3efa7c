import ArtifactCache.Files
import ArtifactCache.Proofs.Ways
import Mathlib.Algebra.GroupWithZero.Nat
import Mathlib.Data.List.Induction

/-!
The places of resources. Below the root a place goes down name by name, along
the trail of its resource, and two resources are at one place exactly when
their trails are equal.
-/
namespace ArtifactCache

/-! ## The name of a location's directory -/

namespace Location.DirectoryName

theorem hexDigit_ne {n : Nat} (small : n < 16) : hexDigit n ≠ '/' ∧ hexDigit n ≠ '.' := by
  have each : ∀ n < 16, hexDigit n ≠ '/' ∧ hexDigit n ≠ '.' := by decide
  exact each n small

theorem notMem_escape (c : Char) : '/' ∉ escape c ∧ '.' ∉ escape c := by
  have byte (b : UInt8) : '/' ∉ escapeByte b ∧ '.' ∉ escapeByte b := by
    have high := hexDigit_ne (n := b.toNat / 16) (by have := b.toNat_lt; omega)
    have low := hexDigit_ne (n := b.toNat % 16) (by omega)
    simp [escapeByte, high.1.symm, high.2.symm, low.1.symm, low.2.symm]
  simp only [escape, List.mem_flatMap, not_exists, not_and]
  exact ⟨fun b _ => (byte b).1, fun b _ => (byte b).2⟩

theorem slash_notMem_encodeChar (first : Bool) (c : Char) : '/' ∉ encodeChar first c := by
  unfold encodeChar
  split
  · decide
  · next other =>
    repeat' split
    · decide
    · decide
    · simpa [eq_comm] using other
    · exact (notMem_escape c).1

theorem dot_notMem_encodeChar (c : Char) : '.' ∉ encodeChar true c := by
  unfold encodeChar
  repeat' split
  · decide
  · decide
  · next named => exact absurd named.2 (by decide)
  · next letter =>
    rintro dot
    obtain rfl := List.mem_singleton.1 dot
    exact absurd letter (by decide)
  · exact (notMem_escape c).2

theorem encodeChar_ne_nil (first : Bool) (c : Char) : encodeChar first c ≠ [] := by
  have bytes : (String.utf8EncodeChar c) ≠ [] := by
    rw [ne_eq, ← List.length_eq_zero_iff, String.length_utf8EncodeChar]
    exact Nat.ne_of_gt c.utf8Size_pos
  unfold encodeChar
  repeat' split
  · simp
  · simp
  · simp
  · simp
  · obtain ⟨b, rest, eq⟩ := List.exists_cons_of_ne_nil bytes
    simp [escape, eq, escapeByte]

end Location.DirectoryName

namespace Location

open DirectoryName in
theorem slash_notMem_directoryName (uri : String) : '/' ∉ (directoryName uri).toList := by
  rw [directoryName, String.toList_ofList]
  cases uri.toList with
  | nil => simp [encodeChars]
  | cons c rest =>
    simp only [encodeChars, List.mem_append, List.mem_flatMap, not_or, not_exists, not_and]
    exact ⟨slash_notMem_encodeChar true c, fun c' _ => slash_notMem_encodeChar false c'⟩

open DirectoryName in
/-- A directory name does not begin with a dot, so it leads neither nowhere nor up. -/
theorem head?_directoryName_ne (uri : String) : (directoryName uri).toList.head? ≠ some '.' := by
  rw [directoryName, String.toList_ofList]
  cases uri.toList with
  | nil => simp [encodeChars]
  | cons c rest =>
    obtain ⟨c', more, eq⟩ := List.exists_cons_of_ne_nil (encodeChar_ne_nil true c)
    have other := dot_notMem_encodeChar c
    rw [eq] at other
    simp only [encodeChars, eq, List.cons_append, List.head?_cons, ne_eq, Option.some.injEq]
    exact fun dot => other (dot ▸ List.mem_cons_self)

end Location

/-! ## Trails -/

/-- The name leads down from a directory. -/
def PathText.IsDown (name : PathText) : Prop := name ≠ .text "." ∧ name ≠ .text ".."

/-- The names from the root of a store on disk down to the resource. -/
def Resource.trail (r : Resource) : List PathText :=
  ((Location.directoryName r.location.uri :: r.path.segments).filter (· ≠ "")).map .text

theorem Resource.isDown_of_mem_trail {r : Resource} {name : PathText} (mem : name ∈ r.trail) :
    name.IsDown := by
  obtain ⟨s, kept, rfl⟩ := List.mem_map.1 mem
  obtain rfl | segment := List.mem_cons.1 (List.mem_filter.1 kept).1
  · have head := Location.head?_directoryName_ne r.location.uri
    constructor
    · intro eq
      simp [PathText.text.inj eq] at head
    · intro eq
      simp [PathText.text.inj eq] at head
  · obtain ⟨_, dot, dots, _⟩ := r.path.named s segment
    exact ⟨fun eq => dot (PathText.text.inj eq), fun eq => dots (PathText.text.inj eq)⟩

theorem Resource.isDown_of_mem_dropLast {r : Resource} {name : PathText}
    (mem : name ∈ r.trail.dropLast) : name.IsDown :=
  isDown_of_mem_trail (List.dropLast_subset _ mem)

/-- A way that goes on with names that lead down leads up no more. -/
theorem PathText.forward_append {down names : List PathText}
    (forward : ∀ name ∈ down, name ≠ .text "..") (leads : ∀ name ∈ names, name.IsDown) :
    ∀ name ∈ down ++ names, name ≠ .text ".." := by
  intro name mem
  obtain mem | mem := List.mem_append.1 mem
  · exact forward name mem
  · exact (leads name mem).2

/-! ## The text of a path -/

namespace PathText

/-- A path with names behind it. -/
def pushNames (path : String) (names : List String) : String := names.foldl pushName path

theorem foldl_push (path : String) (names : List String) :
    names.foldl push (.text path) = .text (pushNames path names) := by
  induction names generalizing path with
  | nil => rfl
  | cons name rest ih => exact ih (pushName path name)

theorem toList_pushName (path name : String) :
    ∃ between, (between = [] ∨ between = ['/']) ∧
      (pushName path name).toList = path.toList ++ between ++ name.toList := by
  unfold pushName
  split
  · exact ⟨[], .inl rfl, by simp⟩
  · exact ⟨['/'], .inr rfl, by simp⟩

theorem notMem_pushNames {mark : Char} (other : mark ≠ '/') {path : String}
    (path_free : mark ∉ path.toList) {names : List String}
    (names_free : ∀ name ∈ names, mark ∉ name.toList) :
    mark ∉ (pushNames path names).toList := by
  induction names generalizing path with
  | nil => exact path_free
  | cons name rest ih =>
    refine ih ?_ fun n mem => names_free n (List.mem_cons_of_mem _ mem)
    obtain ⟨between, sep, eq⟩ := toList_pushName path name
    have name_free := names_free name List.mem_cons_self
    rw [eq]
    obtain rfl | rfl := sep <;> simp [path_free, name_free, other]

theorem pushNames_concat (path : String) (names : List String) (last : String) :
    pushNames path (names ++ [last]) = pushName (pushNames path names) last := by
  simp [pushNames]

/-- A last name that is not empty ends the path. -/
theorem getLast?_pushNames (path : String) (names : List String) {last : String}
    (named : last ≠ "") :
    (pushNames path (names ++ [last])).toList.getLast? = last.toList.getLast? := by
  obtain ⟨between, _, eq⟩ := toList_pushName (pushNames path names) last
  rw [pushNames_concat, eq, List.getLast?_append, Option.or_of_isSome (by simpa using named)]

theorem pushNames_prefix_append (path : String) (names more : List String) :
    (pushNames path names).toList <+: (pushNames path (names ++ more)).toList := by
  induction more using List.reverseRecOn with
  | nil => simp
  | append_singleton more last ih =>
    obtain ⟨between, _, eq⟩ := toList_pushName (pushNames path (names ++ more)) last
    rw [← List.append_assoc, pushNames_concat, eq, List.append_assoc]
    exact ih.trans (List.prefix_append _ _)

/-- A path has all the bytes of its names. -/
theorem size_le_pushNames (path : String) (names : List String) :
    path.utf8ByteSize + (names.map String.utf8ByteSize).sum ≤
      (pushNames path names).utf8ByteSize := by
  induction names generalizing path with
  | nil => simp [pushNames]
  | cons name rest ih =>
    have pushed : path.utf8ByteSize + name.utf8ByteSize ≤ (pushName path name).utf8ByteSize := by
      unfold pushName
      split <;> simp only [String.utf8ByteSize_append] <;> omega
    have further := ih (pushName path name)
    change _ ≤ (pushNames (pushName path name) rest).utf8ByteSize
    rw [List.map_cons, List.sum_cons]
    omega

/-- An empty name leaves at most a slash behind, which the next name needs anyway. -/
theorem pushName_empty_left (path : String) {name : String} :
    pushName (pushName path "") name = pushName path name := by
  by_cases closed : path = "" ∨ path.toList.getLast? = some '/'
  · have same : pushName path "" = path := by simp [pushName, closed]
    rw [same]
  · have slash : pushName path "" = path ++ "/" := by simp [pushName, closed]
    rw [slash]
    simp [pushName, closed]

end PathText

/-- The last name on the way to a resource that is not at the root of the store. -/
theorem Resource.exists_last {r : Resource} (below : r.trail ≠ []) :
    ∃ names last, Location.directoryName r.location.uri :: r.path.segments = names ++ [last] ∧
      last ≠ "" ∧ '/' ∉ last.toList := by
  obtain none_left | ⟨init, last, segments⟩ := List.eq_nil_or_concat r.path.segments
  · have named : Location.directoryName r.location.uri ≠ "" := by
      intro empty
      exact below (by simp [trail, empty, none_left])
    exact ⟨[], _, by rw [none_left]; rfl, named, Location.slash_notMem_directoryName _⟩
  · have segment := r.path.named last (by simp [segments])
    exact ⟨Location.directoryName r.location.uri :: init, last, by simp [segments], segment.1,
      segment.2.2.2⟩

namespace Files
variable {f : Files} {r q : Resource}

theorem steps_placeOf (f : Files) (r : Resource) :
    (f.placeOf r).steps = Place.stepsOf f.root ++ r.trail := rfl

theorem path_placeOf (f : Files) (r : Resource) :
    (f.placeOf r).path = .text (PathText.pushNames f.root
      (Location.directoryName r.location.uri :: r.path.segments)) :=
  PathText.foldl_push _ _

/-- Only the path of the root itself may end in a slash, or be empty. -/
theorem getLast?_path_placeOf (below : r.trail ≠ []) :
    ∃ text c, (f.placeOf r).path = .text text ∧ text.toList.getLast? = some c ∧ c ≠ '/' := by
  obtain ⟨names, last, eq, named, plain⟩ := r.exists_last below
  have some_char : last.toList ≠ [] := by simpa using named
  refine ⟨_, last.toList.getLast some_char, path_placeOf f r, ?_, fun slash => ?_⟩
  · rw [eq, PathText.getLast?_pushNames _ _ named, List.getLast?_eq_some_getLast some_char]
  · exact plain (slash ▸ List.getLast_mem some_char)

theorem wantsDirectory_placeOf (below : r.trail ≠ []) :
    (f.placeOf r).wantsDirectory = false := by
  obtain ⟨text, c, path, ends, plain⟩ := getLast?_path_placeOf (f := f) below
  simp [Place.wantsDirectory, path, PathText.endsInSlash, ends, plain]

theorem size_path_placeOf (below : r.trail ≠ []) : (f.placeOf r).path.size ≠ 0 := by
  obtain ⟨text, c, path, ends, _⟩ := getLast?_path_placeOf (f := f) below
  rw [path]
  intro empty
  obtain rfl : text = "" := by simpa [PathText.size] using empty
  simp at ends

/-- The path of the root itself ends in a slash, or is empty. -/
theorem trail_ne_nil_of_plain (accepted : (f.placeOf r).IsAccepted)
    (plain : (f.placeOf r).wantsDirectory = false) : r.trail ≠ [] := by
  intro root
  have empty : ∀ name ∈ Location.directoryName r.location.uri :: r.path.segments, name = "" := by
    simpa [Resource.trail] using root
  have only : Location.directoryName r.location.uri :: r.path.segments = [""] := by
    cases segments : r.path.segments with
    | nil => simpa [segments] using empty
    | cons s rest =>
      have mem : s ∈ r.path.segments := by simp [segments]
      exact absurd (empty s (List.mem_cons_of_mem _ mem)) (r.path.named s mem).1
  -- So the path is the root with a slash behind it, unless it is empty.
  by_cases closed : f.root = "" ∨ f.root.toList.getLast? = some '/'
  · have same : (f.placeOf r).path = .text f.root := by
      simp [path_placeOf, only, PathText.pushNames, PathText.pushName, closed]
    obtain none_given | slash := closed
    · exact accepted.notEmpty (by simp [same, none_given, PathText.size])
    · simp [Place.wantsDirectory, same, PathText.endsInSlash, slash] at plain
  · have slash : (f.placeOf r).path = .text (f.root ++ "/") := by
      simp [path_placeOf, only, PathText.pushNames, PathText.pushName, closed]
    simp [Place.wantsDirectory, slash, PathText.endsInSlash] at plain

/-- At the root of the store there is no file. -/
theorem trail_ne_nil_of_isFile {d : Disk} (file : d.isFile (f.placeOf r) = true) :
    r.trail ≠ [] := by
  obtain ⟨n, stat⟩ := Disk.isFile_iff.1 file
  obtain ⟨path, found, _, plain⟩ := Disk.stat_eq_file_iff.1 stat
  exact trail_ne_nil_of_plain (Disk.locate_eq_ok_iff.1 found).1 plain

end Files
end ArtifactCache
