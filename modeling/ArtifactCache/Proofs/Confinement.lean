import ArtifactCache.Endpoint.Directories
import ArtifactCache.Proofs.Climbing
import ArtifactCache.Proofs.DirectoryNames

/-!
# Where paths can lead

A place is a path that somebody gave and names below it. Read as the operating system reads
it, byte by byte, its path has the names of the one given and then those below, and none of
these leads up or nowhere.

* `PathText.namesIn`: the names on a path; `Place.namesIn_path`: those of a place;
* `Place.StaysIn`: a place never leaves a directory;
* `Resource.trail_eq_iff`, `Resource.trail_prefix_iff`: when the places of two resources meet,
  and when one is beneath the other;
* `Files.places_meet_only_unnamed`: resources are apart and inside, but for those of the
  location without a name.
-/
namespace ArtifactCache

/-! ## Text in bytes -/

theorem Bytes.toList_byteArray (b : ByteArray) : b.toList = b.data.toList := by
  have loop (i : Nat) (seen : Bytes) :
      ByteArray.toList.loop b i seen = seen.reverse ++ b.data.toList.drop i := by
    fun_induction ByteArray.toList.loop b i seen with
    | case1 i seen more ih =>
      have next : b.data.toList.drop i = b.get! i :: b.data.toList.drop (i + 1) := by
        have below : i < b.data.toList.length := more
        rw [List.drop_eq_getElem_cons below, ByteArray.get!, Array.getElem_toList,
          getElem!_pos b.data i more]
      rw [ih, next]
      simp
    | case2 i seen done =>
      have nothing : b.data.toList.drop i = [] := List.drop_eq_nil_of_le (Nat.le_of_not_lt done)
      rw [nothing, List.append_nil]
  exact loop 0 []

namespace Bytes

theorem ofText_eq (s : String) : ofText s = s.toList.flatMap String.utf8EncodeChar := by
  have encoded : s.toUTF8 = s.toList.utf8Encode := String.utf8Encode_toList.symm
  rw [ofText, encoded, toList_byteArray, List.utf8Encode, List.toList_data_toByteArray]

theorem ofText_append (s t : String) : ofText (s ++ t) = ofText s ++ ofText t := by
  simp [ofText_eq]

theorem ofText_eq_nil_iff {s : String} : ofText s = [] ↔ s = "" := by
  constructor
  · intro nothing
    rw [ofText_eq, List.flatMap_eq_nil_iff] at nothing
    by_contra named
    obtain ⟨c, mem⟩ := List.exists_mem_of_ne_nil s.toList (by simpa using named)
    have size := congrArg List.length (nothing c mem)
    rw [String.length_utf8EncodeChar] at size
    exact Nat.ne_of_gt c.utf8Size_pos size
  · rintro rfl
    rw [ofText_eq]
    rfl

theorem ofText_slash : ofText "/" = [47] := by
  rw [ofText_eq]
  rfl

/-- Only the slash is written with the byte of a slash. -/
theorem slash_mem_encodeChar_iff (c : Char) : 47 ∈ String.utf8EncodeChar c ↔ c = '/' := by
  have slash : c = '/' ↔ c.val.toNat = 47 := by
    rw [← Char.val_inj, ← UInt32.toNat_inj]
    rfl
  have byte (n : Nat) : 47 = UInt8.ofNat n ↔ n % 256 = 47 := by
    rw [← UInt8.toNat_inj, UInt8.toNat_ofNat', eq_comm]
    rfl
  rw [slash, String.utf8EncodeChar]
  generalize c.val.toNat = v
  split
  · simp only [List.mem_singleton, byte]
    omega
  -- All bytes of a longer character lie above the text of one byte.
  repeat' split
  all_goals
    simp only [List.mem_cons, List.not_mem_nil, byte, or_false]
    omega

theorem slash_mem_ofText_iff {s : String} : 47 ∈ ofText s ↔ '/' ∈ s.toList := by
  simp [ofText_eq, List.mem_flatMap, slash_mem_encodeChar_iff]

end Bytes

/-! ## The names on a path -/

namespace PathText

/-- The names on a path, as the operating system reads it. -/
def namesIn (path : PathText) : List Bytes := namesOf 47 path.bytes

/-- No byte is lost, whether they are text or not. -/
theorem bytes_ofBytes (b : Bytes) : (ofBytes b).bytes = b := by
  unfold ofBytes
  cases text : b.toText? with
  | none => rfl
  | some s =>
    have utf8 : s.toUTF8 = ⟨b.toArray⟩ := by
      rw [Bytes.toText?, String.fromUTF8?] at text
      split at text
      · exact Option.some.inj text ▸ rfl
      · cases text
    change Bytes.ofText s = b
    rw [Bytes.ofText, utf8, Bytes.toList_byteArray]

/-- A name goes behind a slash, or behind a path that needs none. -/
theorem bytes_push (path : PathText) (name : String) :
    ∃ between, (path.push name).bytes = path.bytes ++ between ++ Bytes.ofText name ∧
      (between = [47] ∨ between = [] ∧ (path.bytes = [] ∨ ∃ more, path.bytes = more ++ [47])) := by
  cases path with
  | text s =>
    simp only [push, pushName]
    split
    · next closed =>
      refine ⟨[], by simp [bytes, Bytes.ofText_append], .inr ⟨rfl, ?_⟩⟩
      simp only [Bool.or_eq_true, decide_eq_true_eq] at closed
      obtain rfl | slash := closed
      · exact .inl (Bytes.ofText_eq_nil_iff.2 rfl)
      · obtain ⟨init, eq⟩ := List.getLast?_eq_some_iff.1 slash
        exact .inr ⟨init.flatMap String.utf8EncodeChar, by simp [bytes, Bytes.ofText_eq, eq]; rfl⟩
    · exact ⟨[47], by simp [bytes, Bytes.ofText_append, Bytes.ofText_slash], .inl rfl⟩
  | raw b =>
    simp only [push, pushBytes]
    split
    · next closed =>
      refine ⟨[], by simp [bytes], .inr ⟨rfl, ?_⟩⟩
      simp only [Bool.or_eq_true, decide_eq_true_eq] at closed
      exact closed.imp id List.getLast?_eq_some_iff.1
    · exact ⟨[47], by simp [bytes], .inl rfl⟩

theorem namesIn_push (path : PathText) {name : String} (plain : '/' ∉ name.toList) :
    (path.push name).namesIn =
      path.namesIn ++ if name = "" then [] else [Bytes.ofText name] := by
  have closed (path : Bytes) : namesOf 47 (path ++ [47]) = namesOf 47 path := by
    rw [namesOf_append_slash]
    simp [namesOf, Text.split, Text.cut]
  obtain ⟨between, eq, sep⟩ := path.bytes_push name
  rw [namesIn, namesIn, eq]
  split
  · next unnamed =>
    subst unnamed
    have nothing : Bytes.ofText "" = [] := Bytes.ofText_eq_nil_iff.2 rfl
    rw [nothing, List.append_nil, List.append_nil]
    obtain rfl | ⟨rfl, _⟩ := sep
    · exact closed _
    · rw [List.append_nil]
  · next named =>
    have free : 47 ∉ Bytes.ofText name := fun mem => plain (Bytes.slash_mem_ofText_iff.1 mem)
    have some_left : Bytes.ofText name ≠ [] :=
      fun nothing => named (Bytes.ofText_eq_nil_iff.1 nothing)
    obtain rfl | ⟨rfl, ends⟩ := sep
    · rw [namesOf_append_last free some_left (.inr ⟨path.bytes, rfl⟩), closed]
    · rw [List.append_nil, namesOf_append_last free some_left ends]

theorem namesIn_foldl_push (path : PathText) {names : List String}
    (plain : ∀ name ∈ names, '/' ∉ name.toList) :
    (names.foldl push path).namesIn =
      path.namesIn ++ (names.filter (· ≠ "")).map Bytes.ofText := by
  induction names generalizing path with
  | nil => simp
  | cons name rest ih =>
    rw [List.forall_mem_cons] at plain
    rw [List.foldl_cons, ih _ plain.2, namesIn_push path plain.1, List.append_assoc]
    by_cases unnamed : name = "" <;> simp [unnamed]

/-- A path begins with the one that names were put behind. -/
theorem bytes_prefix_foldl_push (path : PathText) (names : List String) :
    path.bytes <+: (names.foldl push path).bytes := by
  induction names generalizing path with
  | nil => exact List.prefix_rfl
  | cons name rest ih =>
    obtain ⟨between, eq, _⟩ := path.bytes_push name
    have start : path.bytes <+: (path.push name).bytes := by
      rw [eq, List.append_assoc]
      exact List.prefix_append _ _
    exact start.trans (ih _)

end PathText

/-! ## Staying inside -/

namespace Place

/-- The path of the place is the given one with names behind it, none of which is empty, a
dot or two, or holds a slash. -/
structure StaysIn (base : PathText) (p : Place) : Prop where
  starts : base.bytes <+: p.path.bytes
  names : ∃ names : List String, (∀ name ∈ names, IsSegment name) ∧
    p.path.namesIn = base.namesIn ++ names.map Bytes.ofText ∧
    p.steps = stepsOf base ++ names.map .text

theorem staysIn_of_segments {p : Place} (segments : ∀ name ∈ p.below, name ≠ "" → IsSegment name) :
    p.StaysIn p.base := by
  refine ⟨PathText.bytes_prefix_foldl_push p.base p.below, p.below.filter (· ≠ ""), ?_, ?_, rfl⟩
  · intro name mem
    obtain ⟨mem, named⟩ := List.mem_filter.1 mem
    exact segments name mem (of_decide_eq_true named)
  · refine PathText.namesIn_foldl_push p.base fun name mem => ?_
    by_cases named : name = ""
    · simp [named]
    · exact (segments name mem named).2.2.2

end Place

theorem Location.isSegment_directoryName {uri : String} (named : directoryName uri ≠ "") :
    IsSegment (directoryName uri) := by
  have head := head?_directoryName_ne uri
  refine ⟨named, fun dot => ?_, fun dots => ?_, slash_notMem_directoryName uri⟩
  · simp [dot] at head
  · simp [dots] at head

/-- The place of a resource below a root, which need not be text. -/
def Resource.placeUnder (root : PathText) (r : Resource) : Place :=
  { base := root, below := Location.directoryName r.location.uri :: r.path.segments }

theorem Files.placeOf_eq (f : Files) (r : Resource) : f.placeOf r = r.placeUnder f.root := rfl

theorem Resource.staysIn_placeUnder (root : PathText) (r : Resource) :
    (r.placeUnder root).StaysIn root := by
  refine Place.staysIn_of_segments (p := r.placeUnder root) fun name mem named => ?_
  obtain rfl | segment := List.mem_cons.1 mem
  · exact Location.isSegment_directoryName named
  · exact r.path.named name segment

theorem Endpoint.staysIn_placeOf? {uris : UriReader} {r : Resource} {p : Place}
    (given : placeOf? r uris = .ok (some p)) :
    ∃ uri base, uris.parse r.location.uri = .ok uri ∧ uri.scheme = "file" ∧
      uris.localPath? uri = some base ∧ base <+: p.path.bytes ∧ p.StaysIn (.ofBytes base) := by
  unfold placeOf? at given
  split at given
  · cases given
  next uri parsed =>
  split at given
  · cases given
  next is_file =>
  split at given
  · cases given
  next base at_path =>
  obtain rfl := Option.some.inj (Except.ok.inj given)
  have inside := Place.staysIn_of_segments (p := ⟨.ofBytes base, r.path.segments⟩)
    fun name mem _ => r.path.named name mem
  have starts := inside.starts
  rw [PathText.bytes_ofBytes] at starts
  exact ⟨uri, base, parsed, not_not.1 is_file, at_path, starts, inside⟩

/-! ## Staying apart -/

namespace Resource
variable {r q : Resource}

/-- The location without a name has no directory of its own. -/
theorem trail_of_unnamed (unnamed : r.location.uri = "") :
    r.trail = r.path.segments.map .text := by
  have empty : Location.directoryName "" = "" := rfl
  have kept : r.path.segments.filter (· ≠ "") = r.path.segments :=
    List.filter_eq_self.2 fun s mem => decide_eq_true (r.path.named s mem).1
  rw [trail, unnamed, empty, List.filter_cons_of_neg (by simp), kept]

/-- A resource of the location without a name may be spelled like the way to another. -/
theorem trail_eq_of_spelled (unnamed : r.location.uri = "")
    (spelled : r.path.segments = Location.directoryName q.location.uri :: q.path.segments) :
    r.trail = q.trail := by
  have segment := r.path.named (Location.directoryName q.location.uri) (by simp [spelled])
  have named : q.location.uri ≠ "" := fun empty => segment.1 (by rw [empty]; rfl)
  rw [trail_of_unnamed unnamed, trail_of_named named, spelled]

theorem trail_eq_iff : r.trail = q.trail ↔ r.same q = true ∨
    (r.location.uri = "" ∧
      r.path.segments = Location.directoryName q.location.uri :: q.path.segments) ∨
    (q.location.uri = "" ∧
      q.path.segments = Location.directoryName r.location.uri :: r.path.segments) := by
  have texts {names names' : List String} :
      names.map PathText.text = names'.map PathText.text ↔ names = names' :=
    List.map_inj_right fun _ _ => PathText.text.inj
  constructor
  · intro trails
    by_cases unnamed : r.location.uri = ""
    · by_cases unnamed' : q.location.uri = ""
      · rw [trail_of_unnamed unnamed, trail_of_unnamed unnamed'] at trails
        have path : r.path = q.path := Path.eq_iff.2 (texts.1 trails)
        exact .inl (by simp [same, address, unnamed, unnamed', path])
      · rw [trail_of_unnamed unnamed, trail_of_named unnamed'] at trails
        exact .inr (.inl ⟨unnamed, texts.1 trails⟩)
    · by_cases unnamed' : q.location.uri = ""
      · rw [trail_of_named unnamed, trail_of_unnamed unnamed'] at trails
        exact .inr (.inr ⟨unnamed', (texts.1 trails).symm⟩)
      · exact .inl (same_of_trail_eq unnamed unnamed' trails)
  · rintro (same | ⟨unnamed, spelled⟩ | ⟨unnamed, spelled⟩)
    · have address := of_decide_eq_true same
      have uri : r.location.uri = q.location.uri := congrArg Address.uri address
      have path : r.path = q.path := congrArg Address.path address
      rw [trail, trail, uri, path]
    · exact trail_eq_of_spelled unnamed spelled
    · exact (trail_eq_of_spelled unnamed spelled).symm

theorem trail_prefix_iff (apart : r.location.uri ≠ q.location.uri) : r.trail <+: q.trail ↔
    (r.location.uri = "" ∧
      r.path.segments <+: Location.directoryName q.location.uri :: q.path.segments) ∨
    (q.location.uri = "" ∧
      Location.directoryName r.location.uri :: r.path.segments <+: q.path.segments) := by
  have texts {names names' : List String} :
      names.map PathText.text <+: names'.map PathText.text ↔ names <+: names' :=
    List.prefix_map_iff_of_injective fun _ _ => PathText.text.inj
  by_cases unnamed : r.location.uri = ""
  · have named : q.location.uri ≠ "" := fun unnamed' => apart (unnamed.trans unnamed'.symm)
    rw [trail_of_unnamed unnamed, trail_of_named named, texts]
    simp [unnamed, named]
  · by_cases unnamed' : q.location.uri = ""
    · rw [trail_of_named unnamed, trail_of_unnamed unnamed', texts]
      simp [unnamed, unnamed']
    · rw [trail_of_named unnamed, trail_of_named unnamed', texts, List.cons_prefix_cons]
      have other := Location.directoryName_injective.ne apart
      simp [unnamed, unnamed', other]

end Resource

/-- The place is at the other or beneath it. -/
def Place.IsWithin (p q : Place) : Prop := p.isAbsolute = q.isAbsolute ∧ q.names <+: p.names

instance (p q : Place) : Decidable (p.IsWithin q) :=
  inferInstanceAs (Decidable (p.isAbsolute = q.isAbsolute ∧ q.names <+: p.names))

namespace Resource
variable {root : PathText} {r q : Resource}

theorem names_placeUnder (root : PathText) (r : Resource) : (r.placeUnder root).names =
    (Place.stepsOf root).filter (· ≠ .text ".") ++ r.trail := by
  have steps : (r.placeUnder root).steps = Place.stepsOf root ++ r.trail := rfl
  rw [Place.names, steps, List.filter_append]
  congr 1
  exact List.filter_eq_self.2 fun name mem => decide_eq_true (isDown_of_mem_trail mem).1

theorem same_placeUnder_iff :
    (r.placeUnder root).same (q.placeUnder root) = true ↔ r.trail = q.trail := by
  have absolute : (r.placeUnder root).isAbsolute = (q.placeUnder root).isAbsolute := rfl
  simp [Place.same, absolute, names_placeUnder]

theorem isWithin_placeUnder_iff :
    (q.placeUnder root).IsWithin (r.placeUnder root) ↔ r.trail <+: q.trail := by
  have absolute : (q.placeUnder root).isAbsolute = (r.placeUnder root).isAbsolute := rfl
  rw [Place.IsWithin, and_iff_right absolute, names_placeUnder, names_placeUnder,
    List.prefix_append_right_inj]

end Resource

/-- **Apart and inside.** Two resources are at one place exactly if one of them is in the
location without a name and spells the way to the other; only so can a place of one location
be at or beneath a place of another. Whatever the URI and whatever the text of the path, no
place leaves the root, and no place of an endpoint leaves the directory of its location. -/
theorem places_meet_only_unnamed (root : PathText) :
    (∀ f : Files, f.root = root → ∀ r, f.placeOf r = r.placeUnder root) ∧
    (∀ r q : Resource, r.same q = false →
      ((r.placeUnder root).same (q.placeUnder root) = true ↔
        (r.location.uri = "" ∧
          r.path.segments = Location.directoryName q.location.uri :: q.path.segments) ∨
        (q.location.uri = "" ∧
          q.path.segments = Location.directoryName r.location.uri :: r.path.segments))) ∧
    (∀ r q : Resource, r.location.uri ≠ q.location.uri →
      ((q.placeUnder root).IsWithin (r.placeUnder root) ↔
        (r.location.uri = "" ∧
          r.path.segments <+: Location.directoryName q.location.uri :: q.path.segments) ∨
        (q.location.uri = "" ∧
          Location.directoryName r.location.uri :: r.path.segments <+: q.path.segments))) ∧
    (∀ (l : Location) (text : String), ((Resource.ofText l text).placeUnder root).StaysIn root) ∧
    ∀ (uris : UriReader) (l : Location) (text : String) (p : Place),
      Endpoint.placeOf? (.ofText l text) uris = .ok (some p) →
      ∃ uri base, uris.parse l.uri = .ok uri ∧ uri.scheme = "file" ∧
        uris.localPath? uri = some base ∧ base <+: p.path.bytes ∧ p.StaysIn (.ofBytes base) := by
  refine ⟨fun f same r => ?_, fun r q other => ?_, fun r q apart => ?_, fun l text => ?_,
    fun uris l text p given => ?_⟩
  · rw [← same, Files.placeOf_eq]
  · rw [Resource.same_placeUnder_iff, Resource.trail_eq_iff, other]
    simp
  · exact Resource.isWithin_placeUnder_iff.trans (Resource.trail_prefix_iff apart)
  · exact Resource.staysIn_placeUnder root (.ofText l text)
  · obtain ⟨uri, base, parsed, is_file, at_path, stays⟩ := Endpoint.staysIn_placeOf? given
    exact ⟨uri, base, parsed, is_file, at_path, stays⟩

/-- Two URIs that look alike, and paths that try to lead out. -/
theorem lookalikes_stay_apart_and_inside :
    let a : Location := { name := "a", uri := "file:///srv/a-b" }
    let b : Location := { name := "b", uri := "file:///srv/a/b" }
    let f : Files := { root := "/cache" }
    (f.placeOf (.ofText a "x.pom")).same (f.placeOf (.ofText b "x.pom")) = false ∧
      ¬(f.placeOf (.ofText b "x.pom")).IsWithin (f.placeOf (.root a)) ∧
      (f.placeOf (.ofText a "/../../etc//./passwd")).StaysIn f.root ∧
      ∃ p uri base, Endpoint.placeOf? (.ofText a "../c") = .ok (some p) ∧
        p.path = .text "/srv/a-b/c" ∧ Uri.parse a.uri = .ok uri ∧ uri.localPath? = some base ∧
        p.StaysIn (.ofBytes base) := by
  intro a b f
  obtain ⟨_, meets, within, stays, endpoint⟩ := places_meet_only_unnamed f.root
  have named : a.uri ≠ "" ∧ b.uri ≠ "" := by decide
  refine ⟨Bool.eq_false_iff.2 fun same => ?_, fun beneath => ?_, stays a _, ?_⟩
  · obtain ⟨unnamed, _⟩ | ⟨unnamed, _⟩ :=
      (meets (.ofText a "x.pom") (.ofText b "x.pom") (by decide)).1 same
    · exact named.1 unnamed
    · exact named.2 unnamed
  · obtain ⟨unnamed, _⟩ | ⟨unnamed, _⟩ :=
      (within (.root a) (.ofText b "x.pom") (by decide)).1 beneath
    · exact named.1 unnamed
    · exact named.2 unnamed
  · have goes : (Endpoint.placeOf? (.ofText a "../c")).toOption.join.any
        (fun p => p.path = .text "/srv/a-b/c") = true := by decide +kernel
    cases given : Endpoint.placeOf? (.ofText a "../c") with
    | error e =>
      rw [given] at goes
      cases goes
    | ok place? =>
      rw [given] at goes
      obtain _ | p := place?
      · cases goes
      obtain ⟨uri, base, parsed, _, at_path, _, inside⟩ := endpoint {} a "../c" p given
      exact ⟨p, uri, base, rfl, of_decide_eq_true goes, parsed, at_path, inside⟩

/-- The location without a name has its files at the root, among the directories of the
others. -/
theorem unnamed_location_meets_another :
    let x : Location := { name := "x", uri := "x" }
    let all : Location := { name := "all", uri := "" }
    let f : Files := { root := "/cache" }
    (Resource.ofText x "b").same (.ofText all "x/b") = false ∧
      (f.placeOf (.ofText x "b")).path = .text "/cache/x/b" ∧
      (f.placeOf (.ofText all "x/b")).path = .text "/cache/x/b" ∧
      (f.placeOf (.root x)).IsWithin (f.placeOf (.root all)) := by
  intro x all f
  decide +kernel

end ArtifactCache
