import ArtifactCache.Proofs.FileDeals
import ArtifactCache.Proofs.MemoryDeals

/-!
The two stores agree. Both do each deal as what is seen of them tells, and what is
seen of them is the same at first, so they give the same answers in the long run
(`stores_agree`). They do not where the operating system takes no path that is as
long as that of the resource.
-/
namespace ArtifactCache

namespace Contents

/-- No fair deal fails. -/
theorem failed_notMem_answers {c : Contents} {linking : Bool} {deals : List Deal}
    (fair : c.Fair linking deals) : Answer.failed ∉ c.answers linking deals := by
  induction deals generalizing c with
  | nil => exact List.not_mem_nil
  | cons deal rest ih =>
    rw [answers, List.mem_cons, not_or]
    refine ⟨fun failed => ?_, ih fair.2⟩
    cases deal with
    | copy source target =>
      obtain ⟨bytes, content⟩ := Option.isSome_iff_exists.1 fair.1.2
      simp [Contents.deal, content] at failed
    | _ => cases failed

end Contents

namespace Numbering
variable {S R W : Type} {N : Numbering S W} {P : Resource → Prop} {s : S}

/-- Nothing is seen where nothing is. -/
theorem shows_empty (nothing : ∀ r, P r → N.number? r.address s = none) : N.Shows P s {} := by
  constructor
  · intro r mem
    rw [content?, nothing r mem]
    rfl
  · intro r q mem _
    constructor
    · rintro ⟨k, number, _⟩
      cases (nothing r mem).symm.trans number
    · intro linked
      cases linked

end Numbering

namespace Files

/-- The root stands on a disk in order, where nothing is there of the resources and
nothing is in their way. -/
structure IsBare (f : Files) (P : Resource → Prop) (d : Disk) : Prop where
  sound : f.Sound d
  numbered : d.Numbered
  stands : f.Stands d
  clear (r : Resource) : P r → ¬ f.Bars r d
  absent (r : Resource) : P r → f.backend.present r d = false

/-- An empty disk has no file to be in the way. -/
theorem not_bars_empty {f : Files} {r : Resource}
    (short : (f.placeOf r).path.size ≤ Disk.maxPath) : ¬ f.Bars r {} := by
  rintro (long | ⟨_, _, _, _, next, n, _, _, _, file⟩)
  · exact absurd short (Nat.not_le.2 long)
  · rw [Disk.node?_empty] at file
    split at file <;> cases file

/-- A file whose path is too long cannot be written. -/
theorem write_fails_of_long {f : Files} {r : Resource} (usable : f.IsUsable)
    (nameable : r.IsNameable) (long : Disk.maxPath < (f.placeOf r).path.size) (d : Disk)
    (parts : List Part) : (f.backend.deal d (.write r parts)).1 = .failed := by
  have below := trail_ne_nil_of_isNameable nameable
  have fails : ∃ e, (f.openWriter r d).1 = .error e := by
    refine fails_withParent fun d₁ _ => ?_
    have lost : d₁.locate (f.placeOf r) = .error .nameTooLong :=
      Disk.locate_of_long (hasNul_placeOf usable nameable) (size_path_placeOf below) long
    exact ⟨fail .openOutput (f.placeOf r) .nameTooLong,
      by simp [Disk.create, Disk.openForWriting, wantsDirectory_placeOf below, lost]⟩
  obtain ⟨e, failed⟩ := fails
  rcases outcome : f.openWriter r d with ⟨_ | w, d'⟩
  · simp [Backend.deal, backend, outcome]
  · rw [outcome] at failed
    cases failed

end Files

/-- **The two stores agree.** Deals with resources of which none is above another and
that have proper names, on a disk that is bare of them, are answered as those in a
store in memory. If they are fair, which they are in one store if they are in the
other, none of them fails. -/
theorem stores_agree (f : Files) (d : Disk) (P : Resource → Prop) (usable : f.IsUsable)
    (level : Resource.AreLevel P) (nameable : ∀ r, P r → r.IsNameable) (bare : f.IsBare P d)
    (deals : List Deal) (among : ∀ deal ∈ deals, ∀ r ∈ deal.resources, P r) :
    let m := Memory.backend f.linking
    (f.backend.Fair f.linking d deals ↔ m.Fair f.linking .empty deals) ∧
      (m.Fair f.linking .empty deals →
        f.backend.answers d deals = m.answers .empty deals ∧
          Answer.failed ∉ m.answers .empty deals) := by
  intro m
  have admits : f.Admits P :=
    ⟨usable, level, nameable, fun r mem => Nat.not_lt.1 fun long => bare.clear r mem (.inl long)⟩
  obtain ⟨home, stands⟩ := Files.stands_iff.1 bare.stands
  have standing : f.Standing home d := ⟨bare.sound, bare.numbered, stands⟩
  have roomy := Files.Roomy.of_absent standing admits bare.clear bare.absent
  have seen_on_disk : f.numbering.Shows P d {} := by
    apply Numbering.shows_empty
    intro r mem
    apply Disk.number?_eq_none_iff.2
    refine Bool.not_eq_true _ |>.mp fun file => ?_
    obtain ⟨n, stat⟩ := Disk.isFile_iff.1 file
    have present : d.isPresent (f.placeOf r) = true := Disk.isPresent_iff.2 ⟨_, stat⟩
    cases (bare.absent r mem).symm.trans present
  have seen_in_memory : Memory.numbering.Shows P .empty {} :=
    Numbering.shows_empty fun _ _ => rfl
  have unlinked (_ : f.linking = false) : Contents.IsUnlinked {} := fun _ _ _ => rfl
  obtain ⟨fair_on_disk, on_disk⟩ := (Files.simulates admits home).answers_eq
    Files.isFile_eq_content? roomy seen_on_disk unlinked among
  obtain ⟨fair_in_memory, in_memory⟩ := (Memory.simulates level f.linking).answers_eq
    Memory.isFile_eq_content? (Memory.keeping_empty P) seen_in_memory unlinked among
  refine ⟨fair_on_disk.trans fair_in_memory.symm, fun fair => ?_⟩
  have fair := fair_in_memory.1 fair
  rw [on_disk fair, in_memory fair]
  exact ⟨rfl, Contents.failed_notMem_answers fair⟩

/-- A file that is written through one of two names, and read through the other. -/
theorem stores_agree_on_aliases :
    let f : Files := { root := "/cache", linking := true }
    let l : Location := { name := "local", uri := "file:///srv/local" }
    let a : Resource := .ofText l "a"
    let b : Resource := .ofText l "d/b"
    let deals : List Deal := [.write a [.write [120]], .createAlias a b,
      .write b [.write [121], .flush, .write [122]], .read a, .delete a, .isFile a, .length b]
    f.backend.answers {} deals =
        [.done, .done, .done, .content (some [121, 122]), .truth true, .truth false, .length 2] ∧
      (Memory.backend true).answers .empty deals =
        [.done, .done, .done, .content (some [121, 122]), .truth true, .truth false, .length 2] := by
  intro f l a b deals
  have in_memory : (Memory.backend true).answers .empty deals =
      [.done, .done, .done, .content (some [121, 122]), .truth true, .truth false, .length 2] := by
    decide +kernel
  have level : Resource.AreLevel (· ∈ [a, b]) := by
    have apart : ∀ r ∈ [a, b], ∀ q ∈ [a, b], r.address.isAbove q.address = false := by decide
    exact ⟨by decide, fun r q mem mem' => apart r mem q mem'⟩
  have bare : f.IsBare (· ∈ [a, b]) {} := by
    have short : ∀ r ∈ [a, b], (f.placeOf r).path.size ≤ Disk.maxPath := by decide
    exact ⟨⟨Disk.closed_empty, by decide⟩, Disk.numbered_empty,
      Files.stands_of_forward (by decide) (by decide),
      fun r mem => Files.not_bars_empty (short r mem), by decide⟩
  have among : ∀ deal ∈ deals, ∀ r ∈ deal.resources, r ∈ [a, b] := by decide
  have fair : (Memory.backend true).Fair true .empty deals := by
    simp [deals, Backend.Fair, Deal.IsFair]
  obtain ⟨_, agree⟩ := stores_agree f {} (· ∈ [a, b]) ⟨by decide, by decide⟩ level (by decide) bare
    deals among
  exact ⟨(agree fair).1.trans in_memory, in_memory⟩

/-- The operating system takes no path that has more bytes than it allows, however
short the names on it are; in memory there is no such bound. -/
theorem stores_disagree_on_long_path :
    let f : Files := { root := "/cache" }
    let l : Location := { name := "local", uri := "file:///srv/local" }
    let name := String.ofList (List.replicate 250 'a')
    ∃ r : Resource, r.location = l ∧ r.path.segments = List.replicate 20 name ∧
      Resource.AreLevel (· = r) ∧ r.IsNameable ∧
      f.backend.answers {} [.write r []] = [.failed] ∧
      (Memory.backend false).answers .empty [.write r []] = [.done] := by
  intro f l name
  have size : name.utf8ByteSize = 250 := by decide +kernel
  have named : IsFileName name := by
    have differs {s : String} (other : s.utf8ByteSize ≠ 250) : name ≠ s :=
      fun same => other (same ▸ size)
    have lacks {c : Char} (other : c ≠ 'a') : c ∉ name.toList := by
      rw [String.toList_ofList, List.mem_replicate]
      exact fun mem => other mem.2
    refine ⟨⟨?_, ?_, ?_, lacks (by decide)⟩, lacks (by decide), ?_⟩
    · exact differs (by decide)
    · exact differs (by decide)
    · exact differs (by decide)
    · rw [size]
      decide
  let r : Resource :=
    ⟨l, ⟨List.replicate 20 name, fun s mem => List.eq_of_mem_replicate mem ▸ named.1⟩⟩
  have nameable : r.IsNameable := by
    intro s mem
    obtain rfl | mem := List.mem_cons.1 mem
    · change IsFileName (Location.directoryName l.uri)
      decide
    · exact List.eq_of_mem_replicate mem ▸ named
  have level : Resource.AreLevel (· = r) := by
    constructor
    · rintro _ rfl
      rfl
    · rintro _ _ rfl rfl
      simp [Address.isAbove, Path.isAbove]
  have long : Disk.maxPath < (f.placeOf r).path.size := by
    have names : (List.replicate 20 250).sum = 5000 := by decide
    have all := PathText.size_le_pushNames f.root
      (Location.directoryName l.uri :: List.replicate 20 name)
    rw [List.map_cons, List.sum_cons, List.map_replicate, size, names] at all
    rw [Files.path_placeOf]
    change 4095 < (PathText.pushNames f.root
      (Location.directoryName l.uri :: List.replicate 20 name)).utf8ByteSize
    omega
  refine ⟨r, rfl, rfl, level, nameable, ?_, ?_⟩
  · rw [Backend.answers, Files.write_fails_of_long ⟨by decide, by decide⟩ nameable long]
    rfl
  · have seen : Memory.numbering.Shows (· = r) .empty {} := Numbering.shows_empty fun _ _ => rfl
    have written := Memory.does_write (Memory.keeping_empty _) seen level false rfl []
    rw [Backend.answers, written.answer]
    rfl

end ArtifactCache
