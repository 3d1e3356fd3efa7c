import ArtifactCache.Proofs.DirectoryNames
import ArtifactCache.Proofs.FileNames

/-!
Linked aliases. An alias that is a link has the number of its source, and no call
but one that displaces either of them takes it from them. So they stay one file,
whoever writes to it (`aliases_stay_linked`). On disk a call displaces what is at
its place, and two resources can be at one place if one of their locations has an
empty URI (`alias_lost_to_other_spelling`).
-/
namespace ArtifactCache

/-- Both are files, with the same bytes. -/
structure Backend.ReadAlike {S R W : Type} (b : Backend S R W) (r q : Resource) (s : S) : Prop where
  first : b.isFile r s = true
  second : b.isFile q s = true
  content : ∃ bytes, b.content? r s = some bytes ∧ b.content? q s = some bytes

namespace Memory
variable {m : Memory} {r q source target : Resource}

theorem readAlike_of_linked (linking : Bool) (linked : numbering.Linked r.address q.address m) :
    (backend linking).ReadAlike r q m := by
  obtain ⟨bytes, content_r, content_q⟩ := linked.content
  obtain ⟨k, number_r, number_q⟩ := linked
  have file {a : Address} (number : numbering.number? a m = some k) : m.isFile a = true := by
    have found : m.files.get? a = some k := number
    simp [isFile, Table.contains, found]
  refine ⟨file number_r, file number_q, bytes, ?_, ?_⟩
  · rw [(serves linking).content, content_r]
  · rw [(serves linking).content, content_q]

/-- A link gives the target the number of the source. -/
theorem linked_of_createAlias (file : m.isFile source.address = true)
    (other : source.same target = false)
    (made : (m.createAlias true source target).1.1 = .ok ()) :
    numbering.Linked source.address target.address (m.createAlias true source target).2 := by
  obtain ⟨entry, found⟩ : ∃ entry, m.files.get? source.address = some entry :=
    Option.isSome_iff_exists.1 file
  have ne : target.address ≠ source.address := by
    simpa [Resource.same, eq_comm] using other
  have linked : m.createAlias true source target = m.link source target := by
    simp [createAlias, other, file]
  rw [linked] at made ⊢
  unfold link unlessBarred at made ⊢
  rw [found] at made ⊢
  dsimp only at made ⊢
  split at made
  · cases made
  · exact ⟨entry, (Table.get?_insert_of_ne _ ne _).trans found, Table.get?_insert_self _ _ _⟩

end Memory

namespace Files
variable {f : Files} {d : Disk} {home : List PathText} {r q source target : Resource}

theorem readAlike_of_linked (linked : f.numbering.Linked r.address q.address d) :
    f.backend.ReadAlike r q d := by
  obtain ⟨bytes, content_r, content_q⟩ := linked.content
  obtain ⟨k, number_r, number_q⟩ := linked
  have file {r : Resource} (number : f.numbering.number? r.address d = some k) :
      d.isFile (f.placeOf r) = true := Disk.isFile_iff.2 ⟨k, Disk.number?_eq_some_iff.1 number⟩
  refine ⟨file number_r, file number_q, bytes, ?_, ?_⟩
  · rw [f.serves.content, content_r]
  · rw [f.serves.content, content_q]

/-- A link gives the place of the target the number of the source, and touches no bytes. -/
theorem renames_of_link (standing : f.Standing home d)
    (made : (reporting .createAlias (f.placeOf target)
      (d.link (f.placeOf source) (f.placeOf target))).1 = .ok ()) :
    ∃ n, f.numbering.number? source.address d = some n ∧
      f.numbering.Renames (SamePlace · target.address) (some n) d
        (d.link (f.placeOf source) (f.placeOf target)).2 ∧
      ∀ k, (d.link (f.placeOf source) (f.placeOf target)).2.body k = d.body k := by
  obtain ⟨fault, failed⟩ | ⟨n, d', number, linked, _, bytes, renames⟩ :=
    standing_link standing source target
  · simp [failed, reporting] at made
  · rw [linked]
    exact ⟨n, number, renames, bytes⟩

/-- So does a linked alias, for which the file of the target goes. -/
theorem renames_of_createAlias (standing : f.Standing home d) (linking : f.linking = true)
    (file : d.isFile (f.placeOf source) = true) (other : source.same target = false)
    (made : (f.createAlias source target d).1.1 = .ok ()) :
    ∃ n, f.numbering.number? source.address d = some n ∧
      f.numbering.Renames (SamePlace · target.address) (some n) d
        (f.createAlias source target d).2 ∧
      ∀ k, (f.createAlias source target d).2.body k = d.body k := by
  unfold createAlias at made ⊢
  simp only [other, file, linking, Bool.not_true, Bool.or_self, Bool.false_eq_true,
    if_false] at made ⊢
  obtain ⟨d₁, standing₁, _, alike, ⟨e, stopped⟩ | went⟩ :=
    standing_withParent standing .createAlias target fun d =>
      replacing .createAlias (f.placeOf target) d fun d => (Except.ok (), d)
  · rw [stopped] at made
    cases made
  rw [went] at made ⊢
  cases there : d₁.isFile (f.placeOf target) with
  | false =>
    rw [replacing_of_not_isFile there] at made ⊢
    dsimp only at made ⊢
    rw [snd_reporting]
    obtain ⟨n, number, renames, bytes⟩ := renames_of_link standing₁ made
    exact ⟨n, (alike.number _).symm.trans number, renames.after alike.number,
      fun k => (bytes k).trans (alike.bytes k)⟩
  | true =>
    obtain ⟨path, k, found, node, plain⟩ := exists_of_isFile there
    rw [replacing_of_isFile found there] at made ⊢
    dsimp only at made ⊢
    rw [snd_reporting]
    obtain ⟨standing₂, gone⟩ := standing_removeNode standing₁ found node plain
    obtain ⟨n, number, renames, bytes⟩ := renames_of_link standing₂ made
    have apart : ¬ SamePlace source.address target.address := by
      intro same
      cases (gone.here _ same).symm.trans number
    rw [gone.elsewhere _ apart, alike.number] at number
    exact ⟨n, number, (gone.trans renames).after alike.number,
      fun k => (bytes k).trans (alike.bytes k)⟩

theorem linked_of_createAlias (standing : f.Standing home d) (linking : f.linking = true)
    (file : d.isFile (f.placeOf source) = true) (other : source.same target = false)
    (made : (f.createAlias source target d).1.1 = .ok ()) :
    f.numbering.Linked source.address target.address (f.createAlias source target d).2 := by
  obtain ⟨n, number, renames, _⟩ := renames_of_createAlias standing linking file other made
  refine ⟨n, ?_, renames.here _ rfl⟩
  by_cases same : SamePlace source.address target.address
  · exact renames.here _ same
  · exact (renames.elsewhere _ same).trans number

end Files

/-- **Linked aliases stay one file.** After any calls an alias of a file is made;
then, whatever is called, both are files with the same bytes, as long as neither
is displaced. In memory it takes a call for one of them. On disk it takes a call
for a resource at the place of either, and the root has to stand; but only a
location with an empty URI has resources at the places of others. -/
theorem aliases_stay_linked (calls later : List Call) (source target : Resource)
    (other : source.same target = false) :
    let aliasing : Call := .ask (.createAlias source target)
    (∀ m : Memory, Memory.numbering.sound m →
      let b := Memory.backend true
      let s := (Usage.after b m calls).store
      b.isFile source s = true → (b.createAlias source target s).1.1 = .ok () →
      (∀ call ∈ later, ∀ r, call.displaced? = some r →
        r.same source = false ∧ r.same target = false) →
      b.ReadAlike source target (Usage.after b m (calls ++ aliasing :: later)).store) ∧
    (∀ (f : Files) (d : Disk), f.linking = true → d.Closed → d.Numbered →
      f.Rooted d (calls ++ aliasing :: later) →
      let b := f.backend
      let s := (Usage.after b d calls).store
      b.isFile source s = true → (b.createAlias source target s).1.1 = .ok () →
      (∀ call ∈ later, ∀ r, call.displaced? = some r →
        (f.placeOf r).same (f.placeOf source) = false ∧
          (f.placeOf r).same (f.placeOf target) = false) →
      b.ReadAlike source target (Usage.after b d (calls ++ aliasing :: later)).store) ∧
    ∀ (f : Files) (r q : Resource), r.location.uri ≠ "" → q.location.uri ≠ "" →
      r.same q = false → (f.placeOf r).same (f.placeOf q) = false := by
  intro aliasing
  refine ⟨?_, ?_, ?_⟩
  · intro m sound b s file made spared
    rw [Usage.after_append_cons]
    have linked : Memory.numbering.Linked source.address target.address
        (Usage.after b m (calls ++ [aliasing])).store := by
      rw [Usage.after_append_singleton, Usage.store_perform_ask]
      exact Memory.linked_of_createAlias file other made
    have sound' : Memory.numbering.sound (Usage.after b m (calls ++ [aliasing])).store :=
      Memory.sound_foldl (u := { store := m }) sound true _
    refine Memory.readAlike_of_linked true
      (Numbering.linked_run (Memory.tracks sound' true later) linked fun call mem r displaced => ?_)
    obtain ⟨apart, apart'⟩ := spared call mem r displaced
    simp only [Resource.same, decide_eq_false_iff_not] at apart apart'
    exact ⟨Ne.symm apart, Ne.symm apart'⟩
  · intro f d linking closed numbered rooted b s file made spared
    rw [Usage.after_append_cons]
    have rooted : f.Rooted d ((calls ++ [aliasing]) ++ later) := by
      rwa [List.append_assoc]
    obtain ⟨home, standing, _⟩ := Files.standing_after closed numbered
      (rooted.anti ((List.prefix_append calls [aliasing]).trans (List.prefix_append _ later)))
    have linked : f.numbering.Linked source.address target.address
        (Usage.after b d (calls ++ [aliasing])).store := by
      rw [Usage.after_append_singleton, Usage.store_perform_ask]
      exact Files.linked_of_createAlias standing linking file other made
    refine Files.readAlike_of_linked
      (Numbering.linked_run (Files.tracks closed numbered rooted) linked
        fun call mem r displaced => ?_)
    obtain ⟨apart_source, apart_target⟩ := spared call mem r displaced
    exact ⟨fun same => Files.not_samePlace_iff.2 apart_source same.symm,
      fun same => Files.not_samePlace_iff.2 apart_target same.symm⟩
  · intro f r q named named' other
    exact Files.apart_of_named named named' other

/-- Writers that were open before the alias and after it, with others' calls between. -/
theorem aliases_stay_linked_through_writers :
    let f : Files := { root := "/cache", linking := true }
    let l : Location := { name := "local", uri := "file:///srv/local" }
    let a : Resource := .ofText l "a"
    let b : Resource := .ofText l "b"
    let before : List Call := [.ask (.openWriter a), .write 0 [120], .flush 0]
    let later : List Call := [.ask (.openWriter b), .write 1 [121],
      .ask (.createAlias b (.ofText l "c")), .write 0 [122], .flush 0, .close 1,
      .ask (.createFile a), .ask (.delete (.ofText l "c"))]
    let calls := before ++ .ask (.createAlias a b) :: later
    (Memory.backend true).ReadAlike a b (Usage.after (Memory.backend true) .empty calls).store ∧
      f.backend.ReadAlike a b (Usage.after f.backend {} calls).store := by
  intro f l a b before later calls
  obtain ⟨inMemory, onDisk, apart⟩ := aliases_stay_linked before later a b (by decide)
  have displaced {call : Call} {r : Resource} (mem : call ∈ later)
      (displaced : call.displaced? = some r) : r = .ofText l "c" := by
    simp only [later, List.mem_cons, List.not_mem_nil, or_false] at mem
    obtain rfl | rfl | rfl | rfl | rfl | rfl | rfl | rfl := mem <;> cases displaced <;> rfl
  constructor
  · refine inMemory .empty Memory.sound_empty (by decide) (by decide) fun call mem r gone => ?_
    obtain rfl := displaced mem gone
    exact ⟨by decide, by decide⟩
  · have rooted : f.Rooted {} calls := Files.rooted_of_isAbsolute (by decide) (by decide) _ _
    refine onDisk f {} rfl Disk.closed_empty Disk.numbered_empty rooted (by decide +kernel)
      (by decide +kernel) fun call mem r gone => ?_
    obtain rfl := displaced mem gone
    exact ⟨apart f _ _ (by decide) (by decide) (by decide),
      apart f _ _ (by decide) (by decide) (by decide)⟩

/-- A location with an empty URI has the files of the others, and replaces them. -/
theorem alias_lost_to_other_spelling :
    let f : Files := { root := "/cache", linking := true }
    let x : Location := { name := "x", uri := "x" }
    let a : Resource := .ofText x "a"
    let b : Resource := .ofText x "b"
    let c : Resource := .ofText x "c"
    let other : Resource := .ofText { name := "all", uri := "" } "x/b"
    let before : List Call := [.ask (.openWriter a), .write 0 [120], .close 0,
      .ask (.openWriter c), .write 0 [121], .close 0]
    let d := (Usage.after f.backend {} before).store
    let calls := before ++ [.ask (.createAlias a b), .ask (.copy c other)]
    f.backend.isFile a d = true ∧ (f.backend.createAlias a b d).1.1 = .ok () ∧
      other.same a = false ∧ other.same b = false ∧
      ¬ f.backend.ReadAlike a b (Usage.after f.backend {} calls).store := by
  intro f x a b c other before d calls
  refine ⟨by decide +kernel, by decide +kernel, by decide, by decide, fun alike => ?_⟩
  have kept : f.backend.content? a (Usage.after f.backend {} calls).store = some [120] := by
    decide +kernel
  have lost : f.backend.content? b (Usage.after f.backend {} calls).store = some [121] := by
    decide +kernel
  obtain ⟨bytes, content_a, content_b⟩ := alike.content
  have same := (kept.symm.trans content_a).trans (content_b.symm.trans lost)
  cases same

end ArtifactCache
