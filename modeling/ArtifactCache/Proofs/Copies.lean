import ArtifactCache.Proofs.DirectoryNames
import ArtifactCache.Proofs.Writes

/-!
Copies. On disk a copy is a new file, so it shares its bytes with no other
resource. In memory the bytes are put in the entry that the target has, so what
is linked to the target gets them too, and a target that is linked to the source
stays so. `copies_are_independent` says this exactly, and what follows for those
who write to the source or the target afterwards.
-/
namespace ArtifactCache

namespace Memory
variable {m : Memory} {a b : Address} {source target : Resource}

/-- A copy has the bytes of the source, in the entry of the target. -/
theorem puts_copy (copied : (m.copy source target).1 = .ok ()) :
    ∃ bytes, numbering.content? source.address m = some bytes ∧
      numbering.Puts (· = target.address)
        ((numbering.number? target.address m).getD m.fresh) bytes m (m.copy source target).2 := by
  obtain ⟨bytes, content, made⟩ := of_copy_eq_ok copied
  refine ⟨bytes, content, ?_⟩
  rw [made]
  exact puts_commit target.address bytes m

/-- The target has the bytes of the source, and so has what is linked to it. -/
theorem copy_shares (sound : numbering.sound m) (linking : Bool) (other : source.same target = false)
    (copied : (m.copy source target).1 = .ok ()) :
    let b := backend linking
    let m' := (m.copy source target).2
    (b.isFile target m' = true ∧ b.content? target m' = b.content? source m) ∧
      (∀ r, r.same target = false → (b.Keeps r m m' ↔
        (numbering.Linked r.address target.address m → b.content? r m = b.content? source m))) ∧
      (numbering.Linked source.address target.address m' ↔
        numbering.Linked source.address target.address m) := by
  intro b m'
  obtain ⟨bytes, given, puts⟩ := puts_copy copied
  have content (r : Resource) (m : Memory) : b.content? r m = numbering.content? r.address m :=
    (serves linking).content r m
  have ne {r : Resource} (other : r.same target = false) : r.address ≠ target.address := by
    simpa [Resource.same] using other
  have takes := takes sound target.address
  have read := puts.content rfl
  refine ⟨⟨?_, ?_⟩, fun r other => ?_, puts.linked_iff rfl takes (ne other)⟩
  · have number := puts.renames.here target.address rfl
    have found : m'.files.get? target.address = _ := number
    simp [b, backend, isFile, Table.contains, found]
  · rw [content, content, given, read]
  · rw [keeps_iff, content, content, given]
    exact puts.content_iff rfl takes (ne other)

/-- Without links nothing gets linked. -/
theorem apart_perform {u : Usage Memory Writer} (sound : numbering.sound u.store) (ne : a ≠ b)
    (apart : ¬ numbering.Linked a b u.store) (call : Call) :
    ¬ numbering.Linked a b (u.perform (backend false) call).store := by
  have places (c : Address) (eq : a = c) : b ≠ c := fun eq' => ne (eq.trans eq'.symm)
  cases call with
  | write | flush | close =>
    exact (tells_perform sound false _).2.apart places (fun _ aliased => by cases aliased) apart
  | ask q =>
    cases q with
    | openWriter | copy | delete | mkdirs | createFile =>
      exact (tells_perform sound false _).2.apart places (fun _ aliased => by cases aliased) apart
    | createAlias source target =>
      have copied (m : Memory) (sound : numbering.sound m) :
          numbering.Renaming Eq m (m.createAlias false source target).2
            (.ask (.copy source target)) := by
        unfold createAlias
        split
        · exact .still fun _ => rfl
        · exact (tells_copy sound source target).2
      rw [Usage.store_perform_ask]
      exact (copied u.store sound).apart places (fun _ aliased => by cases aliased) apart

theorem apart_after (ne : a ≠ b) (calls : List Call) :
    ¬ numbering.Linked a b (Usage.after (backend false) empty calls).store := by
  induction calls using List.reverseRecOn with
  | nil =>
    rintro ⟨k, number, _⟩
    cases number
  | append_singleton calls call ih =>
    rw [Usage.after_append_singleton]
    exact apart_perform (sound_after false calls) ne ih call

end Memory

namespace Files
variable {f : Files} {d : Disk} {home : List PathText} {source target : Resource}

/-- A copy is a new file with the bytes of the source. -/
theorem puts_copy (standing : f.Standing home d)
    (other : ¬ SamePlace source.address target.address)
    (copied : (f.copy source target d).1 = .ok ()) :
    ∃ n k, f.numbering.number? source.address d = some n ∧ ¬ f.numbering.Used k d ∧
      f.numbering.Puts (SamePlace · target.address) k (d.body n) d (f.copy source target d).2 := by
  have apart : (f.placeOf source).same (f.placeOf target) = false :=
    Bool.not_eq_true _ |>.mp fun same => other (same_iff.1 same)
  revert copied
  unfold copy
  rw [if_neg (by simp [apart])]
  refine elim_withParent (P := fun outcome : Except Failure Unit × Disk => outcome.1 = .ok () →
    ∃ n k, f.numbering.number? source.address d = some n ∧ ¬ f.numbering.Used k d ∧
      f.numbering.Puts (SamePlace · target.address) k (d.body n) d outcome.2)
    standing (fun e d₁ _ _ failed => by cases failed) fun d₁ standing₁ alike => ?_
  -- The file of the target is gone by now, whether or not there was one.
  have pour {d₂ : Disk} (standing₂ : f.Standing home d₂) (fresh : d₂.fresh = d₁.fresh)
      (bytes : ∀ k, d₂.body k = d₁.body k)
      (gone : f.numbering.Renames (SamePlace · target.address) none d₁ d₂)
      (copied : (reporting .copy (f.placeOf source)
        (d₂.copyFile (f.placeOf source) (f.placeOf target))).1 = .ok ()) :
      ∃ n k, f.numbering.number? source.address d = some n ∧ ¬ f.numbering.Used k d ∧
        f.numbering.Puts (SamePlace · target.address) k (d.body n) d
          (d₂.copyFile (f.placeOf source) (f.placeOf target)).2 := by
    obtain ⟨fault, failed⟩ | ⟨k, n, d', stat, made, _, puts, old | ⟨_, rfl⟩⟩ :=
      puts_copyFile standing₂ (f.placeOf source) target
    · simp [reporting, failed] at copied
    · cases (gone.here target.address rfl).symm.trans old
    have number : f.numbering.number? source.address d₂ = some n :=
      Disk.number?_eq_some_iff.2 stat
    have ne : n ≠ d₂.fresh := fun eq => standing₂.not_used_fresh ⟨_, eq ▸ number⟩
    have unused : ¬ f.numbering.Used d₂.fresh d := by
      rw [← alike.used, fresh]
      exact standing₁.not_used_fresh
    have same : d₂.body n = d.body n := (bytes n).trans (alike.bytes n)
    rw [if_neg ne, same] at puts
    rw [gone.elsewhere _ other, alike.number] at number
    rw [made]
    refine ⟨n, _, number, unused, .after alike ⟨gone.trans puts.renames, puts.filled, ?_⟩⟩
    exact fun j new => (puts.rest j new).trans (bytes j)
  intro copied
  cases file : d₁.isFile (f.placeOf target) with
  | false =>
    rw [replacing_of_not_isFile file] at copied ⊢
    rw [snd_reporting]
    exact pour standing₁ rfl (fun _ => rfl) (standing₁.renames_of_missing file) copied
  | true =>
    obtain ⟨path, n, found, node, plain⟩ := exists_of_isFile file
    rw [replacing_of_isFile found file] at copied ⊢
    rw [snd_reporting]
    obtain ⟨standing₂, gone⟩ := standing_removeNode standing₁ found node plain
    exact pour standing₂ rfl (fun _ => rfl) gone copied

/-- The target has the bytes of the source, and shares them with no other place. -/
theorem copy_shares (standing : f.Standing home d)
    (other : ¬ SamePlace source.address target.address)
    (copied : (f.copy source target d).1 = .ok ()) :
    let b := f.backend
    let d' := (f.copy source target d).2
    (b.isFile target d' = true ∧ b.content? target d' = b.content? source d) ∧
      (∀ r : Resource, ¬ SamePlace r.address target.address → b.Keeps r d d') ∧
      ¬ f.numbering.Linked source.address target.address d' := by
  intro b d'
  obtain ⟨n, k, number, unused, puts⟩ := puts_copy standing other copied
  have content (r : Resource) (d : Disk) : b.content? r d = f.numbering.content? r.address d :=
    f.serves.content r d
  refine ⟨⟨?_, ?_⟩, fun r other => ?_, fun linked => ?_⟩
  · have number := puts.renames.here target.address rfl
    exact Disk.isFile_iff.2 ⟨k, Disk.number?_eq_some_iff.1 number⟩
  · rw [content, content, puts.content rfl, Numbering.content?, number]
    rfl
  · rw [keeps_iff_content]
    exact puts.content_of_ne other fun number => unused ⟨_, number⟩
  · exact unused ⟨_, (puts.linked_iff_number rfl other).1 linked⟩

end Files

/-- **What a copy shares.** A copy is made after any calls, and any calls follow.

In memory the target then reads what the source held. Another resource is as it
was unless it is linked to the target and held other bytes, and source and target
are linked if they were before. If they were not, they are independent after any
calls that make neither an alias; so it is if aliases are never linked.

On disk the target reads what the source held and the resources at other places
are as they were. Source and target are independent after any calls that make
neither an alias, unless they are at one place. -/
theorem copies_are_independent (calls later : List Call) (source target : Resource)
    (other : source.same target = false) :
    let copying : Call := .ask (.copy source target)
    (∀ (linking : Bool) (m : Memory), Memory.numbering.sound m →
      let b := Memory.backend linking
      let s := (Usage.after b m calls).store
      let s' := (Usage.after b m (calls ++ [copying])).store
      let linked (r : Resource) := Memory.numbering.Linked r.address target.address
      (b.copy source target s).1 = .ok () →
      (b.isFile target s' = true ∧ b.content? target s' = b.content? source s) ∧
      (∀ r, r.same target = false →
        (b.Keeps r s s' ↔ (linked r s → b.content? r s = b.content? source s))) ∧
      (linked source s' ↔ linked source s) ∧
      (¬ linked source s → (∀ call ∈ later, ∀ r, call.aliased? = some r →
        r.same source = false ∧ r.same target = false) →
        b.Independent source target (Usage.after b m (calls ++ copying :: later)).store)) ∧
    (∀ (calls : List Call) (r : Resource), r.same target = false →
      ¬ Memory.numbering.Linked r.address target.address
        (Usage.after (Memory.backend false) .empty calls).store) ∧
    (∀ (f : Files) (d : Disk), d.Closed → d.Numbered → f.Rooted d (calls ++ copying :: later) →
      let b := f.backend
      let s := (Usage.after b d calls).store
      let s' := (Usage.after b d (calls ++ [copying])).store
      let apart (r q : Resource) := (f.placeOf r).same (f.placeOf q) = false
      (b.copy source target s).1 = .ok () → apart source target →
      (b.isFile target s' = true ∧ b.content? target s' = b.content? source s) ∧
      (∀ r, apart r target → b.Keeps r s s') ∧
      ((∀ call ∈ later, ∀ r, call.aliased? = some r → apart r source ∧ apart r target) →
        b.Independent source target (Usage.after b d (calls ++ copying :: later)).store)) ∧
    ∀ (f : Files) (r q : Resource), r.location.uri ≠ "" → q.location.uri ≠ "" →
      r.same q = false → (f.placeOf r).same (f.placeOf q) = false := by
  intro copying
  have store {S R W : Type} (b : Backend S R W) (s : S) :
      (Usage.after b s (calls ++ [copying])).store =
        (b.copy source target (Usage.after b s calls).store).2 := by
    rw [Usage.after_append_singleton, Usage.store_perform_ask]
    rfl
  refine ⟨?_, ?_, ?_, ?_⟩
  · intro linking m sound b s s' linked copied
    have sound_s : Memory.numbering.sound s :=
      Memory.sound_foldl (u := { store := m }) sound linking calls
    have sound_s' : Memory.numbering.sound s' :=
      Memory.sound_foldl (u := { store := m }) sound linking (calls ++ [copying])
    have eq : (s.copy source target).2 = s' := (store b m).symm
    obtain ⟨read, others, links⟩ := Memory.copy_shares sound_s linking other copied
    rw [eq] at read others links
    refine ⟨read, others, links, fun apart spared => ?_⟩
    have ne : source.address ≠ target.address := by simpa [Resource.same] using other
    rw [Usage.after_append_cons]
    refine Memory.independent (Memory.sound_foldl sound_s' linking later) linking other ?_
    refine Numbering.apart_run (Memory.tracks sound_s' linking later)
      (fun c eq eq' => ne (eq.trans eq'.symm)) (fun now => apart (links.1 now))
      fun call mem r aliased => ?_
    obtain ⟨off, off'⟩ := spared call mem r aliased
    simp only [Resource.same, decide_eq_false_iff_not] at off off'
    exact ⟨Ne.symm off, Ne.symm off'⟩
  · intro calls r other
    exact Memory.apart_after (by simpa [Resource.same] using other) calls
  · intro f d closed numbered rooted b s s' apart copied off
    have rooted : f.Rooted d ((calls ++ [copying]) ++ later) := by
      rwa [List.append_assoc]
    obtain ⟨home, standing, _⟩ := Files.standing_after closed numbered
      (rooted.anti ((List.prefix_append calls [copying]).trans (List.prefix_append _ later)))
    obtain ⟨_, standing', _⟩ := Files.standing_after closed numbered rooted
    have other_place := Files.not_samePlace_iff.2 off
    have eq : (f.copy source target (Usage.after f.backend d calls).store).2 = s' :=
      (store b d).symm
    obtain ⟨read, others, unlinked⟩ := Files.copy_shares standing other_place copied
    rw [eq] at read others unlinked
    refine ⟨read, fun r off => others r (Files.not_samePlace_iff.2 off), fun spared => ?_⟩
    rw [List.append_assoc, List.singleton_append, Usage.after_append_cons] at standing'
    rw [Usage.after_append_cons]
    refine Files.independent standing' other_place ?_
    refine Numbering.apart_run (Files.tracks closed numbered rooted)
      (fun c same same' => other_place (same.trans same'.symm)) unlinked
      fun call mem r aliased => ?_
    obtain ⟨off, off'⟩ := spared call mem r aliased
    exact ⟨fun same => Files.not_samePlace_iff.2 off same.symm,
      fun same => Files.not_samePlace_iff.2 off' same.symm⟩
  · intro f r q named named' other
    exact Files.apart_of_named named named' other

/-- A copy of a file that has an alias, and that is written to through the alias. -/
theorem copies_are_independent_of_aliased_source :
    let f : Files := { root := "/cache", linking := true }
    let l : Location := { name := "local", uri := "file:///srv/local" }
    let a : Resource := .ofText l "a"
    let b : Resource := .ofText l "b"
    let c : Resource := .ofText l "c"
    let before : List Call :=
      [.ask (.openWriter a), .write 0 [120], .close 0, .ask (.createAlias a b)]
    let later : List Call := [.ask (.openWriter b), .write 0 [121], .close 0]
    let calls := before ++ .ask (.copy a c) :: later
    (Memory.backend true).Independent a c (Usage.after (Memory.backend true) .empty calls).store ∧
      f.backend.Independent a c (Usage.after f.backend {} calls).store := by
  intro f l a b c before later calls
  obtain ⟨inMemory, _, onDisk, apart⟩ := copies_are_independent before later a c (by decide)
  have aliases (call : Call) (mem : call ∈ later) : call.aliased? = none := by
    simp only [later, List.mem_cons, List.not_mem_nil, or_false] at mem
    obtain rfl | rfl | rfl := mem <;> rfl
  constructor
  · obtain ⟨_, _, _, independent⟩ :=
      inMemory true .empty Memory.sound_empty (by decide +kernel)
    refine independent (fun ⟨k, _, number⟩ => ?_) fun call mem r aliased => ?_
    · have missing : (Usage.after (Memory.backend true) .empty before).store.files.get? c.address =
          none := by decide +kernel
      cases missing.symm.trans number
    · cases (aliases call mem).symm.trans aliased
  · have rooted : f.Rooted {} calls := Files.rooted_of_isAbsolute (by decide) (by decide) _ _
    obtain ⟨_, _, independent⟩ := onDisk f {} Disk.closed_empty Disk.numbered_empty rooted
      (by decide +kernel) (apart f a c (by decide) (by decide) (by decide))
    refine independent fun call mem r aliased => ?_
    cases (aliases call mem).symm.trans aliased

/-- In memory a copy to an alias changes the file that it is an alias of, and a
copy to an alias of the source stays one. -/
theorem copy_reaches_linked_file :
    let l : Location := { name := "local", uri := "file:///srv/local" }
    let a : Resource := .ofText l "a"
    let b : Resource := .ofText l "b"
    let c : Resource := .ofText l "c"
    let store := Memory.backend true
    let before : List Call := [.ask (.openWriter a), .write 0 [120], .close 0,
      .ask (.createAlias a b), .ask (.openWriter c), .write 0 [121], .close 0]
    let m := (Usage.after store .empty before).store
    (store.copy c b m).1 = .ok () ∧ ¬ store.Keeps a m (store.copy c b m).2 ∧
      (store.copy a b m).1 = .ok () ∧ ¬ store.Independent a b (store.copy a b m).2 := by
  intro l a b c store before m
  refine ⟨by decide +kernel, fun keeps => ?_, by decide +kernel, fun independent => ?_⟩
  · have changed : store.content? a (store.copy c b m).2 ≠ store.content? a m := by
      decide +kernel
    exact changed keeps.content
  · have keeps := independent.second [.ask (.openWriter a), .write 0 [122], .close 0] (by
      simp [Call.IsWriteTo])
    have changed : store.content? b (Usage.after store (store.copy a b m).2
        [.ask (.openWriter a), .write 0 [122], .close 0]).store ≠
          store.content? b (store.copy a b m).2 := by
      decide +kernel
    exact changed keeps.content

end ArtifactCache
