import ArtifactCache.Proofs.FileFilling
import ArtifactCache.Proofs.Isolation
import ArtifactCache.Proofs.Outcomes

/-!
# Retrieving is all or nothing

Retrieving what is there touches nothing. What is not there is afterwards a file with
the bytes that the endpoint delivered, or nothing; and every other file is as it was.

* `Cache.Retrieved.unharmed`, `Cache.Retrieved.delivers`: what a miss and what a download
  leave, for a store that fills as it should (`Backend.Fills`);
* `Cache.RetrievesWhole`: all that is said of retrieving one resource, in one state;
* `Cache.retrieves_whole`: both stores retrieve so in every state that they can be in,
  the one on disk as long as its root stands.
-/
namespace ArtifactCache

/-- An endpoint that has the same content for every resource, and takes nothing. -/
def Endpoint.always {S : Type} (content : Content) : Endpoint S where
  fetch _ _ := (.ok (some fun _ => content), [])
  publish _ _ _ _ s := ((.ok false, []), s)

namespace Cache
variable {S R W : Type} {c : Cache S R W} {order : S → Prop} {named : Resource → Prop}
  {r : Resource} {s s' : S} {w w' : World S}
  {result : Except Failure (Option (Handle S R W))}

/-- A miss leaves all files as they were, and at most directories above the resource. -/
theorem Retrieved.unharmed (fills : c.backend.Fills order named) (ordered : order s)
    (has_name : named r) (absent : c.backend.present r s = false)
    (retrieved : c.Retrieved r s result s') (missed : ∀ h, result ≠ .ok (some h)) :
    order s' ∧ c.backend.Unharmed named r s s' := by
  cases retrieved with
  | missed same =>
    subst same
    exact ⟨ordered, .refl _⟩
  | refused opens => exact fills.refused ordered has_name opens
  | broken opens deleted => exact deleted ▸ fills.cleared _ ordered has_name absent opens
  | fetched => exact absurd rfl (missed _)

/-- The resource is a file with the bytes that the endpoint delivered. -/
structure Delivers (c : Cache S R W) (named : Resource → Prop) (r : Resource) (s s' : S) :
    Prop where
  content : ∃ endpoint source stream s₁, r.location.downloads = true ∧
    c.endpoint? = some endpoint ∧ (endpoint.fetch r s).1 = .ok (some source) ∧
    c.backend.openWriter r s = (.ok stream, s₁) ∧ (source s₁).fault? = none ∧
    c.backend.content? r s' = some (source s₁).bytes
  file : c.backend.isFile r s' = true
  others (q : Resource) : named q → r.same q = false → c.backend.Keeps q s s'

theorem Delivers.of_always {content : Content} (delivers : c.Delivers named r s s')
    (given : c.endpoint? = some (.always content)) :
    content.fault? = none ∧ c.backend.content? r s' = some content.bytes := by
  obtain ⟨endpoint, source, _, _, _, same, fetched, _, sound, holds⟩ := delivers.content
  obtain rfl := Option.some.inj (given.symm.trans same)
  obtain rfl := Option.some.inj (Except.ok.inj fetched)
  exact ⟨sound, holds⟩

theorem Retrieved.delivers (fills : c.backend.Fills order named) (ordered : order s)
    (has_name : named r) (absent : c.backend.present r s = false) {h : Handle S R W}
    (retrieved : c.Retrieved r s (.ok (some h)) s') :
    h = c.handle r ∧ order s' ∧ c.Delivers named r s s' := by
  obtain ⟨_, no_handle⟩ | _ | _ | ⟨downloads, given, fetched, opens, sound, rfl, written⟩ :=
    retrieved
  · exact absurd rfl (no_handle h)
  obtain ⟨ordered', content⟩ := fills.written _ ordered opens
  rw [written] at content
  exact ⟨rfl, ordered', ⟨_, _, _, _, downloads, given, fetched, opens, sound, content⟩,
    (fills.file r _).trans (by rw [content]; rfl),
    fun q has_name' other => fills.spared _ ordered has_name has_name' other absent opens⟩

/-- **Retrieving `r` is all or nothing.** -/
structure RetrievesWhole (c : Cache S R W) (named : Resource → Prop) (r : Resource)
    (w : World S) : Prop where
  /-- It ends, unless a lock is in the way. -/
  ends (t : Thread) (m : Metadata) : Locks.Open t w.locks →
    ∃ result w', (c.retrieve t r m).run w = .finished result w'
  /-- What is there is answered for, and nothing happens. -/
  found (t : Thread) (m : Metadata) : c.backend.present r w.storage = true →
    (c.retrieve t r m).run w = .finished (.ok (some (c.handle r))) w
  holds {t : Thread} {m : Metadata} {result : Except Failure (Option (Handle S R W))}
      {w' : World S} :
    (c.retrieve t r m).run w = .finished result w' → Locks.SameHolds w.locks w'.locks
  missed {t : Thread} {m : Metadata} {result : Except Failure (Option (Handle S R W))}
      {w' : World S} :
    c.backend.present r w.storage = false → (c.retrieve t r m).run w = .finished result w' →
    (∀ h, result ≠ .ok (some h)) →
    c.backend.present r w'.storage = false ∧ ∀ q, c.backend.Keeps q w.storage w'.storage
  delivered {t : Thread} {m : Metadata} {h : Handle S R W} {w' : World S} :
    c.backend.present r w.storage = false →
    (c.retrieve t r m).run w = .finished (.ok (some h)) w' →
    h = c.handle r ∧ c.Delivers named r w.storage w'.storage ∧
      ∀ t m, (c.retrieve t r m).run w' = .finished (.ok (some (c.handle r))) w'

/-- Who is a file is there. -/
theorem present_of_isFile (fills : c.backend.Fills order named)
    (file : c.backend.isFile r s = true) : c.backend.present r s = true := by
  refine Bool.not_eq_false _ |>.mp fun absent => ?_
  cases (fills.absent absent).symm.trans file

theorem retrievesWhole (plain : c.hooks? = none) (fills : c.backend.Fills order named)
    (ordered : order w.storage) (has_name : named r) : c.RetrievesWhole named r w where
  ends t m way := by
    have follows : Follows t .guards (fun _ => []) [] (c.retrieve t r m) :=
      (keeps_retrieve r m).follows
    obtain ⟨result, w', ends, _⟩ := follows.finishes way
    exact ⟨result, w', ends⟩
  found t m there := run_retrieve_of_present plain t m there
  holds {t m result w'} ends := by
    cases there : c.backend.present r w.storage with
    | true =>
      rw [run_retrieve_of_present plain t m there] at ends
      obtain ⟨-, rfl⟩ := Program.Progress.finished.inj ends
      exact .refl _
    | false => exact (leads_retrieve plain t m there result w' ends).2
  missed {t m result w'} absent ends no_hit := by
    obtain ⟨retrieved, _⟩ := leads_retrieve plain t m absent result w' ends
    obtain ⟨_, unharmed⟩ := retrieved.unharmed fills ordered has_name absent no_hit
    refine ⟨(unharmed.present r has_name ?_).trans absent, unharmed.keeps⟩
    exact Bool.not_eq_true _ |>.mp fun above =>
      (Path.isAbove_iff.1 (Address.isAbove_iff.1 above).2).2 rfl
  delivered {t m h w'} absent ends := by
    obtain ⟨retrieved, _⟩ := leads_retrieve plain t m absent _ w' ends
    obtain ⟨same, _, delivers⟩ := retrieved.delivers fills ordered has_name absent
    exact ⟨same, delivers, fun t m =>
      run_retrieve_of_present plain t m (present_of_isFile fills delivers.file)⟩

/-- **Retrieving is all or nothing**, in memory, and on disk as long as the root stands. -/
theorem retrieves_whole (calls : List Call) (r : Resource) :
    (∀ (linking : Bool) (c : Cache Memory Bytes Memory.Writer) (w : World Memory),
      c.backend = Memory.backend linking → c.hooks? = none →
      w.storage = (Usage.after c.backend .empty calls).store →
      c.RetrievesWhole (fun _ => True) r w) ∧
    (∀ (f : Files) (c : Cache Disk Disk.Reader Disk.Writer) (d : Disk) (w : World Disk),
      c.backend = f.backend → c.hooks? = none → d.Closed → d.Numbered → f.Rooted d calls →
      r.location.uri ≠ "" → w.storage = (Usage.after c.backend d calls).store →
      c.RetrievesWhole (fun q => q.location.uri ≠ "") r w) ∧
    ∀ (f : Files) (d : Disk), (PathText.text f.root).isAbsolute = true →
      (∀ name ∈ Place.stepsOf (.text f.root), name ≠ .text "..") → f.Rooted d calls := by
  refine ⟨fun linking c w inside plain reached => ?_,
    fun f c d w inside plain closed numbered rooted has_name reached => ?_,
    fun f d absolute forward => Files.rooted_of_isAbsolute absolute forward d calls⟩
  · obtain ⟨fills, sound⟩ := Memory.fills_after inside reached
    exact retrievesWhole plain fills sound trivial
  · obtain ⟨fills, standing⟩ := Files.fills_after inside closed numbered rooted reached
    exact retrievesWhole plain fills standing has_name

/-- A download that breaks off leaves nothing on an empty disk; one that does not is a
file in memory. -/
theorem retrieves_broken_and_sound :
    let r : Resource := .ofText { name := "local", uri := "file:///srv/local" } "a/b"
    let f : Files := { root := "/cache" }
    let breaking : Cache Disk Disk.Reader Disk.Writer :=
      { backend := f.backend,
        endpoint? := some (.always { bytes := [120], fault? := some (.reported "reset") }) }
    let sound : Cache Memory Bytes Memory.Writer :=
      { backend := Memory.backend false, endpoint? := some (.always { bytes := [120] }) }
    (∃ result w, (breaking.retrieve 0 r ∅).run { storage := {} } = .finished result w ∧
      (∀ h, result ≠ .ok (some h)) ∧ f.backend.present r w.storage = false) ∧
    ∃ w, (sound.retrieve 0 r ∅).run { storage := .empty } =
        .finished (.ok (some (sound.handle r))) w ∧
      (Memory.backend false).content? r w.storage = some [120] ∧
      (sound.retrieve 1 r ∅).run w = .finished (.ok (some (sound.handle r))) w := by
  intro r f breaking sound
  obtain ⟨inMemory, onDisk, rooted⟩ := retrieves_whole [] r
  constructor
  · have whole := onDisk f breaking {} { storage := {} } rfl rfl Disk.closed_empty
      Disk.numbered_empty (rooted f {} (by decide) (by decide)) (by decide) rfl
    have absent : f.backend.present r {} = false := by decide
    obtain ⟨result, w, ends⟩ := whole.ends 0 ∅ fun _ => rfl
    have no_hit : ∀ h, result ≠ .ok (some h) := by
      rintro h rfl
      obtain ⟨_, delivers, _⟩ := whole.delivered absent ends
      cases (delivers.of_always rfl).1
    exact ⟨result, w, ends, no_hit, (whole.missed absent ends no_hit).1⟩
  · have whole := inMemory false sound { storage := .empty } rfl rfl rfl
    have goes : ((sound.retrieve 0 r ∅).run { storage := .empty }).passes
        (fun result _ => result.toOption.join.isSome) = true := by decide +kernel
    obtain ⟨result, w, ends, hit⟩ := Program.Progress.exists_of_passes goes
    obtain e | _ | h := result
    · cases hit
    · cases hit
    obtain ⟨rfl, delivers, again⟩ := whole.delivered rfl ends
    exact ⟨w, ends, (delivers.of_always rfl).2, again 1 ∅⟩

/-- A root that leads up through the directory of a location goes with that, and is
back with the download. So the directory that was not there is there when the download
has failed. -/
theorem directory_left_by_failed_retrieve :
    let f : Files := { root := "/cache/a_x/.." }
    let l : Location := { name := "m", uri := "file:///mirror" }
    let r : Resource := .ofText l "d"
    let c : Cache Disk Disk.Reader Disk.Writer :=
      { backend := f.backend, endpoint? := some (.always { bytes := [120] }) }
    let d := (Usage.after f.backend {} [.ask (.openWriter (.ofText l "d/e")), .write 0 [121],
      .close 0, .ask (.delete (.root { name := "a", uri := "a:x" }))]).store
    f.backend.present r d = false ∧
      ∃ e w, (c.retrieve 0 r ∅).run { storage := d } = .finished (.error e) w ∧
        f.backend.present r w.storage = true := by
  intro f l r c d
  have goes : ((c.retrieve 0 r ∅).run { storage := d }).passes
      (fun result w => !result.isOk && f.backend.present r w.storage) = true := by decide +kernel
  obtain ⟨result, w, ends, left⟩ := Program.Progress.exists_of_passes goes
  obtain ⟨failed, there⟩ := Bool.and_eq_true_iff.1 left
  cases result with
  | ok => cases failed
  | error e => exact ⟨by decide +kernel, e, w, ends, there⟩

end Cache
end ArtifactCache
