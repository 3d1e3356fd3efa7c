import ArtifactCache.Proofs.FileStore

/-!
Upkeep. Whatever a store on disk is asked for, its directories stay closed, so
what is known of closed disks holds while the store is in use.
-/
namespace ArtifactCache

/-! ## Using a writer -/

namespace Disk.Writer
variable {w : Writer} {d : Disk} {Q : Disk → Prop}

theorem body_deliver (w : Writer) (bytes : Bytes) (d : Disk) :
    (w.deliver bytes d).1.body = w.body := by
  unfold deliver
  split <;> rfl

/-- What holds whatever the bytes of its file are holds while a writer is used. -/
theorem keeps_deliver (keeps : ∀ d bytes, Q d → Q (d.setBody w.body bytes)) (bytes : Bytes)
    (here : Q d) : Q (w.deliver bytes d).2 := by
  unfold deliver
  split
  · exact here
  · exact keeps d _ here

theorem keeps_flush (keeps : ∀ d bytes, Q d → Q (d.setBody w.body bytes)) (here : Q d) :
    Q (w.flush d).2 :=
  keeps_deliver (w := { w with pending := [] }) keeps w.pending here

/-- Before bytes are written those that do not fit in with them are delivered. -/
theorem write_cases (keeps : ∀ d bytes, Q d → Q (d.setBody w.body bytes)) (bytes : Bytes)
    (here : Q d) : (w.write bytes d).1.body = w.body ∧ Q (w.write bytes d).2 := by
  have made_room : ∃ w₁ d₁,
      (if bufferSize < w.pending.length + bytes.length then w.flush d else (w, d)) = (w₁, d₁) ∧
        w₁.body = w.body ∧ Q d₁ := by
    split
    · exact ⟨_, _, rfl, body_deliver _ _ d, keeps_flush keeps here⟩
    · exact ⟨w, d, rfl, rfl, here⟩
  obtain ⟨w₁, d₁, eq, body, here₁⟩ := made_room
  unfold write
  rw [eq]
  dsimp only
  split
  · exact ⟨(body_deliver w₁ bytes d₁).trans body, keeps_deliver (body ▸ keeps) bytes here₁⟩
  · exact ⟨body, here₁⟩

theorem body_write (w : Writer) (bytes : Bytes) (d : Disk) : (w.write bytes d).1.body = w.body :=
  (write_cases (Q := fun _ => True) (fun _ _ => id) bytes trivial).1

theorem keeps_write (keeps : ∀ d bytes, Q d → Q (d.setBody w.body bytes)) (bytes : Bytes)
    (here : Q d) : Q (w.write bytes d).2 := (write_cases keeps bytes here).2

end Disk.Writer

namespace Files
variable {f : Files} {d : Disk} {r : Resource}

theorem snd_reporting {α : Type} (activity : Activity) (p : Place)
    (outcome : Except Fault α × Disk) : (reporting activity p outcome).2 = outcome.2 := by
  obtain ⟨_ | _, _⟩ := outcome <;> rfl

/-- A closed disk on which the way to the root begins at a directory. -/
abbrev Sound (f : Files) : Disk → Prop := Disk.Sound (PathText.text f.root).isAbsolute

theorem sound_withParent {α : Type} {activity : Activity} {go : Disk → Except Failure α × Disk}
    (keeps : ∀ d, f.Sound d → f.Sound (go d).2) (sound : f.Sound d) :
    f.Sound (withParent activity (f.placeOf r) d go).2 := by
  unfold withParent
  split
  · exact keeps d sound
  next above parent =>
  split
  · exact keeps d sound
  have made := sound.makeDirectories (Place.begins_of_parent? ⟨f.root, rfl, rfl⟩ parent)
  generalize d.makeDirectories above = outcome at made ⊢
  split
  · exact made
  · exact keeps _ made

theorem sound_replacing {α : Type} {activity : Activity} {p : Place}
    {go : Disk → Except Failure α × Disk} (keeps : ∀ d, f.Sound d → f.Sound (go d).2)
    (sound : f.Sound d) : f.Sound (replacing activity p d go).2 := by
  unfold replacing
  split
  · have removed := sound.removeFile p
    generalize d.removeFile p = outcome at removed ⊢
    split
    · exact removed
    · exact keeps _ removed
  · exact keeps d sound

theorem sound_openWriter (sound : f.Sound d) (r : Resource) : f.Sound (f.openWriter r d).2 := by
  refine sound_withParent (fun d sound => ?_) sound
  have created := sound.create (p := f.placeOf r) rfl
  generalize d.create (f.placeOf r) = outcome at created ⊢
  split <;> exact created

theorem sound_copy (sound : f.Sound d) (source target : Resource) :
    f.Sound (f.copy source target d).2 := by
  unfold copy
  dsimp only
  split
  · exact sound
  refine sound_withParent (fun d sound => sound_replacing (fun d sound => ?_) sound) sound
  rw [snd_reporting]
  exact sound.copyFile (f.placeOf source) rfl

theorem sound_mkdirs (sound : f.Sound d) (r : Resource) : f.Sound (f.mkdirs r d).2 := by
  rw [mkdirs, snd_reporting]
  exact sound.makeDirectories ⟨f.root, rfl, rfl⟩

theorem sound_createFile (sound : f.Sound d) (r : Resource) : f.Sound (f.createFile r d).2 := by
  refine sound_withParent (fun d sound => ?_) sound
  have opened := sound.openForWriting (p := f.placeOf r) rfl
  generalize d.openForWriting (f.placeOf r) = outcome at opened ⊢
  split <;> exact opened

theorem sound_createAlias (sound : f.Sound d) (source target : Resource) :
    f.Sound (f.createAlias source target d).2 := by
  unfold createAlias
  dsimp only
  split
  · exact sound
  split
  · exact sound_copy sound source target
  have prepared : f.Sound (withParent .createAlias (f.placeOf target) d fun d =>
      replacing .createAlias (f.placeOf target) d fun d => (.ok (), d)).2 :=
    sound_withParent (fun d sound => sound_replacing (fun d sound => sound) sound) sound
  split
  · exact prepared
  · rw [snd_reporting]
    exact prepared.link (f.placeOf source) rfl

theorem closed_delete (sound : f.Sound d) (r : Resource) : (f.delete r d).2.Closed := by
  have removed : (if d.isDirectory (f.placeOf r) then d.removeDirectory (f.placeOf r)
      else d.removeFile (f.placeOf r)).2.Closed := by
    split
    · exact sound.closed.removeDirectory _
    · exact (sound.removeFile _).closed
  unfold delete
  dsimp only
  generalize (if d.isDirectory (f.placeOf r) then d.removeDirectory (f.placeOf r)
    else d.removeFile (f.placeOf r)) = outcome at removed ⊢
  split <;> exact removed

theorem closed_run (sound : f.Sound d) (q : Request) : (q.run f.backend d).2.Closed := by
  cases q <;> simp only [Request.run, Request.snd_keeping]
  case openWriter r => exact (sound_openWriter sound r).closed
  case copy source target => exact (sound_copy sound source target).closed
  case delete r => exact closed_delete sound r
  case mkdirs r => exact (sound_mkdirs sound r).closed
  case createFile r => exact (sound_createFile sound r).closed
  case createAlias source target => exact (sound_createAlias sound source target).closed

/-- What a call keeps: the disk stays closed. -/
theorem closed_perform {u : Usage Disk Disk.Writer} (sound : f.Sound u.store) (call : Call) :
    (u.perform f.backend call).store.Closed := by
  cases call with
  | ask q =>
    rw [Usage.store_perform_ask]
    exact closed_run sound q
  | write i bytes =>
    unfold Usage.perform
    dsimp only
    split
    · exact sound.closed
    · exact Disk.Writer.keeps_write (Q := Disk.Closed) (fun _ _ => id) bytes sound.closed
  | flush i =>
    unfold Usage.perform
    dsimp only
    split
    · exact sound.closed
    · exact Disk.Writer.keeps_flush (Q := Disk.Closed) (fun _ _ => id) sound.closed
  | close i =>
    unfold Usage.perform
    dsimp only
    split
    · exact sound.closed
    · exact Disk.Writer.keeps_flush (Q := Disk.Closed) (fun _ _ => id) sound.closed

/-- The directory where the way to the root begins stays while the store is in
use. For an absolute root that is the root of the disk, which always stays. -/
def HasHome (f : Files) (d : Disk) (calls : List Call) : Prop :=
  ∀ done, done <+: calls →
    let store := (Usage.after f.backend d done).store
    store.node? (if (PathText.text f.root).isAbsolute then [] else store.workingDirectory) =
      some .directory

theorem hasHome_of_isAbsolute (absolute : (PathText.text f.root).isAbsolute = true) (d : Disk)
    (calls : List Call) : f.HasHome d calls := by
  intro done _
  simp [absolute, Disk.node?]

theorem closed_after (closed : d.Closed) {calls : List Call} (home : f.HasHome d calls) :
    (Usage.after f.backend d calls).store.Closed := by
  induction calls using List.reverseRecOn with
  | nil => exact closed
  | append_singleton calls call ih =>
    have before := ih fun done le => home done (le.trans (List.prefix_append _ _))
    rw [Usage.after_append_singleton]
    exact closed_perform ⟨before, home calls (List.prefix_append _ _)⟩ call

end Files
end ArtifactCache
