import ArtifactCache.Memory
import ArtifactCache.Proofs.Upkeep

/-!
Requests that fail. In memory they change nothing. On disk they may leave new
directories behind, and two of them remove a file before they find that they
cannot replace it (`Files.Spoils`); no other content is touched
(`failed_request_keeps_iff`).
-/
namespace ArtifactCache

/-! ## In memory -/

namespace Memory
variable {m : Memory} {r source target : Resource} {e : Failure}

theorem unlessBarred_of_error {α : Type} {activity : Activity} {a : α} {m' : Memory}
    (failed : (unlessBarred activity r m (.ok a, m')).1 = .error e) :
    (unlessBarred activity r m (.ok a, m')).2 = m := by
  unfold unlessBarred at failed ⊢
  split
  · rfl
  · simp_all

theorem openWriter_of_error (failed : (m.openWriter r).1 = .error e) : (m.openWriter r).2 = m := by
  unfold openWriter at failed ⊢
  split at failed
  · next explicit =>
    rw [if_pos explicit]
    unfold unlessBarred
    split <;> rfl
  · next free =>
    rw [if_neg free]
    exact unlessBarred_of_error failed

theorem copy_of_error (failed : (m.copy source target).1 = .error e) :
    (m.copy source target).2 = m := by
  unfold copy at failed ⊢
  split
  · rfl
  · next found =>
    rw [found] at failed
    exact unlessBarred_of_error failed

theorem delete_of_error (failed : (m.delete r).1 = .error e) : (m.delete r).2 = m := by
  unfold delete at failed ⊢
  dsimp only at failed ⊢
  split
  · simp_all
  · split
    · rfl
    · simp_all

theorem mkdirs_of_error (failed : (m.mkdirs r).1 = .error e) : (m.mkdirs r).2 = m := by
  unfold mkdirs at failed ⊢
  split
  · rfl
  · next free =>
    rw [if_neg free] at failed
    exact unlessBarred_of_error failed

theorem createFile_of_error (failed : (m.createFile r).1 = .error e) :
    (m.createFile r).2 = m := by
  unfold createFile at failed ⊢
  split
  · rfl
  · next missing =>
    rw [if_neg missing] at failed
    exact unlessBarred_of_error failed

theorem createAlias_of_error {linking : Bool}
    (failed : (m.createAlias linking source target).1.1 = .error e) :
    (m.createAlias linking source target).2 = m := by
  unfold createAlias at failed ⊢
  split
  · rfl
  next proceed =>
  rw [if_neg proceed] at failed
  split
  · next links =>
    rw [if_pos links] at failed
    unfold link at failed ⊢
    split
    · rfl
    · next found =>
      rw [found] at failed
      exact unlessBarred_of_error failed
  · next copies =>
    rw [if_neg copies] at failed
    exact copy_of_error failed

/-- A request that fails in memory leaves the store as it was. -/
theorem run_of_error {linking : Bool} {q : Request}
    (failed : (q.run (backend linking) m).1 = .error e) : (q.run (backend linking) m).2 = m := by
  cases q <;> replace failed := Request.keeping_eq_error_iff.1 failed
  case openWriter r => exact openWriter_of_error failed
  case copy source target => exact copy_of_error failed
  case delete r => exact delete_of_error failed
  case mkdirs r => exact mkdirs_of_error failed
  case createFile r => exact createFile_of_error failed
  case createAlias source target => exact createAlias_of_error failed

end Memory

/-! ## On disk -/

/-- The place whose content a request changes. -/
def Request.target : Request → Resource
  | openWriter r | delete r | mkdirs r | createFile r => r
  | copy _ target | createAlias _ target => target

namespace Files

/-- The file at the target is removed for a source that is not there, or for
one that is the target itself under another spelling. -/
def Spoils (f : Files) (d : Disk) : Request → Prop
  | .copy source target =>
    d.isFile (f.placeOf target) = true ∧ d.isFile (f.placeOf source) = false
  | .createAlias source target =>
    f.linking = true ∧ d.isFile (f.placeOf target) = true ∧
      (f.placeOf source).same (f.placeOf target) = true
  | _ => False

variable {f : Files} {d : Disk} {source target r : Resource} {e : Failure}

/-- The file at the place of a resource is gone, and nothing else. -/
def Removed (f : Files) (r : Resource) (d d' : Disk) : Prop :=
  d.isFile (f.placeOf r) = true ∧ ∃ path n, d.locate (f.placeOf r) = .ok path ∧
    d.node? path = some (.file n) ∧ d' = d.removeNode path

theorem reporting_eq_error {α : Type} {activity : Activity} {p : Place}
    {outcome : Except Fault α × Disk} (failed : (reporting activity p outcome).1 = .error e) :
    ∃ fault, outcome.1 = .error fault := by
  obtain ⟨fault | _, _⟩ := outcome
  · exact ⟨fault, rfl⟩
  · cases failed

theorem grows_withParent {α : Type} {activity : Activity} {p : Place}
    {go : Disk → Except Failure α × Disk}
    (grows : ∀ d₁, Disk.Grows d d₁ → (go d₁).1 = .error e → Disk.Grows d₁ (go d₁).2)
    (failed : (withParent activity p d go).1 = .error e) :
    Disk.Grows d (withParent activity p d go).2 := by
  obtain ⟨d₁, made, ⟨e', stopped⟩ | went⟩ := withParent_cases activity p d go
  · rw [stopped]
    exact made
  · rw [went] at failed ⊢
    exact made.trans (grows d₁ made failed)

theorem isFile_removeNode {path : List PathText} {n : Nat}
    (file : d.isFile (f.placeOf target) = true) (found : d.locate (f.placeOf target) = .ok path)
    (node : d.node? path = some (.file n))
    (other : (f.placeOf source).same (f.placeOf target) = false) :
    (d.removeNode path).isFile (f.placeOf source) = d.isFile (f.placeOf source) := by
  rw [← Disk.contentOf_isSome, contentOf_removeNode file found node other, Disk.contentOf_isSome]

/-- What a call has done that goes on once the directory is there and the file
is not: it has removed a file, or made directories. -/
theorem replaced_cases {α : Type} (closed : d.Closed) (stands : f.Stands d) (activity : Activity)
    (target : Resource) (go : Disk → Except Failure α × Disk) :
    let outcome := withParent activity (f.placeOf target) d fun d =>
      replacing activity (f.placeOf target) d go
    (d.isFile (f.placeOf target) = true ∧ ∃ path n, d.locate (f.placeOf target) = .ok path ∧
      d.node? path = some (.file n) ∧ (f.placeOf target).wantsDirectory = false ∧
      outcome = go (d.removeNode path)) ∨
    (d.isFile (f.placeOf target) = false ∧ ∃ d₁, Disk.Grows d d₁ ∧
      ((∃ e, outcome = (.error e, d₁)) ∨ outcome = go d₁)) := by
  intro outcome
  cases file : d.isFile (f.placeOf target) with
  | true =>
    obtain ⟨path, n, found, node, plain⟩ := exists_of_isFile file
    refine .inl ⟨rfl, path, n, found, node, plain, ?_⟩
    exact (withParent_of_isFile activity file).trans (replacing_of_isFile found file)
  | false =>
    obtain ⟨d₁, grows, stopped | went⟩ := withParent_cases activity (f.placeOf target) d
      fun d => replacing activity (f.placeOf target) d go
    · exact .inr ⟨rfl, d₁, grows, .inl stopped⟩
    · have nothing : d₁.isFile (f.placeOf target) = false :=
        (isFile_of_grows closed stands grows target).trans file
      exact .inr ⟨rfl, d₁, grows, .inr (went.trans (replacing_of_not_isFile nothing))⟩

/-- A failing copy has removed the target for want of a source, or has at most
made directories. -/
theorem copy_of_error (closed : d.Closed) (stands : f.Stands d)
    (failed : (f.copy source target d).1 = .error e) :
    f.Spoils d (.copy source target) ∧ f.Removed target d (f.copy source target d).2 ∨
      ¬ f.Spoils d (.copy source target) ∧ Disk.Grows d (f.copy source target d).2 := by
  unfold copy at failed ⊢
  dsimp only at failed ⊢
  split at failed
  · cases failed
  next apart =>
  rw [if_neg apart]
  obtain ⟨file, path, n, found, node, plain, went⟩ | ⟨file, d₁, grows, outcome⟩ :=
    replaced_cases closed stands .copy target fun d =>
      reporting .copy (f.placeOf source) (d.copyFile (f.placeOf source) (f.placeOf target))
  · rw [went] at failed ⊢
    obtain ⟨fault, failed⟩ := reporting_eq_error failed
    cases given : d.isFile (f.placeOf source) with
    | true =>
      obtain ⟨room, empty⟩ := room_of_removeNode found node
      have still := isFile_removeNode file found node (by simpa using apart) |>.trans given
      cases (Disk.copyFile_of_free still room plain empty).symm.trans failed
    | false =>
      refine .inl ⟨⟨file, given⟩, file, path, n, found, node, ?_⟩
      rw [snd_reporting, Disk.copyFile_of_error failed]
  · refine .inr ⟨fun spoils => by simp [Spoils, file] at spoils, ?_⟩
    obtain ⟨e', stopped⟩ | went := outcome
    · rw [stopped]
      exact grows
    · rw [went] at failed ⊢
      obtain ⟨fault, failed⟩ := reporting_eq_error failed
      rw [snd_reporting, Disk.copyFile_of_error failed]
      exact grows

theorem openWriter_of_error (failed : (f.openWriter r d).1 = .error e) :
    Disk.Grows d (f.openWriter r d).2 := by
  unfold openWriter at failed ⊢
  refine grows_withParent (fun d₁ _ failed => ?_) failed
  have same (fault : Fault) : (d₁.create (f.placeOf r)).1 = .error fault →
      (d₁.create (f.placeOf r)).2 = d₁ := Disk.create_of_error
  generalize d₁.create (f.placeOf r) = outcome at failed same ⊢
  obtain ⟨_ | _, d₂⟩ := outcome
  · exact same _ rfl ▸ .refl d₂
  · cases failed

theorem createFile_of_error (failed : (f.createFile r d).1 = .error e) :
    Disk.Grows d (f.createFile r d).2 := by
  unfold createFile at failed ⊢
  refine grows_withParent (fun d₁ _ failed => ?_) failed
  have same (fault : Fault) : (d₁.openForWriting (f.placeOf r)).1 = .error fault →
      (d₁.openForWriting (f.placeOf r)).2 = d₁ := Disk.openForWriting_of_error
  generalize d₁.openForWriting (f.placeOf r) = outcome at failed same ⊢
  obtain ⟨_ | _, d₂⟩ := outcome
  · exact same _ rfl ▸ .refl d₂
  · cases failed

theorem mkdirs_grows (f : Files) (r : Resource) (d : Disk) : Disk.Grows d (f.mkdirs r d).2 := by
  rw [mkdirs, snd_reporting]
  exact Disk.grows_makeDirectories _ d

theorem delete_of_error (failed : (f.delete r d).1 = .error e) : (f.delete r d).2 = d := by
  have same (fault : Fault) : (if d.isDirectory (f.placeOf r) then
      d.removeDirectory (f.placeOf r) else d.removeFile (f.placeOf r)).1 = .error fault →
      (if d.isDirectory (f.placeOf r) then
        d.removeDirectory (f.placeOf r) else d.removeFile (f.placeOf r)).2 = d := by
    split
    · exact Disk.removeDirectory_of_error
    · exact Disk.removeFile_of_error
  unfold delete at failed ⊢
  dsimp only at failed ⊢
  generalize (if d.isDirectory (f.placeOf r) then
    d.removeDirectory (f.placeOf r) else d.removeFile (f.placeOf r)) = outcome at same failed ⊢
  split
  · simp_all
  · exact same _ rfl
  · exact same _ rfl

theorem createAlias_of_error (closed : d.Closed) (stands : f.Stands d)
    (failed : (f.createAlias source target d).1.1 = .error e) :
    f.Spoils d (.createAlias source target) ∧ f.Removed target d (f.createAlias source target d).2 ∨
      ¬ f.Spoils d (.createAlias source target) ∧
        Disk.Grows d (f.createAlias source target d).2 := by
  unfold createAlias at failed ⊢
  dsimp only at failed ⊢
  split at failed
  · cases failed
  next proceed =>
  rw [if_neg proceed]
  have given : d.isFile (f.placeOf source) = true := by
    simp_all
  split at failed
  · next copies =>
    rw [if_pos copies]
    obtain ⟨⟨_, none_given⟩, _⟩ | ⟨_, grows⟩ := copy_of_error closed stands failed
    · cases given.symm.trans none_given
    · exact .inr ⟨fun spoils => by simp [Spoils] at spoils; simp_all, grows⟩
  next links =>
  rw [if_neg links]
  obtain ⟨file, path, n, found, node, plain, went⟩ | ⟨file, d₁, grows, outcome⟩ :=
    replaced_cases (α := Unit) closed stands .createAlias target fun d => (.ok (), d)
  · rw [went] at failed ⊢
    dsimp only at failed ⊢
    rw [snd_reporting]
    obtain ⟨fault, failed⟩ := reporting_eq_error failed
    rw [Disk.link_of_error failed]
    cases same : (f.placeOf source).same (f.placeOf target) with
    | true => exact .inl ⟨⟨by simpa using links, file, same⟩, file, path, n, found, node, rfl⟩
    | false =>
      obtain ⟨room, empty⟩ := room_of_removeNode found node
      have still := isFile_removeNode file found node same |>.trans given
      cases (Disk.link_of_free still room plain empty).symm.trans failed
  · refine .inr ⟨fun spoils => by simp [Spoils, file] at spoils, ?_⟩
    obtain ⟨e', stopped⟩ | went := outcome
    · rw [stopped]
      exact grows
    · rw [went] at failed ⊢
      dsimp only at failed ⊢
      obtain ⟨fault, failed⟩ := reporting_eq_error failed
      rw [snd_reporting, Disk.link_of_error failed]
      exact grows

/-- What a failing request has done on a closed disk. -/
theorem run_of_error (closed : d.Closed) (stands : f.Stands d) {q : Request}
    (failed : (q.run f.backend d).1 = .error e) :
    f.Spoils d q ∧ f.Removed q.target d (q.run f.backend d).2 ∨
      ¬ f.Spoils d q ∧ Disk.Grows d (q.run f.backend d).2 := by
  cases q <;> replace failed := Request.keeping_eq_error_iff.1 failed
  case openWriter r => exact .inr ⟨id, openWriter_of_error failed⟩
  case copy source target => exact copy_of_error closed stands failed
  case delete r =>
    refine .inr ⟨id, ?_⟩
    rw [Request.run, Request.snd_keeping]
    exact (delete_of_error failed).symm ▸ .refl d
  case mkdirs r =>
    refine .inr ⟨id, ?_⟩
    rw [Request.run, Request.snd_keeping]
    exact mkdirs_grows f r d
  case createFile r => exact .inr ⟨id, createFile_of_error failed⟩
  case createAlias source target => exact createAlias_of_error closed stands failed

/-! ## What is left of the content -/

/-- A failing request takes at most the content at the place of its target, and
that exactly if it spoils it. -/
theorem keeps_run_of_error (closed : d.Closed) (stands : f.Stands d) {q : Request}
    (failed : (q.run f.backend d).1 = .error e) :
    ((∀ r, f.backend.Keeps r d (q.run f.backend d).2) ↔ ¬ f.Spoils d q) ∧
      ∀ r, (f.placeOf r).same (f.placeOf q.target) = false →
        f.backend.Keeps r d (q.run f.backend d).2 := by
  obtain ⟨spoils, file, path, n, found, node, removed⟩ | ⟨spared, grows⟩ :=
    run_of_error closed stands failed
  · rw [removed]
    refine ⟨iff_of_false (fun keeps => ?_) (not_not_intro spoils), fun r other => ?_⟩
    · have lost := keeps_iff.1 (keeps q.target)
      rw [Disk.contentOf_removeNode_self found node, eq_comm, Disk.contentOf_eq_none_iff] at lost
      cases file.symm.trans lost
    · exact keeps_iff.2 (contentOf_removeNode file found node other)
  · have keeps (r : Resource) : f.backend.Keeps r d (q.run f.backend d).2 :=
      keeps_iff.2 (contentOf_of_grows closed stands grows r)
    exact ⟨iff_of_true keeps spared, fun r _ => keeps r⟩

end Files

/-- **A request that fails changes no content**: in memory always, and on disk
exactly unless it removes the file at its target first. Even then the content
at all other places is kept. -/
theorem failed_request_keeps_iff (q : Request) (e : Failure) :
    (∀ (linking : Bool) (m : Memory), (q.run (Memory.backend linking) m).1 = .error e →
      ∀ r, (Memory.backend linking).Keeps r m (q.run (Memory.backend linking) m).2) ∧
    (∀ (f : Files) (d₀ : Disk) (calls : List Call),
      let d := (Usage.after f.backend d₀ calls).store
      d₀.Closed → f.HasHome d₀ calls → f.Stands d → (q.run f.backend d).1 = .error e →
      ((∀ r, f.backend.Keeps r d (q.run f.backend d).2) ↔ ¬ f.Spoils d q) ∧
        ∀ r, (f.placeOf r).same (f.placeOf q.target) = false →
          f.backend.Keeps r d (q.run f.backend d).2) := by
  refine ⟨fun linking m failed r => ?_, fun f d₀ calls => ?_⟩
  · rw [Memory.run_of_error failed]
    exact .refl _ r m
  · intro d closed home stands failed
    exact Files.keeps_run_of_error (Files.closed_after closed home) stands failed

/-- No directory can be made where there is a file, and the file is kept. -/
theorem failed_request_keeps_written_file :
    let f : Files := { root := "/cache" }
    let r : Resource := .ofText { name := "local", uri := "file:///srv/local" } "a/b"
    let calls : List Call := [.ask (.openWriter r), .write 0 [120], .close 0]
    let d := (Usage.after f.backend {} calls).store
    let m := (Usage.after (Memory.backend true) .empty calls).store
    ((Request.mkdirs r).run f.backend d).1 =
        .error (Files.fail .mkdirs (f.placeOf r) .alreadyExists) ∧
      ((Request.mkdirs r).run (Memory.backend true) m).1 =
        .error (Memory.refuse .mkdirs r .file) ∧
      f.backend.content? r ((Request.mkdirs r).run f.backend d).2 = some [120] ∧
      (Memory.backend true).content? r ((Request.mkdirs r).run (Memory.backend true) m).2 =
        some [120] ∧
      ∀ q, f.backend.Keeps q d ((Request.mkdirs r).run f.backend d).2 := by
  intro f r calls d m
  have failed : ((Request.mkdirs r).run f.backend d).1 =
      .error (Files.fail .mkdirs (f.placeOf r) .alreadyExists) := by decide +kernel
  have refused : ((Request.mkdirs r).run (Memory.backend true) m).1 =
      .error (Memory.refuse .mkdirs r .file) := by decide +kernel
  have stands : f.Stands d := Files.stands_of_forward (by decide) (by decide)
  have keeps := ((failed_request_keeps_iff (.mkdirs r) _).2 f {} calls Disk.closed_empty
    (Files.hasHome_of_isAbsolute (by decide) _ _) stands failed).1.2 id
  refine ⟨failed, refused, ?_, ?_, keeps⟩
  · have written : f.backend.content? r d = some [120] := by decide +kernel
    exact (keeps r).content.trans written
  · have written : (Memory.backend true).content? r m = some [120] := by decide +kernel
    exact ((failed_request_keeps_iff (.mkdirs r) _).1 true m refused r).content.trans written

/-- A copy from nowhere removes its target, and so does a link of a file to
itself under another spelling. -/
theorem file_lost_to_failed_request :
    let copying : Files := { root := "/cache" }
    let linking : Files := { root := "/cache", linking := true }
    let r : String → Resource := .ofText { name := "local", uri := "file:///srv/local" }
    let fill (q : Resource) : List Call := [.ask (.openWriter q), .write 0 [120], .close 0]
    let d := (Usage.after copying.backend {} (fill (r "b"))).store
    let copied := (Request.copy (r "a") (r "b")).run copying.backend d
    let spelled : Resource := .ofText { name := "x", uri := "x" } "a"
    let respelled : Resource := .ofText { name := "all", uri := "" } "x/a"
    let d' := (Usage.after linking.backend {} (fill spelled)).store
    let linked := (Request.createAlias spelled respelled).run linking.backend d'
    (copied.1 = .error (Files.fail .copy (copying.placeOf (r "a")) .notFound) ∧
      copying.backend.content? (r "b") d = some [120] ∧
      copying.backend.content? (r "b") copied.2 = none) ∧
    linked.1 = .error (Files.fail .createAlias (linking.placeOf spelled) .notFound) ∧
      linking.backend.content? spelled d' = some [120] ∧
      linking.backend.content? spelled linked.2 = none := by
  intro copying linking r fill d copied spelled respelled d' linked
  refine ⟨⟨?_, ?_, ?_⟩, ?_, ?_, ?_⟩ <;> decide +kernel

end ArtifactCache
