import ArtifactCache.Proofs.Absence
import ArtifactCache.Proofs.DirectoryNames
import ArtifactCache.Proofs.Failing
import ArtifactCache.Proofs.Filling
import ArtifactCache.Proofs.Firing
import ArtifactCache.Proofs.Listing
import ArtifactCache.Proofs.Outcomes
import ArtifactCache.Proofs.SearchOrder

/-!
# Deleting everywhere

A path is deleted at one location after the other, whatever fails, and the report has one
outcome for each.

* `Search.round_of_deleteAll`: the calls of any supplier, and what is told of their answers;
* `Attempt`, `Attempts`: what the attempts make of a store. `Backend.Deletes` says what a
  deletion does in both stores: it makes no file and leaves none, and does nothing unless it
  is told as done. On disk the files of other places stay as long as the way to the root leads
  somewhere (`Files.contentOf_delete`), for whatever the disk holds beside the store;
* `Search.TellsTruth`: what the report and the events of a plain cache say, and what is left.
-/
namespace ArtifactCache

/-! ## One deletion on disk -/

namespace Disk
variable {d d' : Disk} {p : Place} {dir last path : List PathText} {name : PathText} {n : Node}

/-- Where a way leads forward to something, there is something in the directory it begins at. -/
theorem exists_child_of_follow {way : List PathText} (forward : ∀ x ∈ way, x ≠ .text "..")
    (ends : d.follow dir way = .ok last) (child : d.node? (last ++ [name]) = some n) :
    ∃ name n, d.node? (dir ++ [name]) = some n := by
  induction way generalizing dir with
  | nil =>
    obtain rfl := Except.ok.inj ends
    exact ⟨name, n, child⟩
  | cons x rest ih =>
    obtain ⟨forward_x, forward_rest⟩ := List.forall_mem_cons.1 forward
    obtain ⟨next, stepped, directory, further⟩ := follow_cons_eq_ok_iff.1 ends
    by_cases dot : x = .text "."
    · subst dot
      obtain rfl := Except.ok.inj stepped
      exact ih forward_rest further
    · rw [step_of_forward forward_x (size_le_of_step stepped)] at stepped
      obtain rfl := Except.ok.inj stepped
      exact ⟨x, .directory, by simpa [moves, dot] using directory⟩

/-- A way that leads forward to something does not go through an empty directory. -/
theorem follow_removeNode {way : List PathText} (forward : ∀ x ∈ way, x ≠ .text "..")
    (empty : d.children path = []) (ends : d.follow dir way = .ok last)
    (child : d.node? (last ++ [name]) = some n) :
    (d.removeNode path).follow dir way = .ok last := by
  induction way generalizing dir with
  | nil => exact ends
  | cons x rest ih =>
    obtain ⟨_, forward_rest⟩ := List.forall_mem_cons.1 forward
    obtain ⟨next, stepped, directory, further⟩ := follow_cons_eq_ok_iff.1 ends
    have other : next ≠ path := by
      rintro rfl
      obtain ⟨name, n, there⟩ := exists_child_of_follow forward_rest further child
      have mem : name ∈ d.children next := mem_children.2 (by simp [there])
      simp [empty] at mem
    refine follow_cons_eq_ok_iff.2 ⟨next, stepped, ?_, ih forward_rest further⟩
    rw [node?_removeNode, if_neg (fun eq => other eq.2.symm)]
    exact directory

theorem Shrinks.trans {d₁ : Disk} (first : Shrinks d d₁) (second : Shrinks d₁ d') :
    Shrinks d d' where
  node path n there := first.node path n (second.node path n there)
  workingDirectory := second.workingDirectory.trans first.workingDirectory

/-- Where less is there, no file appears. -/
theorem Shrinks.stat_file (shrinks : Shrinks d d') {n : Nat} (file : d'.stat p = .ok (.file n)) :
    d.stat p = .ok (.file n) := by
  obtain ⟨path, found, node, plain⟩ := stat_eq_file_iff.1 file
  exact stat_eq_file_iff.2 ⟨path, shrinks.passable.locate found, shrinks.node path _ node, plain⟩

end Disk

namespace Files
variable {f : Files} {d d' : Disk} {r q : Resource}

/-- The way to the root leads through directories as far as it leads up. -/
def LeadsUp (f : Files) (d : Disk) : Prop :=
  ∃ up down dir, Place.stepsOf (.text f.root) = up ++ down ∧ (∀ name ∈ down, name ≠ .text "..") ∧
    d.follow (d.start { base := .text f.root }) up = .ok dir

theorem leadsUp_of_forward (forward : ∀ name ∈ Place.stepsOf (.text f.root), name ≠ .text "..")
    (d : Disk) : f.LeadsUp d := ⟨[], _, _, rfl, forward, rfl⟩

theorem LeadsUp.anti (leads : f.LeadsUp d') (shrinks : Disk.Shrinks d d') : f.LeadsUp d := by
  obtain ⟨up, down, dir, root, forward, ends⟩ := leads
  refine ⟨up, down, dir, root, forward, ?_⟩
  rw [shrinks.passable.start]
  exact shrinks.passable.follow ends

/-- No file goes with an empty directory, unless the way to the root leads up through it. -/
theorem stat_removeNode_of_empty {path : List PathText} {n : Nat}
    (directory : d.node? path = some .directory) (empty : d.children path = [])
    (leads : f.LeadsUp (d.removeNode path)) (file : d.stat (f.placeOf q) = .ok (.file n)) :
    (d.removeNode path).stat (f.placeOf q) = .ok (.file n) := by
  obtain ⟨place, found, node, plain⟩ := Disk.stat_eq_file_iff.1 file
  obtain ⟨accepted, mid, ends, last⟩ := Disk.locate_eq_ok_iff.1 found
  obtain none_left | ⟨init, name, trail⟩ := List.eq_nil_or_concat q.trail
  · exact absurd none_left (trail_ne_nil_of_isFile (Disk.isFile_iff.2 ⟨n, file⟩))
  rw [List.concat_eq_append] at trail
  have steps : (f.placeOf q).steps = (Place.stepsOf f.root ++ init) ++ [name] := by
    rw [steps_placeOf, trail, List.append_assoc]
  rw [steps, List.getLast?_concat] at last
  rw [steps, List.dropLast_concat] at ends
  obtain rfl := Disk.step_of_down (Resource.isDown_of_mem_trail (r := q) (by simp [trail])) last
  -- The way up can be followed as before, and from there it leads forward to the file.
  obtain ⟨up, down, dir, root, forward, leads⟩ := leads
  have same := (Disk.shrinks_removeNode d path).passable
  have start : (d.removeNode path).start (f.placeOf q) = d.start (f.placeOf q) :=
    (same.start _).symm
  rw [root, List.append_assoc] at ends
  obtain ⟨dir', begins, further⟩ := Disk.follow_append_eq_ok_iff.1 ends
  obtain rfl : dir' = dir := by
    have before := same.follow leads
    rw [← same.start] at before
    exact Except.ok.inj (begins.symm.trans before)
  have way := Disk.follow_removeNode (PathText.forward_append forward fun x mem =>
    Resource.isDown_of_mem_trail (r := q) (by simp [trail, mem])) empty further node
  have other : path ≠ mid ++ [name] := by
    rintro rfl
    cases directory.symm.trans node
  refine Disk.stat_eq_file_iff.2 ⟨mid ++ [name], ?_, ?_, plain⟩
  · refine Disk.locate_eq_ok_iff.2 ⟨accepted, mid, ?_, ?_⟩
    · rw [steps, List.dropLast_concat, root, List.append_assoc]
      exact Disk.follow_append_eq_ok_iff.2 ⟨dir', leads, way⟩
    · rw [steps, List.getLast?_concat]
      exact last
  · rw [Disk.node?_removeNode, if_neg fun eq => other eq.2]
    exact node

/-- Whatever the disk, a deletion does nothing, or takes away a file or an empty directory. -/
theorem delete_eq (f : Files) (r : Resource) (d : Disk) :
    (∃ answer, f.delete r d = (answer, d) ∧ answer ≠ .ok true ∧
      (answer = .ok false → d.isFile (f.placeOf r) = false)) ∨
    ∃ path, f.delete r d = (.ok true, d.removeNode path) ∧
      d.locate (f.placeOf r) = .ok path ∧
      (d.isFile (f.placeOf r) = true ∧ (∃ n, d.node? path = some (.file n)) ∨
        d.node? path = some .directory ∧ d.children path = []) := by
  cases there : d.stat (f.placeOf r) with
  | error fault =>
    have nothing : d.isFile (f.placeOf r) = false := by simp [Disk.isFile, there]
    by_cases missing : fault = .notFound
    · subst missing
      exact .inl ⟨_, delete_of_notFound there, by simp, fun _ => nothing⟩
    · exact .inl ⟨_, delete_of_stat_error there missing, by simp, fun _ => nothing⟩
  | ok node =>
    cases node with
    | file n =>
      have file := Disk.isFile_iff.2 ⟨n, there⟩
      obtain ⟨path, found, node, _⟩ := Disk.stat_eq_file_iff.1 there
      refine .inr ⟨path, ?_, found, .inl ⟨file, n, node⟩⟩
      simp [delete, Disk.isDirectory, Disk.removeFile, there, found]
    | directory =>
      obtain ⟨path, found, node⟩ := Disk.stat_eq_directory_iff.1 there
      by_cases empty : d.children path = []
      · refine .inr ⟨path, ?_, found, .inr ⟨node, empty⟩⟩
        simp [delete, Disk.isDirectory, Disk.removeDirectory, there, found, empty]
      · refine .inl ⟨.error (fail .delete (f.placeOf r) .directoryNotEmpty), ?_, by simp, by simp⟩
        simp [delete, Disk.isDirectory, Disk.removeDirectory, there, found, empty]

/-- What is at other places stays there, unless the way to the root leads up through what is
deleted. -/
theorem contentOf_delete (other : (f.placeOf q).same (f.placeOf r) = false)
    (leads : f.LeadsUp (f.delete r d).2) :
    (f.delete r d).2.contentOf (f.placeOf q) = d.contentOf (f.placeOf q) := by
  obtain ⟨answer, same, _⟩ | ⟨path, removed, found, ⟨file, n, node⟩ | ⟨directory, empty⟩⟩ :=
    delete_eq f r d
  · rw [same]
  · rw [removed]
    exact contentOf_removeNode file found node other
  · rw [removed] at leads ⊢
    cases before : d.isFile (f.placeOf q) with
    | true =>
      obtain ⟨n, stat⟩ := Disk.isFile_iff.1 before
      rw [Disk.contentOf_of_file stat,
        Disk.contentOf_of_file (stat_removeNode_of_empty directory empty leads stat)]
      rfl
    | false =>
      rw [Disk.contentOf_eq_none_iff.2 before, Disk.contentOf_eq_none_iff]
      cases after : (d.removeNode path).isFile (f.placeOf q) with
      | false => rfl
      | true =>
        obtain ⟨n, stat⟩ := Disk.isFile_iff.1 after
        have stat := (Disk.shrinks_removeNode d path).stat_file stat
        rw [Disk.isFile_iff.2 ⟨n, stat⟩] at before
        cases before

end Files

/-! ## What deletions do in both stores -/

section
variable {S R W : Type} {b : Backend S R W} {r : Resource} {o : DeleteOutcome} {s s' : S}

/-- What a deletion does to a store: it makes no file, leaves none, and does nothing if it is
not told as done. -/
structure Backend.Deletes (b : Backend S R W) : Prop where
  idle (r : Resource) (s : S) : (b.delete r s).1 ≠ .ok true → (b.delete r s).2 = s
  gone (r : Resource) (s : S) (there : Bool) : (b.delete r s).1 = .ok there →
    b.isFile r (b.delete r s).2 = false
  none_made (r q : Resource) (s : S) : b.isFile q (b.delete r s).2 = true → b.isFile q s = true

/-- An attempt to delete, by what is told of it, and what it makes of the store. -/
inductive Attempt (b : Backend S R W) (r : Resource) (s : S) : DeleteOutcome → S → Prop
  | deleted {s' : S} : b.delete r s = (.ok true, s') → Attempt b r s .deleted s'
  | absent : b.delete r s = (.ok false, s) → Attempt b r s .absent s
  | failed {e : Failure} : b.delete r s = (.error e, s) → Attempt b r s (.failed e) s

/-- Attempts one after the other. -/
inductive Attempts (b : Backend S R W) : List (Resource × DeleteOutcome) → S → S → Prop
  | nil (s : S) : Attempts b [] s s
  | cons {r : Resource} {o : DeleteOutcome} {outcomes : List (Resource × DeleteOutcome)}
      {s s₁ s' : S} : Attempt b r s o s₁ → Attempts b outcomes s₁ s' →
      Attempts b ((r, o) :: outcomes) s s'

theorem Attempt.store_eq (attempt : Attempt b r s o s') : s' = (b.delete r s).2 := by
  cases attempt with
  | deleted eq | absent eq | failed eq => rw [eq]

theorem Attempts.isFile_mono (deletes : b.Deletes)
    {outcomes : List (Resource × DeleteOutcome)} (attempts : Attempts b outcomes s s')
    {q : Resource} (file : b.isFile q s' = true) : b.isFile q s = true := by
  induction attempts with
  | nil => exact file
  | cons attempt _ ih =>
    apply deletes.none_made
    rw [← attempt.store_eq]
    exact ih file

/-- What was deleted or absent is no file at the end, even if others follow. -/
theorem Attempts.gone (deletes : b.Deletes) {outcomes : List (Resource × DeleteOutcome)}
    (attempts : Attempts b outcomes s s') (mem : (r, o) ∈ outcomes)
    (succeeded : o = .deleted ∨ o = .absent) : b.isFile r s' = false := by
  induction attempts with
  | nil => cases mem
  | @cons q o' rest s s₁ s' attempt further ih =>
    obtain here | later := List.mem_cons.1 mem
    · obtain ⟨rfl, rfl⟩ := Prod.mk.inj here
      have now : b.isFile r s₁ = false := by
        cases attempt with
        | deleted eq => simpa [eq] using deletes.gone r s true (by rw [eq])
        | absent eq => simpa [eq] using deletes.gone r s false (by rw [eq])
        | failed => simp at succeeded
      cases after : b.isFile r s' with
      | false => rfl
      | true => exact absurd (further.isFile_mono deletes after) (by simp [now])
    · exact ih later

end

namespace Memory
variable {m : Memory} {r q : Resource}

theorem deletes (linking : Bool) : (backend linking).Deletes where
  idle r m other := by
    simp only [backend, delete] at other ⊢
    split at other
    · simp at other
    · next noFile =>
      split at other
      · next beneath => simp [noFile, beneath]
      · next free =>
        have unlisted : r.address ∉ m.directories := by simpa using other
        simp [noFile, free, List.erase_of_not_mem unlisted]
  gone r m _ _ := by
    change (m.delete r).2.isFile r.address = false
    cases file : m.isFile r.address with
    | true =>
      rw [delete, if_pos file]
      simp [isFile, Table.contains, Table.get?_erase]
    | false =>
      cases after : (m.delete r).2.isFile r.address with
      | false => rfl
      | true => exact absurd (isFile_of_isFile_delete after) (by simp [file])
  none_made r q m := isFile_of_isFile_delete

theorem keeps_delete {linking : Bool} (other : q.same r = false) :
    (backend linking).Keeps q m (m.delete r).2 := by
  have apart : r.address ≠ q.address := by
    simpa [Resource.same, eq_comm] using other
  rw [keeps_iff]
  simp only [Numbering.content?, numbering, delete]
  split
  · simp [Table.get?_erase, apart]
  · split <;> rfl

end Memory

namespace Files

theorem deletes (f : Files) : f.backend.Deletes where
  idle r d other := by
    obtain ⟨answer, same, _⟩ | ⟨path, removed, _⟩ := delete_eq f r d
    · exact congrArg Prod.snd same
    · exact absurd (congrArg Prod.fst removed) other
  gone r d there done := by
    change (f.delete r d).1 = _ at done
    change (f.delete r d).2.isFile (f.placeOf r) = false
    obtain ⟨answer, same, failed, absent⟩ | ⟨path, removed, found, node⟩ := delete_eq f r d
    · rw [same] at done ⊢
      cases there with
      | false => exact absent done
      | true => exact absurd done failed
    · rw [removed]
      cases after : (d.removeNode path).isFile (f.placeOf r) with
      | false => rfl
      | true =>
        obtain ⟨n, stat⟩ := Disk.isFile_iff.1 after
        obtain ⟨path', found', node', _⟩ := Disk.stat_eq_file_iff.1 stat
        have before := (Disk.shrinks_removeNode d path).passable.locate found'
        obtain rfl : path' = path := Except.ok.inj (before.symm.trans found)
        rw [Disk.node?_removeNode] at node'
        by_cases top : path' = []
        · subst top
          simp [Disk.node?] at node'
        · simp [top] at node'
  none_made r q d file := by
    obtain ⟨n, stat⟩ := Disk.isFile_iff.1 file
    exact Disk.isFile_iff.2 ⟨n, (shrinks_delete f r d).stat_file stat⟩

theorem shrinks_attempts {f : Files} {d d' : Disk} {outcomes : List (Resource × DeleteOutcome)}
    (attempts : Attempts f.backend outcomes d d') : Disk.Shrinks d d' := by
  induction attempts with
  | nil d => exact .refl d
  | cons attempt _ ih =>
    apply Disk.Shrinks.trans _ ih
    rw [attempt.store_eq]
    exact shrinks_delete f _ _

end Files
/-! ## Deleting everywhere -/

namespace Program

theorem Leads.and {σ α : Type} {p : Program σ α} {s : σ} {such such' : α → σ → Prop}
    (leads : p.Leads s such) (leads' : p.Leads s such') :
    p.Leads s fun v e => such v e ∧ such' v e :=
  fun v e ends => ⟨leads v e ends, leads' v e ends⟩

/-- A program that runs to its end has fired what it fires. -/
theorem Fires.leads {S α : Type} {p : Action S α} {begun : List Event}
    {post : α → List Event → Prop} (fires : p.Fires post begun) (w : World S) :
    p.Leads w fun v w' => ∃ more, w'.events = w.events ++ more ∧ post v (begun ++ more) := by
  induction p generalizing begun w with
  | done v =>
    refine leads_pure ⟨[], by simp, ?_⟩
    rwa [List.append_nil]
  | step act next ih =>
    intro v e ends
    rw [run] at ends
    split at ends
    · cases ends
    · next b w₁ admits =>
      obtain ⟨more, events, _, fires⟩ := fires w b w₁ admits
      obtain ⟨more', events', fits⟩ := ih b fires w₁ v e ends
      refine ⟨more ++ more', ?_, ?_⟩
      · rw [events', events, List.append_assoc]
      · rwa [← List.append_assoc]

end Program

namespace Search

/-- What is told of the answer of a deletion. -/
inductive Told : Except Failure Bool → DeleteOutcome → Prop
  | deleted : Told (.ok true) .deleted
  | absent : Told (.ok false) .absent
  | failed (e : Failure) : Told (.error e) (.failed e)

/-- What a deletion everywhere says of a location where it has failed. -/
def lamenting {S : Type} (r : Resource) (e : Failure) : Action S Unit :=
  Action.say .debug .search ("Failed to delete " ++ r.display ++ ": " ++ e.message)

/-- The event of an attempt. Absence is none. -/
def eventOf (m : Metadata) : Resource × DeleteOutcome → Option Event
  | (r, .deleted) => some (.deletion r m)
  | (r, .failed e) => some (.error r e.message m)
  | (_, .absent) => none

section
variable {S H : Type} {supplier : Supplier S H} {m : Metadata} {others : World S → World S → Prop}

theorem round_of_visitDelete {resources : List Resource}
    {outcomes : List (Resource × DeleteOutcome)} {w w' : World S}
    (yields : (deleteAll.visit supplier m resources).Yields others w outcomes w') :
    ∃ calls, Round others (supplier.delete · m) lamenting calls w w' ∧
      calls.map (·.1) = resources ∧ outcomes.map (·.1) = resources ∧
      List.Forall₂ Told (calls.map (·.2)) (outcomes.map (·.2)) := by
  induction resources generalizing w outcomes w' with
  | nil =>
    obtain ⟨rfl, later⟩ := yields.of_pure
    exact ⟨[], .nil later, rfl, rfl, .nil⟩
  | cons r rest ih =>
    have visited {o : DeleteOutcome} {w₁ : World S}
        (going : (do return (r, o) :: (← deleteAll.visit supplier m rest) :
          Action S (List (Resource × DeleteOutcome))).Yields others w₁ outcomes w') :
        ∃ calls later, outcomes = (r, o) :: later ∧
          Round others (supplier.delete · m) lamenting calls w₁ w' ∧
          calls.map (·.1) = rest ∧ later.map (·.1) = rest ∧
          List.Forall₂ Told (calls.map (·.2)) (later.map (·.2)) := by
      obtain ⟨later, w₂, visited, ended⟩ := going.exists_of_bind
      obtain ⟨rfl, moved⟩ := ended.of_pure
      obtain ⟨calls, round, asked, listed, told⟩ := ih visited
      exact ⟨calls, later, rfl, round.later moved, asked, listed, told⟩
    obtain ⟨answer, w₁, asked, going⟩ := yields.exists_of_bind
    obtain e | _ | _ := answer
    · change (do
        lamenting r e
        return (r, .failed e) :: (← deleteAll.visit supplier m rest) :
          Action S (List (Resource × DeleteOutcome))).Yields others w₁ outcomes w' at going
      obtain ⟨_, w₂, said, going⟩ := going.exists_of_bind
      obtain ⟨calls, later, rfl, round, same, listed, told⟩ := visited (o := .failed e) going
      exact ⟨_, .failed asked said round, congrArg (r :: ·) same, congrArg (r :: ·) listed,
        .cons (.failed e) told⟩
    · obtain ⟨calls, later, rfl, round, same, listed, told⟩ := visited (o := .absent) going
      exact ⟨_, .answered asked round, congrArg (r :: ·) same, congrArg (r :: ·) listed,
        .cons .absent told⟩
    · obtain ⟨calls, later, rfl, round, same, listed, told⟩ := visited (o := .deleted) going
      exact ⟨_, .answered asked round, congrArg (r :: ·) same, congrArg (r :: ·) listed,
        .cons .deleted told⟩

/-- A deletion everywhere makes its calls in order, whatever fails, and tells each answer. -/
theorem round_of_deleteAll {spread : Spread} {report : DeleteReport} {w w' : World S}
    (yields : (deleteAll supplier spread m).Yields others w report w') :
    ∃ calls w₁, Round others (supplier.delete · m) lamenting calls w w₁ ∧
      calls.map (·.1) = spread.resources ∧ report.outcomes.map (·.1) = spread.resources ∧
      List.Forall₂ Told (calls.map (·.2)) (report.outcomes.map (·.2)) := by
  obtain ⟨outcomes, w₁, visited, going⟩ := yields.exists_of_bind
  have told : report = ⟨outcomes⟩ := by
    dsimp only at going
    split at going
    · obtain ⟨_, _, _, ended⟩ := going.exists_of_bind
      exact ended.of_pure.1
    · exact going.of_pure.1
  obtain ⟨calls, round, asked, listed, told_each⟩ := round_of_visitDelete visited
  rw [told]
  exact ⟨calls, w₁, round, asked, listed, told_each⟩

end

/-! ## On a cache without hooks -/

section
open Program (leads_pure)
variable {S R W : Type} {c : Cache S R W} {t : Thread} {m : Metadata}

/-- One attempt, with what it fires. -/
theorem leads_delete (plain : c.hooks? = none) (r : Resource) (w : World S) :
    ((c.supplier t).delete r m).Leads w fun answer w' =>
      c.backend.delete r w.storage = (answer, w'.storage) ∧
      w'.events = w.events ++
        (Chore.delete r true m : Chore S).fires (.ofResult .told answer) := by
  have stored := Handle.leads_delete (c.handle r) plain t true m w
  have fires : ((c.supplier t).delete r m).Fires (fun answer b =>
      b = (Chore.delete r true m : Chore S).fires (.ofResult .told answer)) [] :=
    (c.handle r).fires_delete
  have fired := fires.leads w
  refine (stored.and fired).mono ?_
  rintro answer w' ⟨⟨told, storage, _⟩, more, events, due⟩
  refine ⟨Prod.ext told.symm storage.symm, ?_⟩
  rw [events, ← List.nil_append more, due]

/-- A line of the log is no event. -/
theorem leads_remark (level : Level) (speaker : Speaker) (text : String) (w : World S) :
    (Action.say level speaker text).Leads w fun _ w' => w.Still w' ∧ w'.events = w.events := by
  apply (leads_say level speaker text w).and
  intro v w' ends
  have silent : (Action.say level speaker text : Action S Unit).Silent fun _ => True :=
    unseen_say level speaker text
  exact (silent.of_run ends).1

/-- The attempts of a deletion everywhere, and the events of them. -/
structure Attempted (b : Backend S R W) (m : Metadata) (resources : List Resource) (w : World S)
    (outcomes : List (Resource × DeleteOutcome)) (w' : World S) : Prop where
  resources : outcomes.map (·.1) = resources
  attempts : Attempts b outcomes w.storage w'.storage
  events : w'.events = w.events ++ outcomes.filterMap (eventOf m)

theorem leads_visitDelete (plain : c.hooks? = none) (deletes : c.backend.Deletes)
    (resources : List Resource) (w : World S) :
    (deleteAll.visit (c.supplier t) m resources).Leads w
      (Attempted c.backend m resources w) := by
  induction resources generalizing w with
  | nil => exact leads_pure ⟨rfl, .nil _, by simp⟩
  | cons r rest ih =>
    -- The rest follows upon the outcome `o`, behind a state as the attempt has left it.
    have visited {o : DeleteOutcome} {s : S} {w₁ : World S}
        (attempt : Attempt c.backend r w.storage o s) (storage : w₁.storage = s)
        (events : w₁.events = w.events ++ (eventOf m (r, o)).toList) :
        (do return (r, o) :: (← deleteAll.visit (c.supplier t) m rest) :
          Action S (List (Resource × DeleteOutcome))).Leads w₁
          (Attempted c.backend m (r :: rest) w) := by
      refine (ih w₁).bind fun later w' done => leads_pure ?_
      subst storage
      refine ⟨congrArg (r :: ·) done.resources, .cons attempt done.attempts, ?_⟩
      rw [done.events, events, List.append_assoc, List.filterMap_cons]
      cases eventOf m (r, o) <;> rfl
    refine (leads_delete plain r w).bind fun answer w₁ ⟨deleted, events⟩ => ?_
    have idle (other : answer ≠ .ok true) : w₁.storage = w.storage := by
      have same := deletes.idle r w.storage
      rw [deleted] at same
      exact same other
    obtain e | _ | _ := answer
    · rw [idle (by simp)] at deleted
      change (do
        lamenting r e
        return (r, .failed e) :: (← deleteAll.visit (c.supplier t) m rest) :
          Action S (List (Resource × DeleteOutcome))).Leads w₁ _
      refine (leads_remark _ _ _ w₁).bind fun _ w₂ ⟨still, quiet⟩ => ?_
      exact visited (.failed deleted) (still.storage.trans (idle (by simp))) (quiet.trans events)
    · rw [idle (by simp)] at deleted
      exact visited (.absent deleted) (idle (by simp)) events
    · exact visited (.deleted deleted) rfl events

/-- The report of a deletion everywhere tells what was attempted and fired, what is left, and
whether all succeeded. -/
structure TellsTruth (b : Backend S R W) (spread : Spread) (m : Metadata) (w : World S)
    (report : DeleteReport) (w' : World S) : Prop where
  attempted : Attempted b m spread.resources w report.outcomes w'
  gone (r : Resource) (o : DeleteOutcome) : (r, o) ∈ report.outcomes →
    o = .deleted ∨ o = .absent → b.isFile r w'.storage = false
  succeeded : report.allSucceeded = true ↔ ∀ told ∈ report.outcomes, ∀ e, told.2 ≠ .failed e

theorem allSucceeded_iff (report : DeleteReport) :
    report.allSucceeded = true ↔ ∀ told ∈ report.outcomes, ∀ e, told.2 ≠ .failed e := by
  simp only [DeleteReport.allSucceeded, DeleteReport.failures, List.isEmpty_iff,
    List.filterMap_eq_nil_iff]
  apply forall₂_congr
  rintro ⟨r, o⟩ _
  cases o <;> simp

theorem leads_deleteAll (plain : c.hooks? = none) (deletes : c.backend.Deletes) (spread : Spread)
    (w : World S) :
    (deleteAll (c.supplier t) spread m).Leads w (TellsTruth c.backend spread m w) := by
  refine (leads_visitDelete plain deletes spread.resources w).bind fun outcomes w₁ done => ?_
  have told {w' : World S} (storage : w'.storage = w₁.storage) (events : w'.events = w₁.events) :
      TellsTruth c.backend spread m w ⟨outcomes⟩ w' := by
    refine ⟨⟨done.resources, storage ▸ done.attempts, events.trans done.events⟩, ?_,
      allSucceeded_iff _⟩
    intro r o mem fits
    rw [storage]
    exact done.attempts.gone deletes mem fits
  dsimp only
  split
  · refine (leads_remark _ _ _ w₁).bind fun _ w' ⟨still, quiet⟩ => leads_pure ?_
    exact told still.storage quiet
  · exact leads_pure (told rfl rfl)

theorem finishes_deleteAll (spread : Spread) (m : Metadata) {w : World S}
    (unlocked : Locks.Open t w.locks) :
    (deleteAll (c.supplier t) spread m).Finishes w fun _ _ => True := by
  have follows : Follows t .guards (fun _ => []) [] (deleteAll (c.supplier t) spread m) :=
    (keeps_deleteAll spread m).follows
  obtain ⟨report, w', ends, _⟩ := follows.finishes unlocked
  exact ⟨report, w', ends, trivial⟩

end
end Search

theorem Memory.keeps_attempts {linking : Bool} {m m' : Memory} {q : Resource}
    {outcomes : List (Resource × DeleteOutcome)}
    (attempts : Attempts (backend linking) outcomes m m')
    (other : ∀ r ∈ outcomes.map (·.1), q.same r = false) : (backend linking).Keeps q m m' := by
  induction attempts with
  | nil => exact .refl ..
  | @cons r o rest m m₁ m' attempt _ ih =>
    obtain ⟨apart, others⟩ := List.forall_mem_cons.1 other
    have kept : (backend linking).Keeps q m m₁ := by
      rw [attempt.store_eq]
      exact keeps_delete apart
    exact kept.trans (ih others)

theorem Files.keeps_attempts {f : Files} {d d' : Disk} {q : Resource}
    {outcomes : List (Resource × DeleteOutcome)} (attempts : Attempts f.backend outcomes d d')
    (leads : f.LeadsUp d')
    (other : ∀ r ∈ outcomes.map (·.1), (f.placeOf q).same (f.placeOf r) = false) :
    f.backend.Keeps q d d' := by
  induction attempts with
  | nil => exact .refl ..
  | @cons r o rest d d₁ d' attempt later ih =>
    obtain ⟨apart, others⟩ := List.forall_mem_cons.1 other
    have leads₁ := leads.anti (shrinks_attempts later)
    have kept : f.backend.Keeps q d d₁ := by
      rw [attempt.store_eq] at leads₁ ⊢
      exact keeps_iff.2 (contentOf_delete apart leads₁)
    exact kept.trans (ih leads others)

open Search in
/-- **Deleting everywhere tells the truth.** With any supplier, and with others in between, one
call is made for each location, in order and whatever fails, and its answer is told. In a cache
without hooks the report tells what was attempted, fired and left, once no lock is in the way.
Every other resource keeps its content: in memory always, on disk if the way to the root still
leads somewhere and the resources have places of their own. A root without `..` always leads
there, and resources of named locations have places of their own. -/
theorem deletion_everywhere_tells_the_truth (spread : Spread) (m : Metadata) (t : Thread) :
    (∀ {S H : Type} (supplier : Supplier S H) (others : World S → World S → Prop) (w w' : World S)
      (report : DeleteReport), (deleteAll supplier spread m).Yields others w report w' →
      ∃ calls w₁, Round others (supplier.delete · m) lamenting calls w w₁ ∧
        calls.map (·.1) = spread.resources ∧ report.outcomes.map (·.1) = spread.resources ∧
        List.Forall₂ Told (calls.map (·.2)) (report.outcomes.map (·.2))) ∧
    (∀ (linking : Bool) (c : Cache Memory Bytes Memory.Writer) (w : World Memory),
      c.backend = Memory.backend linking → c.hooks? = none →
      (Locks.Open t w.locks → (deleteAll (c.supplier t) spread m).Finishes w fun _ _ => True) ∧
      ∀ report w', (deleteAll (c.supplier t) spread m).run w = .finished report w' →
        TellsTruth c.backend spread m w report w' ∧
        ∀ q, (∀ r ∈ spread.resources, q.same r = false) →
          c.backend.Keeps q w.storage w'.storage) ∧
    (∀ (f : Files) (c : Cache Disk Disk.Reader Disk.Writer) (w : World Disk),
      c.backend = f.backend → c.hooks? = none →
      (Locks.Open t w.locks → (deleteAll (c.supplier t) spread m).Finishes w fun _ _ => True) ∧
      ∀ report w', (deleteAll (c.supplier t) spread m).run w = .finished report w' →
        TellsTruth c.backend spread m w report w' ∧
        (f.LeadsUp w'.storage →
          ∀ q, (∀ r ∈ spread.resources, (f.placeOf q).same (f.placeOf r) = false) →
            c.backend.Keeps q w.storage w'.storage)) ∧
    ∀ f : Files, ((∀ name ∈ Place.stepsOf (.text f.root), name ≠ .text "..") →
        ∀ d, f.LeadsUp d) ∧
      ∀ q r : Resource, q.location.uri ≠ "" → r.location.uri ≠ "" → q.same r = false →
        (f.placeOf q).same (f.placeOf r) = false := by
  refine ⟨fun _ _ _ _ _ yields => round_of_deleteAll yields, fun linking c w inside plain => ?_,
    fun f c w inside plain => ?_, fun f => ⟨f.leadsUp_of_forward, fun q r named named' other =>
      Files.apart_of_named named named' other⟩⟩
  · refine ⟨fun unlocked => finishes_deleteAll spread m unlocked, fun report w' ends => ?_⟩
    have told := leads_deleteAll plain (inside ▸ Memory.deletes linking) spread w report w' ends
    refine ⟨told, fun q other => ?_⟩
    obtain ⟨listed, attempts, _⟩ := told.attempted
    rw [inside] at attempts ⊢
    exact Memory.keeps_attempts attempts (listed ▸ other)
  · refine ⟨fun unlocked => finishes_deleteAll spread m unlocked, fun report w' ends => ?_⟩
    have told := leads_deleteAll plain (inside ▸ Files.deletes f) spread w report w' ends
    refine ⟨told, fun leads q other => ?_⟩
    obtain ⟨listed, attempts, _⟩ := told.attempted
    rw [inside] at attempts ⊢
    exact Files.keeps_attempts attempts leads (listed ▸ other)

open Search in
/-- A file, nothing any more, and a directory that is not empty: one is deleted, one is absent,
one fails, and the file of another location stays. -/
theorem deletion_in_three_locations :
    let a : Location := { name := "a", uri := "a" }
    let b : Location := { name := "b", uri := "b" }
    let q : Resource := .ofText { name := "c", uri := "c" } "f"
    let spread : Spread := ⟨[a, a, b], .ofText "f", by simp⟩
    let calls : List Call := [.ask (.createFile (.ofText a "f")),
      .ask (.createFile (.ofText b "f/x")),
      .ask (.openWriter q), .write 0 [121], .close 0]
    let f : Files := { root := "/cache" }
    let onDisk : Cache Disk Disk.Reader Disk.Writer := { backend := f.backend }
    let inMemory : Cache Memory Bytes Memory.Writer := { backend := Memory.backend false }
    let d := (Usage.after f.backend {} calls).store
    let m := (Usage.after (Memory.backend false) .empty calls).store
    (∃ report w', (deleteAll (onDisk.supplier 0) spread ∅).run { storage := d } =
        .finished report w' ∧ TellsTruth f.backend spread ∅ { storage := d } report w' ∧
      report.outcomes.map (·.2) = [.deleted, .absent,
        .failed (Files.fail .delete (f.placeOf (.ofText b "f")) .directoryNotEmpty)] ∧
      f.backend.Keeps q d w'.storage) ∧
    ∃ report w', (deleteAll (inMemory.supplier 0) spread ∅).run { storage := m } =
        .finished report w' ∧
      TellsTruth inMemory.backend spread ∅ { storage := m } report w' ∧
      inMemory.backend.Keeps q m w'.storage := by
  intro a b q spread calls f onDisk inMemory d m
  obtain ⟨_, memory, disk, root⟩ := deletion_everywhere_tells_the_truth spread ∅ 0
  obtain ⟨forward, apart⟩ := root f
  have other : ∀ r ∈ spread.resources, q.same r = false := by decide
  have named : ∀ r ∈ spread.resources, r.location.uri ≠ "" := by decide
  have outcomes : ((deleteAll (onDisk.supplier 0) spread ∅).run { storage := d }).value?.map
      (fun report => report.outcomes.map (·.2)) = some [.deleted, .absent,
        .failed (Files.fail .delete (f.placeOf (.ofText b "f")) .directoryNotEmpty)] := by
    decide +kernel
  clear_value d m
  constructor
  · obtain ⟨ends, tells⟩ := disk f onDisk { storage := d } rfl rfl
    obtain ⟨report, w', run, _⟩ := ends fun _ => rfl
    obtain ⟨told, keeps⟩ := tells report w' run
    refine ⟨report, w', run, told, ?_, keeps (forward (by decide) _) q fun r mem => ?_⟩
    · rw [run] at outcomes
      exact Option.some.inj outcomes
    · exact apart q r (by decide) (named r mem) (other r mem)
  · obtain ⟨ends, tells⟩ := memory false inMemory { storage := m } rfl rfl
    obtain ⟨report, w', run, _⟩ := ends fun _ => rfl
    obtain ⟨told, keeps⟩ := tells report w' run
    exact ⟨report, w', run, told, keeps q other⟩

open Search in
/-- A root that leads up through the directory of a location is lost when this is deleted
everywhere, and a location without a name deletes what is another's. -/
theorem files_lost_to_deletion_everywhere :
    let a : Location := { name := "a", uri := "a:x" }
    let q : Resource := .ofText { name := "b", uri := "b:x" } "f"
    let unnamed : Location := { name := "all", uri := "" }
    let calls : List Call := [.ask (.openWriter q), .write 0 [120], .close 0]
    let lost (f : Files) (spread : Spread) : Prop :=
      let c : Cache Disk Disk.Reader Disk.Writer := { backend := f.backend }
      let d := (Usage.after f.backend {} calls).store
      (∀ r ∈ spread.resources, q.same r = false) ∧ f.backend.content? q d = some [120] ∧
        ∃ report w', (deleteAll (c.supplier 0) spread ∅).run { storage := d } =
            .finished report w' ∧
          report.outcomes.map (·.2) = [.deleted] ∧ ¬ f.backend.Keeps q d w'.storage
    lost { root := "/cache/a_x/.." } ⟨[a], .root, by simp⟩ ∧
      lost { root := "/cache" } ⟨[unnamed], .ofText "b_x/f", by simp⟩ := by
  intro a q unnamed calls lost
  have lost_of (f : Files) (spread : Spread) (other : ∀ r ∈ spread.resources, q.same r = false)
      (there : f.backend.content? q (Usage.after f.backend {} calls).store = some [120])
      (gone : ((deleteAll (Cache.supplier { backend := f.backend } 0) spread ∅).run
        { storage := (Usage.after f.backend {} calls).store }).passes (fun report w' =>
          report.outcomes.map (·.2) = [.deleted] && f.backend.content? q w'.storage = none) =
            true) : lost f spread := by
    obtain ⟨report, w', run, passes⟩ := Program.Progress.exists_of_passes gone
    obtain ⟨outcomes, none_left⟩ : report.outcomes.map (·.2) = [.deleted] ∧
        f.backend.content? q w'.storage = none := by simpa using passes
    refine ⟨other, there, report, w', run, outcomes, fun keeps => ?_⟩
    rw [keeps.content, there] at none_left
    cases none_left
  refine ⟨lost_of _ _ (by decide) ?_ ?_, lost_of _ _ (by decide) ?_ ?_⟩
  all_goals decide +kernel

end ArtifactCache
