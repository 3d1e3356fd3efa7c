import ArtifactCache.Proofs.FileNumbers
import ArtifactCache.Proofs.LockTable
import ArtifactCache.Proofs.Shift

/-!
Writes to one resource are serial. At most one thread has the hold, and what it
has brought so far (`Phase`) is what the store holds. Every step of every call
keeps to that (`Shift.accord`), so every run does (`Shift.Run.coherent`). A call
that ends a writer or copies gives the hold back once, with what it brings, and
no other call does; so what threads are told is what they have brought.
-/
namespace ArtifactCache

open Handle (Output)

/-- How far a thread has come with its writer or its copy. -/
inductive Phase (W : Type)
  | before
  | taken
  | writing (w : W) (given : Bytes)
  | finished (bytes : Bytes)
  /-- The hold was given back, but the call has not answered yet. -/
  | after

/-- The thread has the hold. -/
def Phase.HasHold {W : Type} : Phase W → Prop
  | before | after => False
  | taken | writing .. | finished _ => True

/-- What the thread with the hold has brought to the store so far, if anything. -/
def Phase.bytes? {W : Type} : Phase W → Option Bytes
  | writing _ bytes | finished bytes => some bytes
  | before | taken | after => none

/-- After a call, a thread that has given the hold back begins again. -/
def Phase.next {W : Type} : Phase W → Phase W
  | after => before
  | phase => phase

/-- What is known of a shift beside its state: what was brought last, and how far each
thread is. -/
structure Turn (W : Type) where
  last : Option Bytes
  phases : Thread → Phase W := fun _ => .before

/-- The lock while a streamed write is in flight, and nothing else. -/
def Lock.streamed (t : Thread) : Lock := { owner := some t, holds := 1, streaming := true }

namespace Turn
variable {W : Type} {g : Turn W} {t u : Thread} {phase : Phase W}

def put (g : Turn W) (t : Thread) (phase : Phase W) : Turn W :=
  { g with phases := fun u => if u = t then phase else g.phases u }

@[simp] theorem phases_put_self : (g.put t phase).phases t = phase := if_pos rfl

theorem phases_put_of_ne (other : u ≠ t) : (g.put t phase).phases u = g.phases u := if_neg other

end Turn

section
variable {S R W : Type}

/-- What the store holds in a phase. -/
def Phase.Fits (N : Numbering S W) (a : Address) (last : Option Bytes) (s : S) : Phase W → Prop
  | before | after => False
  | taken => N.content? a s = last
  | writing w given => N.writing a w given s
  | finished bytes => N.content? a s = some bytes

theorem Phase.Fits.hasHold {N : Numbering S W} {a : Address} {last : Option Bytes} {s : S}
    {phase : Phase W} (fits : phase.Fits N a last s) : phase.HasHold := by
  cases phase with
  | before | after => cases fits
  | taken | writing | finished => trivial

namespace Phase
variable {N : Numbering S W} {a : Address} {last : Option Bytes} {s : S} {phase : Phase W}

theorem hasHold_next : phase.next.HasHold ↔ phase.HasHold := by
  cases phase <;> exact Iff.rfl

theorem fits_next : phase.next.Fits N a last s ↔ phase.Fits N a last s := by
  cases phase <;> exact Iff.rfl

/-- What a thread has brought in a call and was not told yet. -/
def untold (phase : Phase W) (stage : Stage S W) : List Bytes :=
  match phase with
  | after => stage.brings?.toList
  | _ => []

theorem untold_next (stage : Stage S W) : phase.next.untold stage = [] := by
  cases phase <;> rfl

theorem untold_of_ne (begun : phase ≠ .after) (stage : Stage S W) : phase.untold stage = [] := by
  cases phase with
  | after => exact absurd rfl begun
  | before | taken | writing | finished => rfl

end Phase

namespace Job
variable {α : Type}

/-- How far a thread can have come in a call. -/
def Allows : Job W α → Phase W → Prop
  | opening, phase => phase = .before ∨ phase = .taken ∨ ∃ w, phase = .writing w []
  | writing given, phase => ∃ w bytes, phase = .writing w bytes ∧ bytes <+: given
  | closing given, phase | dropping given, phase =>
    (∃ w, phase = .writing w given) ∨ phase = .finished given ∨ phase = .after
  | copying _ bytes, phase =>
    phase = .before ∨ phase = .taken ∨ phase = .finished bytes ∨ phase = .after

theorem allows_writing {given bytes : Bytes} (w : W) (part : bytes <+: given) :
    (writing given).Allows (.writing w bytes) := ⟨w, bytes, rfl, part⟩

/-- Only what ends a writer or copies gives the hold back. -/
theorem brings?_of_allows {job : Job W α} (allowed : job.Allows .after) :
    job.brings? = some job.bytes := by
  cases job with
  | opening => obtain eq | eq | ⟨_, eq⟩ := allowed <;> cases eq
  | writing => obtain ⟨_, _, eq, _⟩ := allowed; cases eq
  | closing | dropping | copying => rfl

/-- A call that ends a writer. -/
structure Ends (job : Job W α) : Prop where
  writing (w : W) : job.Allows (.writing w job.bytes)
  finished : job.Allows (.finished job.bytes)
  after : job.Allows .after

theorem ends_closing (given : Bytes) : (closing given : Job W _).Ends :=
  ⟨fun w => .inl ⟨w, rfl⟩, .inr (.inl rfl), .inr (.inr rfl)⟩

theorem ends_dropping (given : Bytes) : (dropping given : Job W _).Ends :=
  ⟨fun w => .inl ⟨w, rfl⟩, .inr (.inl rfl), .inr (.inr rfl)⟩

/-- What the call needs of the store. -/
def Needs (N : Numbering S W) (a : Address) (s : S) : Job W α → Prop
  | copying source bytes => N.Source a source bytes s
  | _ => True

end Job

/-- An open writer of the resource, without a filter. -/
structure Handle.Output.IsPlain (a : Address) (output : Output W) : Prop where
  address : output.resource.address = a
  filter : output.filter = .passing

/-- What is known when a call returns. -/
def Job.Known (a : Address) {α : Type} : Job W α → α → Phase W → Prop
  | opening, result, phase => ∃ output : Output W, result = .ok output ∧
      Output.IsPlain a output ∧ phase = .writing output.stream []
  | writing given, (answer, output), phase => answer = .ok () ∧
      Output.IsPlain a output ∧ phase = .writing output.stream given
  | closing _, answer, phase => answer = .ok () ∧ phase = .after
  | dropping _, _, phase => phase = .after
  | copying _ _, result, phase => result = .ok () ∧ phase = .after

namespace Shift

/-- The hold is that of the thread that has come so far, and the store holds what it
has brought. -/
structure Held (N : Numbering S W) (a : Address) (w : World S) (g : Turn W) : Prop where
  sound : N.sound w.storage
  free : (∀ t, ¬ (g.phases t).HasHold) → w.locks.lockAt a = {} ∧ N.content? a w.storage = g.last
  taken (t : Thread) : (g.phases t).HasHold →
    w.locks.lockAt a = .streamed t ∧ (g.phases t).Fits N a g.last w.storage

/-- What a step of `t` can do. -/
structure Moved (N : Numbering S W) (a : Address) (t : Thread) (bytes : Bytes) (w : World S)
    (g : Turn W) (w' : World S) (g' : Turn W) : Prop where
  source (b : Address) (x : Bytes) : N.Source a b x w.storage → N.Source a b x w'.storage
  others (u : Thread) : u ≠ t → g'.phases u = g.phases u
  last : g'.last = if frees a w w' then some bytes else g.last
  /-- The hold is given back once in a call. -/
  after : g'.phases t = .after ↔ g.phases t = .after ∨ frees a w w' = true
  once : frees a w w' = true → g.phases t ≠ .after

/-- What a thread keeps to in a call. -/
def accord (N : Numbering S W) (a : Address) (t : Thread) {α : Type} (job : Job W α) :
    Accord (World S) (Turn W) (Phase W) where
  holds w g := Held N a w g ∧ job.Needs N a w.storage
  moves w g w' g' := Moved N a t job.bytes w g w' g' ∧ job.Allows (g'.phases t)
  mine g := g.phases t

variable {N : Numbering S W} {a : Address} {t : Thread} {g : Turn W} {w w' : World S}

theorem isHeld_congr (lock : w'.locks.lockAt a = w.locks.lockAt a) :
    w'.locks.isHeld a = w.locks.isHeld a := by
  unfold Locks.isHeld
  rw [lock]

/-- Where the lock stays, nothing is given back. -/
theorem not_frees (lock : w'.locks.lockAt a = w.locks.lockAt a) : frees a w w' = false := by
  simp [frees, isHeld_congr lock]

theorem Held.congr (held : Held N a w g) (storage : w'.storage = w.storage)
    (lock : w'.locks.lockAt a = w.locks.lockAt a) : Held N a w' g where
  sound := storage ▸ held.sound
  free idle := by
    rw [lock, storage]
    exact held.free idle
  taken u has := by
    rw [lock, storage]
    exact held.taken u has

/-- Two threads do not have the hold. -/
theorem Held.unique (held : Held N a w g) {u : Thread} (first : (g.phases t).HasHold)
    (second : (g.phases u).HasHold) : u = t := by
  have same := (held.taken u second).1.symm.trans (held.taken t first).1
  exact Option.some.inj (congrArg Lock.owner same)

/-- A thread that alone has the hold comes to a phase that fits. -/
theorem Held.of_alone {phase : Phase W} (sound : N.sound w.storage)
    (lock : w.locks.lockAt a = .streamed t) (fits : phase.Fits N a g.last w.storage)
    (alone : ∀ u, u ≠ t → ¬ (g.phases u).HasHold) : Held N a w (g.put t phase) where
  sound := sound
  free idle := by
    have mine := idle t
    rw [Turn.phases_put_self] at mine
    exact absurd fits.hasHold mine
  taken u has := by
    by_cases same : u = t
    · rw [same, Turn.phases_put_self]
      exact ⟨lock, fits⟩
    · rw [Turn.phases_put_of_ne same] at has
      exact absurd has (alone u same)

/-- The hold does not depend on what a thread is told. -/
theorem Held.next (held : Held N a w g) (t : Thread) : Held N a w (g.put t (g.phases t).next) := by
  have phase (u : Thread) : (g.put t (g.phases t).next).phases u = (g.phases u).next ∨
      (g.put t (g.phases t).next).phases u = g.phases u := by
    by_cases same : u = t
    · subst same
      exact .inl Turn.phases_put_self
    · exact .inr (Turn.phases_put_of_ne same)
  have hasHold (u : Thread) :
      ((g.put t (g.phases t).next).phases u).HasHold ↔ (g.phases u).HasHold := by
    obtain eq | eq := phase u
    · rw [eq, Phase.hasHold_next]
    · rw [eq]
  refine ⟨held.sound, fun idle => held.free fun u has => idle u ((hasHold u).2 has), ?_⟩
  intro u has
  obtain ⟨lock, fits⟩ := held.taken u ((hasHold u).1 has)
  refine ⟨lock, ?_⟩
  obtain eq | eq := phase u
  · exact eq ▸ Phase.fits_next.2 fits
  · exact eq ▸ fits

theorem Moved.still {bytes : Bytes} (storage : w'.storage = w.storage)
    (lock : w'.locks.lockAt a = w.locks.lockAt a) : Moved N a t bytes w g w' g where
  source b x given := by rwa [storage]
  others _ _ := rfl
  last := by simp [not_frees lock]
  after := by simp [not_frees lock]
  once := by simp [not_frees lock]

/-- A step within a call, which gives nothing back. -/
theorem Moved.within {bytes : Bytes} {phase : Phase W}
    (source : ∀ b x, N.Source a b x w.storage → N.Source a b x w'.storage)
    (kept : frees a w w' = false) (begun : g.phases t ≠ .after) (unfinished : phase ≠ .after) :
    Moved N a t bytes w g w' (g.put t phase) where
  source := source
  others _ other := Turn.phases_put_of_ne other
  last := by simp [kept, Turn.put]
  after := by simp [kept, begun, unfinished]
  once := fun _ => begun

/-- What others need of the store is kept. -/
theorem Moved.needs {α : Type} {job : Job W α} {bytes : Bytes} {g' : Turn W}
    (moved : Moved N a t bytes w g w' g') (needs : job.Needs N a w.storage) :
    job.Needs N a w'.storage := by
  cases job with
  | copying source bytes => exact moved.source source bytes needs
  | opening | writing | closing | dropping => trivial

section
variable {α β : Type} {job : Job W α} {failure : β → Prop} {phase : Phase W}

theorem idles (allowed : job.Allows phase) : (accord N a t job).Idles phase := by
  intro w g w' ⟨held, needs⟩ known storage lock
  change g.phases t = phase at known
  subst known
  exact ⟨⟨held.congr storage (lock a), storage ▸ needs⟩, .still storage (lock a), allowed⟩

/-- A step on the store, by the thread that has the hold. -/
theorem heeds_alter {act : S → β × S} {post : β → Phase W → Prop} (has : phase.HasHold)
    (does : ∀ s last, N.sound s → phase.Fits N a last s → job.Needs N a s →
      failure (act s).1 ∨ N.Spares a s (act s).2 ∧ ∃ phase', phase'.Fits N a last (act s).2 ∧
        job.Allows phase' ∧ post (act s).1 phase') :
    (Action.alter act).Heeds (accord N a t job) failure post phase := by
  refine .change fun w g ⟨held, needs⟩ known => ?_
  change g.phases t = phase at known
  subst known
  obtain ⟨lock, fits⟩ := held.taken t has
  have did := does w.storage g.last held.sound fits needs
  dsimp only
  generalize act w.storage = outcome at did ⊢
  obtain ⟨v, s'⟩ := outcome
  obtain failed | ⟨spares, phase', fits', allowed, after⟩ := did
  · exact .inl failed
  have held' : Held N a { w with storage := s' } (g.put t phase') :=
    .of_alone spares.sound lock fits' fun u other has' => other (held.unique has has')
  have moved : Moved N a t job.bytes w g { w with storage := s' } (g.put t phase') := by
    apply Moved.within fun _ _ => spares.keeps
    · exact not_frees rfl
    · intro after
      rw [after] at has
      exact has
    · rintro rfl
      exact fits'
  refine .inr ⟨g.put t phase', ⟨held', moved.needs needs⟩, ⟨moved, ?_⟩, ?_⟩
  · rwa [Turn.phases_put_self]
  · change post v ((g.put t phase').phases t)
    rwa [Turn.phases_put_self]

/-- Whoever is not blocked and has not the hold finds the lock free. -/
theorem Held.lockAt_eq_free (held : Held N a w g) (mine : ¬ (g.phases t).HasHold)
    (admitted : (w.locks.lockAt a).blocks t = false) :
    (∀ u, ¬ (g.phases u).HasHold) ∧ w.locks.lockAt a = {} := by
  have idle : ∀ u, ¬ (g.phases u).HasHold := by
    intro u has
    have other : u ≠ t := by
      rintro rfl
      exact mine has
    rw [(held.taken u has).1] at admitted
    simp [Lock.blocks, Lock.streamed, other] at admitted
  exact ⟨idle, (held.free idle).1⟩

/-- The hold of a streamed write is taken: there is no other hold, and none of
this thread. -/
theorem heeds_lockStream {r : Resource} (address : r.address = a) (allowed : job.Allows .before)
    (taken : job.Allows .taken) :
    (Locks.lockStream t r : Action S Bool).Heeds (accord N a t job) (fun _ => False)
      (fun granted m => granted = true ∧ m = .taken) .before := by
  have entered : (Program.change fun w : World S =>
      ((), w.withLocks (w.locks.enter r.address))).Heeds (accord N a t job) (fun _ => False)
      (fun _ m => m = .before) .before :=
    (idles allowed).change fun w => ⟨rfl, Locks.lockAt_enter w.locks r.address⟩
  refine entered.seq fun _ m same => ?_
  subst same
  intro w g v w' ⟨held, needs⟩ known admits
  change g.phases t = .before at known
  have mine : ¬ (g.phases t).HasHold := by
    rw [known]
    exact id
  obtain ⟨move, granted, done⟩ := Option.map_eq_some_iff.1 admits
  obtain ⟨admitted, held_stream⟩ := Locks.of_holdStream granted
  rw [address] at admitted held_stream
  obtain ⟨idle, free⟩ := held.lockAt_eq_free mine admitted
  obtain ⟨busy, _⟩ | ⟨_, rfl⟩ := held_stream
  · simp [free] at busy
  obtain ⟨rfl, rfl⟩ := Prod.mk.inj done
  have lock : Locks.lockAt (w.locks.insert a ((w.locks.lockAt a).takeStream t)) a =
      .streamed t := by
    rw [Locks.lockAt_insert_self, free]
    rfl
  have given : (g.put t .taken).phases t = .taken := Turn.phases_put_self
  refine .inr ⟨g.put t .taken, ⟨?_, needs⟩, ⟨?_, by rwa [given]⟩, rfl, given⟩
  · exact .of_alone held.sound lock (held.free idle).2 fun u _ => idle u
  · refine .within (fun _ _ => id) ?_ ?_ nofun
    · simp [frees, Locks.isHeld, free]
    · simp [known]

theorem heeds_acquire {r : Resource} (address : r.address = a) (allowed : job.Allows .before)
    (taken : job.Allows .taken) :
    (Locks.acquire t r : Action S (Except Failure Unit)).Heeds (accord N a t job) (fun _ => False)
      (fun result m => result = .ok () ∧ m = .taken) .before := by
  refine (heeds_lockStream address allowed taken).seq fun granted m known => ?_
  obtain ⟨rfl, rfl⟩ := known
  exact ⟨rfl, rfl⟩

/-- The hold is given back, and what was brought is what was brought last. -/
theorem heeds_unlockStream {r : Resource} (address : r.address = a) (allowed : job.Allows .after) :
    (Locks.unlockStream r : Action S Bool).Heeds (accord N a t job) (fun _ => False)
      (fun _ m => m = .after) (.finished job.bytes) := by
  refine .change fun w g ⟨held, needs⟩ known => .inr ?_
  change g.phases t = .finished job.bytes at known
  have has : (g.phases t).HasHold := by
    rw [known]
    trivial
  obtain ⟨lock, fits⟩ := held.taken t has
  rw [known] at fits
  have freed : w.locks.releaseStream r.address =
      { answer := .freed, locks := w.locks.insert a {}, wakes := true } := by
    rw [address]
    obtain ⟨idle, _⟩ | ⟨_, _, eq⟩ := Locks.releaseStream_cases w.locks a
    · rw [lock] at idle
      cases idle
    · rw [eq, lock]
      rfl
  rw [freed]
  let g' : Turn W := { g.put t .after with last := some job.bytes }
  have mine : g'.phases t = .after := Turn.phases_put_self
  have others (u : Thread) (other : u ≠ t) : g'.phases u = g.phases u := Turn.phases_put_of_ne other
  have before : w.locks.isHeld a = true := by
    rw [Locks.isHeld, lock]
    rfl
  have after : Locks.isHeld a (w.locks.insert a {}) = false := by
    rw [Locks.isHeld, Locks.lockAt_insert_self]
    rfl
  refine ⟨g', ⟨⟨held.sound, fun _ => ⟨?_, fits⟩, fun u has' => ?_⟩, needs⟩,
    ⟨⟨fun _ _ => id, others, ?_, ?_, fun _ => ?_⟩, ?_⟩, mine⟩
  · exact Locks.lockAt_insert_self w.locks a {}
  · by_cases same : u = t
    · rw [same, mine] at has'
      cases has'
    · rw [others u same] at has'
      exact absurd (held.unique has has') same
  · change some job.bytes =
      if w.locks.isHeld a && !Locks.isHeld a (w.locks.insert a {}) then _ else _
    rw [before, after]
    rfl
  · refine iff_of_true mine (.inr ?_)
    change (w.locks.isHeld a && !Locks.isHeld a (w.locks.insert a {})) = true
    rw [before, after]
    rfl
  · rw [known]
    nofun
  · rwa [mine]

end

/-! ## The calls -/

section
variable {R : Type} {h : Handle S R W} {c : Cache S R W} {output : Output W} {given : Bytes}

theorem heeds_openWriter (serves : N.Serves h.cache.backend) (plain : h.cache.hooks? = none)
    (address : h.resource.address = a) (purpose : Purpose) (fire : Bool) (m : Metadata) :
    (h.openWriter purpose fire m).Heeds (accord N a t .opening) Job.opening.Fails
      (Job.opening.Known a) .taken := by
  have opened : (Action.alter (h.cache.backend.openWriter h.resource)).Heeds
      (accord N a t (.opening : Job W _)) (fun result => ∃ e, result = .error e ∧ e.IsStorage)
      (fun result m => ∃ w, result = .ok w ∧ m = .writing w []) .taken := by
    refine heeds_alter trivial fun s last sound _ _ => ?_
    cases opened : (h.cache.backend.openWriter h.resource s).1 with
    | error e => exact .inl ⟨e, rfl, serves.openFailure opened⟩
    | ok w =>
      obtain ⟨spares, writing⟩ := serves.openWriter sound opened
      rw [address] at spares writing
      exact .inr ⟨spares, .writing w [], writing, .inr (.inr ⟨w, rfl⟩), w, rfl, rfl⟩
  refine opened.bind (fun result m known => ?_) fun result failed => ?_
  · obtain ⟨w, rfl, rfl⟩ := known
    dsimp only
    rw [Handle.consult_of_plain plain, Handle.begin_of_plain plain]
    have allowed : Job.opening.Allows (.writing w []) := .inr (.inr ⟨w, rfl⟩)
    cases fire
    · refine ((idles allowed).note _).seq fun _ _ same => ?_
      exact ⟨_, rfl, ⟨address, rfl⟩, same⟩
    · refine ((idles allowed).note _).seq fun _ _ same => ?_
      exact ⟨_, rfl, ⟨address, rfl⟩, same⟩
  · obtain ⟨e, rfl, activity, place, fault, rfl⟩ := failed
    exact trivial

theorem heeds_openOutput (serves : N.Serves h.cache.backend) (plain : h.cache.hooks? = none)
    (address : h.resource.address = a) (purpose : Purpose) (fire : Bool) (m : Metadata) :
    (h.openOutput t purpose fire m).Heeds (accord N a t .opening) Job.opening.Fails
      (Job.opening.Known a) .before := by
  have idle : Job.opening.Allows (.before : Phase W) := Or.inl rfl
  have taken : Job.opening.Allows (.taken : Phase W) := Or.inr (.inl rfl)
  refine ((idles idle).awaitFree t h.resource).seq fun _ m₁ same => ?_
  subst same
  refine (heeds_acquire address idle taken).seq fun acquired m₂ known => ?_
  obtain ⟨rfl, rfl⟩ := known
  refine (heeds_openWriter serves plain address purpose fire m).bind (fun result m₃ known => ?_)
    fun result failed => ?_
  · obtain ⟨output, rfl, known⟩ := known
    exact ⟨output, rfl, known⟩
  · cases result with
    | ok output => cases failed
    | error e =>
      have reported : Program.EndsIn Job.opening.Fails
          (do
            h.reportFailure fire m (.error e : Except Failure (Output W))
            pure (.error e) : Action S _) :=
        .seq fun _ => failed
      exact .seq fun _ => reported

theorem heeds_copyFrom {source : Handle S R W} {bytes : Bytes} (serves : N.Serves h.cache.backend)
    (plain : h.cache.hooks? = none) (address : h.resource.address = a) :
    (h.copyFrom t source).Heeds (accord N a t (.copying source.resource.address bytes))
      (Job.copying source.resource.address bytes : Job W _).Fails
      ((Job.copying source.resource.address bytes).Known a) .before := by
  let job : Job W (Except Failure Unit) := .copying source.resource.address bytes
  have idle : job.Allows .before := Or.inl rfl
  have taken : job.Allows .taken := Or.inr (.inl rfl)
  have finished : job.Allows (.finished bytes) := Or.inr (.inr (.inl rfl))
  have after : job.Allows .after := Or.inr (.inr (.inr rfl))
  refine ((idles idle).awaitFree t h.resource).seq fun _ m₁ same => ?_
  subst same
  refine (heeds_acquire address idle taken).seq fun acquired m₂ known => ?_
  obtain ⟨rfl, rfl⟩ := known
  dsimp only
  rw [Handle.consult_of_plain plain]
  have copied : (Action.alter (h.cache.backend.copy source.resource h.resource)).Heeds
      (accord N a t job) (fun result => ∃ e, result = .error e ∧ e.IsStorage)
      (fun result m => result = .ok () ∧ m = .finished bytes) .taken := by
    refine heeds_alter trivial fun s last sound _ given => ?_
    cases copied : (h.cache.backend.copy source.resource h.resource s).1 with
    | error e => exact .inl ⟨e, rfl, serves.copyFailure copied⟩
    | ok _ =>
      have given : N.Source a source.resource.address bytes s := given
      rw [← address] at given
      obtain ⟨spares, content⟩ := serves.copy sound given copied
      rw [address] at spares content
      exact .inr ⟨spares, .finished bytes, content, finished, rfl, rfl⟩
  refine copied.bind (fun result m₃ known => ?_) fun result failed => ?_
  · obtain ⟨rfl, rfl⟩ := known
    exact (heeds_unlockStream address after).seq fun _ _ same => ⟨rfl, same⟩
  · obtain ⟨e, rfl, activity, place, fault, rfl⟩ := failed
    exact .seq fun _ => trivial

/-- A call on a plain writer goes to the writer of the store. -/
theorem heeds_call {job : Job W α} {failure : _ → Prop} (plain : Output.IsPlain a output)
    (call : StreamCall) {given' : Bytes} (allowed : ∀ w, job.Allows (.writing w given'))
    (passes : ∀ s, N.sound s → N.writing a output.stream given s →
      N.Spares a s (Output.pass c [call] output.stream s).2 ∧
        N.writing a (Output.pass c [call] output.stream s).1 given'
          (Output.pass c [call] output.stream s).2) :
    (output.call c call).Heeds (accord N a t job) failure ((Job.writing given').Known a)
      (.writing output.stream given) := by
  obtain ⟨stream, resource, filter, past, onClose?⟩ := output
  obtain ⟨rfl, rfl⟩ := plain
  have passed : (Action.alter (Output.pass c [call] stream)).Heeds (accord N resource.address t job)
      (fun _ => False) (fun stream m => m = .writing stream given') (.writing stream given) := by
    refine heeds_alter trivial fun s last sound writing _ => .inr ?_
    obtain ⟨spares, writing⟩ := passes s sound writing
    exact ⟨spares, .writing _ given', writing, allowed _, rfl⟩
  exact passed.seq fun stream m known => ⟨rfl, ⟨rfl, rfl⟩, known⟩

theorem heeds_put (serves : N.Serves c.backend) (plain : Output.IsPlain a output)
    (bytes : Bytes) {failure : _ → Prop} :
    (output.put c bytes).Heeds (accord N a t (.writing (given ++ bytes))) failure
      ((Job.writing (given ++ bytes)).Known a) (.writing output.stream given) :=
  heeds_call plain (.write bytes) (fun w => Job.allows_writing w List.prefix_rfl) fun _ =>
    serves.write bytes

theorem heeds_write (serves : N.Serves c.backend) (plain : Output.IsPlain a output)
    (bytes : Bytes) {failure : _ → Prop} :
    (output.write c bytes).Heeds (accord N a t (.writing (given ++ bytes))) failure
      ((Job.writing (given ++ bytes)).Known a) (.writing output.stream given) := by
  unfold Output.write
  split
  · next nothing =>
    rw [nothing, List.append_nil]
    exact ⟨rfl, plain, rfl⟩
  · exact heeds_put serves plain bytes

theorem heeds_flush (serves : N.Serves c.backend) (plain : Output.IsPlain a output) {job : Job W α}
    (allowed : ∀ w, job.Allows (.writing w given)) {failure : _ → Prop} :
    (output.flush c).Heeds (accord N a t job) failure ((Job.writing given).Known a)
      (.writing output.stream given) :=
  heeds_call plain .flush allowed fun _ => serves.flush

theorem heeds_close (serves : N.Serves c.backend) (plain : Output.IsPlain a output) {job : Job W α}
    (ends : job.Ends) {failure : _ → Prop} :
    (output.close c).Heeds (accord N a t job) failure ((Job.closing job.bytes).Known a)
      (.writing output.stream job.bytes) := by
  refine (heeds_flush serves plain ends.writing).seq fun result m₁ known => ?_
  obtain ⟨flushed, stream, resource, filter, past, onClose?⟩ := result
  obtain ⟨rfl, ⟨rfl, rfl⟩, rfl⟩ := known
  have closed : (Action.alter fun s => ((), c.backend.closeWriter stream s)).Heeds
      (accord N resource.address t job) (fun _ => False)
      (fun _ m => m = .finished job.bytes) (.writing stream job.bytes) := by
    refine heeds_alter trivial fun s last sound writing _ => .inr ?_
    obtain ⟨spares, content⟩ := serves.closeWriter sound writing
    exact ⟨spares, .finished job.bytes, content, ends.finished, rfl⟩
  refine closed.seq fun _ m₂ same => ?_
  subst same
  refine (heeds_unlockStream rfl ends.after).seq fun _ m₃ same => ?_
  subst same
  cases onClose? with
  | none => exact ⟨rfl, rfl⟩
  | some event => exact ((idles ends.after).fire _ event).seq fun _ _ same => ⟨rfl, same⟩

theorem heeds_drop (serves : N.Serves c.backend) (plain : Output.IsPlain a output) {job : Job W α}
    (ends : job.Ends) {failure : _ → Prop} :
    (output.drop c).Heeds (accord N a t job) failure (fun _ m => m = .after)
      (.writing output.stream job.bytes) := by
  refine (heeds_close serves plain ends).seq fun closed m known => ?_
  obtain ⟨rfl, rfl⟩ := known
  exact rfl

end

/-! ## The run -/

end Shift

/-- What the phase of a thread and the store have to do with its stage. -/
def Stage.Fits (N : Numbering S W) (a : Address) (t : Thread) (s : S) (phase : Phase W) :
    Stage S W → Prop
  | idle => phase = .before
  | opened given output => Output.IsPlain a output ∧ phase = .writing output.stream given
  | busy job rest => job.Allows phase ∧ job.Needs N a s ∧
      rest.Heeds (Shift.accord N a t job) job.Fails (job.Known a) phase

namespace Shift

section
variable {t u : Thread} {bytes : Bytes} {record : List (Thread × Bytes)}

theorem broughtBy_snoc_self :
    broughtBy t (record ++ [(t, bytes)]) = broughtBy t record ++ [bytes] := by
  simp [broughtBy, List.filter_append]

theorem broughtBy_snoc_of_ne (other : u ≠ t) :
    broughtBy u (record ++ [(t, bytes)]) = broughtBy u record := by
  simp [broughtBy, List.filter_append, other.symm]

/-- What a call has told, if it has brought something. -/
theorem broughtBy_told_self (told? : Option Bytes) :
    broughtBy t (record ++ told?.toList.map (t, ·)) = broughtBy t record ++ told?.toList := by
  cases told? with
  | none => simp
  | some bytes => exact broughtBy_snoc_self

theorem broughtBy_told_of_ne (other : u ≠ t) (told? : Option Bytes) :
    broughtBy u (record ++ told?.toList.map (t, ·)) = broughtBy u record := by
  cases told? with
  | none => simp
  | some bytes => exact broughtBy_snoc_of_ne other

end

/-- How far the threads are, and what has been brought. -/
structure Coherent (N : Numbering S W) (r : Resource) (c : Shift S W) (g : Turn W) : Prop where
  last : g.last = c.last
  held : Held N r.address c.world g
  stages (t : Thread) : (c.stages t).Fits N r.address t c.world.storage (g.phases t)
  told (t : Thread) : broughtBy t c.brought =
    broughtBy t c.ended ++ (g.phases t).untold (c.stages t)

variable {R : Type} {b : Backend S R W} {N : Numbering S W} {r : Resource} {c : Shift S W}
  {g : Turn W} {t : Thread}

theorem stages_put_self (stage : Stage S W) : (c.put t stage).stages t = stage := if_pos rfl

theorem stages_put_of_ne {u : Thread} (other : u ≠ t) (stage : Stage S W) :
    (c.put t stage).stages u = c.stages u := if_neg other

/-- A thread that begins a call keeps to the accord, and has nothing to be told. -/
theorem fits_of_begins (serves : N.Serves b) {s : S} {phase : Phase W}
    {before stage : Stage S W} (begins : Begins b N r t s before stage)
    (fits : before.Fits N r.address t s phase) :
    phase ≠ .after ∧ stage.Fits N r.address t s phase := by
  cases begins with
  | openOutput purpose fire m backend plain address =>
    obtain rfl : phase = .before := fits
    subst backend
    exact ⟨nofun, .inl rfl, trivial, heeds_openOutput serves plain address purpose fire m⟩
  | copyFrom backend plain address given =>
    obtain rfl : phase = .before := fits
    subst backend
    exact ⟨nofun, .inl rfl, given, heeds_copyFrom serves plain address⟩
  | write bytes backend =>
    obtain ⟨plain, rfl⟩ := fits
    subst backend
    exact ⟨nofun, Job.allows_writing _ (List.prefix_append _ _), trivial,
      heeds_write serves plain bytes⟩
  | put bytes backend =>
    obtain ⟨plain, rfl⟩ := fits
    subst backend
    exact ⟨nofun, Job.allows_writing _ (List.prefix_append _ _), trivial,
      heeds_put serves plain bytes⟩
  | flush backend =>
    obtain ⟨plain, rfl⟩ := fits
    subst backend
    exact ⟨nofun, Job.allows_writing _ List.prefix_rfl, trivial,
      heeds_flush serves plain fun w => Job.allows_writing w List.prefix_rfl⟩
  | close backend =>
    obtain ⟨plain, rfl⟩ := fits
    subst backend
    exact ⟨nofun, (Job.ends_closing _).writing _, trivial,
      heeds_close serves plain (Job.ends_closing _)⟩
  | drop backend =>
    obtain ⟨plain, rfl⟩ := fits
    subst backend
    exact ⟨nofun, (Job.ends_dropping _).writing _, trivial,
      heeds_drop serves plain (Job.ends_dropping _)⟩

section
variable {α : Type} {job : Job W α} {v : α} {a : Address} {phase : Phase W}

/-- Where a thread is after a call is what the call has told it. -/
theorem fits_after {s : S} (known : job.Known a v phase) :
    (job.after v : Stage S W).Fits N a t s phase.next := by
  cases job with
  | opening =>
    obtain ⟨output, rfl, plain, rfl⟩ := known
    exact ⟨plain, rfl⟩
  | writing given =>
    obtain ⟨_, plain, rfl⟩ := known
    exact ⟨plain, rfl⟩
  | closing | copying =>
    obtain ⟨_, rfl⟩ := known
    exact rfl
  | dropping =>
    obtain rfl : phase = .after := known
    exact rfl

/-- What a call has brought, it tells. -/
theorem brought?_of_known (known : job.Known a v phase) (rest : Action S α) :
    (job.brought? v).toList = phase.untold (.busy job rest) := by
  cases job with
  | opening =>
    obtain ⟨output, rfl, _, rfl⟩ := known
    exact rfl
  | writing given =>
    obtain ⟨_, _, rfl⟩ := known
    exact rfl
  | closing | copying =>
    obtain ⟨rfl, rfl⟩ := known
    exact rfl
  | dropping =>
    obtain rfl : phase = .after := known
    exact rfl

theorem succeeds_of_known (known : job.Known a v phase) : job.Succeeds v := by
  cases job with
  | opening =>
    obtain ⟨output, rfl, _⟩ := known
    exact trivial
  | writing given =>
    obtain ⟨answer, output⟩ := v
    obtain ⟨rfl, _⟩ := known
    exact trivial
  | closing | copying =>
    obtain ⟨rfl, _⟩ := known
    exact trivial
  | dropping => exact trivial

end

/-- What a step of one thread does, the others can rely on. -/
theorem fits_of_moved {bytes : Bytes} {w w' : World S} {g' : Turn W}
    (moved : Moved N r.address t bytes w g w' g') {u : Thread} (other : u ≠ t) {stage : Stage S W}
    (fits : stage.Fits N r.address u w.storage (g.phases u)) :
    stage.Fits N r.address u w'.storage (g'.phases u) := by
  rw [moved.others u other]
  cases stage with
  | idle => exact fits
  | opened => exact fits
  | busy job rest =>
    obtain ⟨allowed, needs, heeds⟩ := fits
    exact ⟨allowed, moved.needs needs, heeds⟩

namespace Coherent

theorem begins (serves : N.Serves b) (coherent : Coherent N r c g) {stage : Stage S W}
    (begins : Begins b N r t c.world.storage (c.stages t) stage) :
    Coherent N r (c.put t stage) g := by
  obtain ⟨begun, fits⟩ := fits_of_begins serves begins (coherent.stages t)
  refine ⟨coherent.last, coherent.held, fun u => ?_, fun u => ?_⟩
  · by_cases same : u = t
    · subst same
      rwa [stages_put_self]
    · rw [stages_put_of_ne same]
      exact coherent.stages u
  · by_cases same : u = t
    · subst same
      have told := coherent.told u
      rw [Phase.untold_of_ne begun] at told ⊢
      exact told
    · rw [stages_put_of_ne same]
      exact coherent.told u

/-- A step brings what the call brings exactly if it gives the hold back. -/
theorem step {α : Type} {job : Job W α} {before rest : Action S α} {w : World S} {g' : Turn W}
    (coherent : Coherent N r c g) (stage : c.stages t = .busy job before)
    (held : Held N r.address w g') (moved : Moved N r.address t job.bytes c.world g w g')
    (fits : Stage.Fits N r.address t w.storage (g'.phases t) (.busy job rest)) :
    Coherent N r { c.put t (.busy job rest) with
      world := w, brought := broughtAfter r.address t job.bytes c.world w c.brought } g' := by
  refine ⟨?_, held, fun u => ?_, fun u => ?_⟩
  · rw [moved.last, coherent.last]
    unfold Shift.last broughtAfter
    split
    · simp
    · rfl
  · by_cases same : u = t
    · subst same
      simpa only [stages_put_self] using fits
    · simpa only [stages_put_of_ne same] using fits_of_moved moved same (coherent.stages u)
  · have told := coherent.told u
    by_cases same : u = t
    · subst same
      simp only [stages_put_self]
      rw [stage] at told
      unfold broughtAfter
      split
      · next freed =>
        have after : g'.phases u = .after := moved.after.2 (.inr freed)
        rw [Phase.untold_of_ne (moved.once freed), List.append_nil] at told
        rw [after] at fits ⊢
        rw [broughtBy_snoc_self, told]
        simp [Phase.untold, Stage.brings?, Job.brings?_of_allows fits.1, Shift.put]
      · next kept =>
        rw [told]
        congr 1
        by_cases before : g.phases u = .after
        · rw [before, moved.after.2 (.inl before)]
          rfl
        · have still : g'.phases u ≠ .after := fun after =>
            (moved.after.1 after).elim before kept
          rw [Phase.untold_of_ne before, Phase.untold_of_ne still]
    · simp only [stages_put_of_ne same]
      rw [moved.others u same]
      unfold broughtAfter
      split
      · rw [broughtBy_snoc_of_ne same]
        exact told
      · exact told

/-- With the answer a thread is told what it has brought. -/
theorem answer {α : Type} {job : Job W α} {v : α} (coherent : Coherent N r c g)
    (stage : c.stages t = .busy job (.done v)) :
    Coherent N r { c.put t (job.after v) with
      ended := c.ended ++ (job.brought? v).toList.map (t, ·) } (g.put t (g.phases t).next) := by
  have fits := coherent.stages t
  rw [stage] at fits
  have known : job.Known r.address v (g.phases t) := fits.2.2
  refine ⟨coherent.last, coherent.held.next t, fun u => ?_, fun u => ?_⟩
  · by_cases same : u = t
    · subst same
      simpa only [stages_put_self, Turn.phases_put_self] using fits_after known
    · simp only [stages_put_of_ne same, Turn.phases_put_of_ne same]
      exact coherent.stages u
  · have told := coherent.told u
    by_cases same : u = t
    · subst same
      rw [stage] at told
      rw [Turn.phases_put_self, Phase.untold_next, List.append_nil, broughtBy_told_self,
        brought?_of_known known (.done v)]
      exact told
    · simp only [stages_put_of_ne same]
      rw [Turn.phases_put_of_ne same, broughtBy_told_of_ne same]
      exact told

theorem leaves (serves : N.Serves b) (coherent : Coherent N r c g) {w : World S}
    (leaves : c.Leaves N r w) : Coherent N r { c with world := w } g where
  last := coherent.last
  held := by
    refine ⟨leaves.stays.sound, fun idle => ?_, fun t has => ?_⟩
    · obtain ⟨lock, content⟩ := coherent.held.free idle
      exact ⟨leaves.lock.trans lock, leaves.stays.content.trans content⟩
    · obtain ⟨lock, fits⟩ := coherent.held.taken t has
      refine ⟨leaves.lock.trans lock, ?_⟩
      generalize g.phases t = phase at fits
      cases phase with
      | before | after => cases fits
      | taken => exact leaves.stays.content.trans fits
      | writing w given => exact serves.stays leaves.stays fits
      | finished bytes => exact leaves.stays.content.trans fits
  stages t := by
    have fits := coherent.stages t
    cases stage : c.stages t with
    | idle => rwa [stage] at fits
    | opened => rwa [stage] at fits
    | busy job rest =>
      rw [stage] at fits
      obtain ⟨allowed, _, heeds⟩ := fits
      refine ⟨allowed, ?_, heeds⟩
      cases job with
      | copying source bytes => exact leaves.sources t source bytes rest stage
      | opening | writing | closing | dropping => trivial
  told := coherent.told

end Coherent

theorem Run.coherent (serves : N.Serves b) (run : Run b N r c) : ∃ g, Coherent N r c g := by
  induction run with
  | @start w sound lock =>
    refine ⟨{ last := b.content? r w.storage }, rfl,
      ⟨sound, fun _ => ⟨lock, ?_⟩, fun t has => ?_⟩, fun t => rfl, fun t => rfl⟩
    · exact (serves.content r w.storage).symm
    · cases has
  | call _ begins ih =>
    obtain ⟨g, coherent⟩ := ih
    exact ⟨g, coherent.begins serves begins⟩
  | @step c t α β job answer w act next _ stage admits spared ih =>
    obtain ⟨g, coherent⟩ := ih
    have fits := coherent.stages t
    rw [stage] at fits
    obtain ⟨allowed, needs, heeds⟩ := fits
    obtain failed | ⟨g', ⟨held, needs'⟩, ⟨moved, allowed'⟩, rest⟩ :=
      heeds c.world g answer w ⟨coherent.held, needs⟩ rfl admits
    · exact absurd failed spared
    · exact ⟨g', coherent.step stage held moved ⟨allowed', needs', rest⟩⟩
  | answer _ stage ih =>
    obtain ⟨g, coherent⟩ := ih
    exact ⟨_, coherent.answer stage⟩
  | elsewhere _ leaves ih =>
    obtain ⟨g, coherent⟩ := ih
    exact ⟨g, coherent.leaves serves leaves⟩

/-! ## What the resource holds -/

/-- A thread with the hold brings at least what it has come to. -/
theorem exists_bytes?_of_fits {s : S} {phase : Phase W} {stage : Stage S W}
    (has : phase.HasHold) (fits : stage.Fits N r.address t s phase) :
    ∃ brought, stage.bytes? = some brought ∧ (phase.bytes? = none → stage.given? = none) ∧
      ∀ bytes, phase.bytes? = some bytes → bytes <+: brought := by
  have part {given bytes : Bytes} (prefixes : bytes <+: given) :
      ∀ bytes', some bytes = some bytes' → bytes' <+: given :=
    fun _ eq => Option.some.inj eq ▸ prefixes
  cases stage with
  | idle =>
    obtain rfl : phase = .before := fits
    cases has
  | opened given output =>
    obtain ⟨_, rfl⟩ := fits
    exact ⟨given, rfl, nofun, part List.prefix_rfl⟩
  | busy job rest =>
    refine ⟨job.bytes, rfl, ?_⟩
    obtain ⟨allowed, _⟩ := fits
    cases job with
    | opening =>
      obtain rfl | rfl | ⟨w, rfl⟩ := allowed
      · cases has
      · exact ⟨fun _ => rfl, nofun⟩
      · exact ⟨nofun, part List.prefix_rfl⟩
    | writing given =>
      obtain ⟨w, bytes, rfl, prefixes⟩ := allowed
      exact ⟨nofun, part prefixes⟩
    | closing given | dropping given =>
      obtain ⟨w, rfl⟩ | rfl | rfl := allowed
      · exact ⟨nofun, part List.prefix_rfl⟩
      · exact ⟨nofun, part List.prefix_rfl⟩
      · cases has
    | copying source bytes =>
      obtain rfl | rfl | rfl | rfl := allowed
      · cases has
      · exact ⟨fun _ => rfl, nofun⟩
      · exact ⟨nofun, part List.prefix_rfl⟩
      · cases has

theorem bytes?_of_given? {stage : Stage S W} {given : Bytes}
    (some_given : stage.given? = some given) : stage.bytes? = some given := by
  cases stage with
  | idle => cases some_given
  | opened => exact some_given
  | busy job rest =>
    cases job with
    | opening | copying => cases some_given
    | writing | closing | dropping => exact some_given

namespace Coherent

theorem of_owner (coherent : Coherent N r c g)
    (owner : (c.world.locks.lockAt r.address).owner = some t) :
    (g.phases t).HasHold ∧ (g.phases t).Fits N r.address c.last c.world.storage := by
  by_cases idle : ∀ u, ¬ (g.phases u).HasHold
  · rw [(coherent.held.free idle).1] at owner
    cases owner
  · simp only [not_forall, not_not] at idle
    obtain ⟨u, has⟩ := idle
    obtain ⟨lock, fits⟩ := coherent.held.taken u has
    rw [lock] at owner
    obtain rfl : u = t := Option.some.inj owner
    exact ⟨has, coherent.last ▸ fits⟩

theorem owner_of_hasHold (coherent : Coherent N r c g) (has : (g.phases t).HasHold) :
    (c.world.locks.lockAt r.address).owner = some t := by
  rw [(coherent.held.taken t has).1]
  rfl

theorem content_of_free (serves : N.Serves b) (coherent : Coherent N r c g)
    (free : ∀ u, ¬ (g.phases u).HasHold) : b.content? r c.world.storage = c.last := by
  rw [serves.content, ← coherent.last]
  exact (coherent.held.free free).2

/-- What the store holds while a thread has the hold. -/
theorem content_of_hasHold (serves : N.Serves b) (coherent : Coherent N r c g)
    (has : (g.phases t).HasHold) (fits : (g.phases t).Fits N r.address c.last c.world.storage) :
    ∃ brought, (c.stages t).bytes? = some brought ∧
      ((c.stages t).given? = none ∧ b.content? r c.world.storage = c.last ∨
        ∃ bytes, b.content? r c.world.storage = some bytes ∧ bytes <+: brought) := by
  obtain ⟨brought, brings, unset, part⟩ := exists_bytes?_of_fits has (coherent.stages t)
  refine ⟨brought, brings, ?_⟩
  rw [serves.content]
  generalize g.phases t = phase at fits unset part
  cases phase with
  | before | after => cases fits
  | taken => exact .inl ⟨unset rfl, fits⟩
  | writing w given =>
    obtain ⟨bytes, content, written⟩ := serves.part fits
    exact .inr ⟨bytes, content, written.trans (part given rfl)⟩
  | finished bytes => exact .inr ⟨bytes, fits, part bytes rfl⟩

/-- A thread that has given its hold back is about to tell what it has brought. -/
theorem brings_of_after (coherent : Coherent N r c g) (after : g.phases t = .after) :
    ∃ bytes, (c.stages t).brings? = some bytes ∧
      broughtBy t c.brought = broughtBy t c.ended ++ [bytes] := by
  have told := coherent.told t
  have fits := coherent.stages t
  rw [after] at fits told
  cases stage : c.stages t with
  | idle => simp [stage, Stage.Fits] at fits
  | opened given output => simp [stage, Stage.Fits] at fits
  | busy job rest =>
    rw [stage] at fits told
    have brings := Job.brings?_of_allows fits.1
    refine ⟨job.bytes, brings, ?_⟩
    rw [told, Phase.untold, Stage.brings?, brings]
    rfl

theorem owner_of_isOpen (coherent : Coherent N r c g) (isOpen : (c.stages t).isOpen = true) :
    (c.world.locks.lockAt r.address).owner = some t := by
  have fits := coherent.stages t
  cases stage : c.stages t with
  | idle => simp [stage, Stage.isOpen] at isOpen
  | opened given output =>
    rw [stage] at fits
    exact coherent.owner_of_hasHold (fits.2 ▸ trivial)
  | busy job rest =>
    rw [stage] at fits
    cases job with
    | opening | closing | dropping | copying => simp [stage, Stage.isOpen] at isOpen
    | writing given =>
      obtain ⟨w, bytes, mine, _⟩ := fits.1
      exact coherent.owner_of_hasHold (mine ▸ trivial)

theorem isSerial (serves : N.Serves b) (coherent : Coherent N r c g) : c.IsSerial b r where
  settled free := by
    refine coherent.content_of_free serves fun u has => ?_
    rw [Locks.isHeld, (coherent.held.taken u has).1] at free
    cases free
  succeeds {t α job v} stage := by
    have fits := coherent.stages t
    rw [stage] at fits
    exact succeeds_of_known fits.2.2
  told t := by
    by_cases after : g.phases t = .after
    · exact .inr (coherent.brings_of_after after)
    · have told := coherent.told t
      rw [Phase.untold_of_ne after, List.append_nil] at told
      exact .inl told
  held t := coherent.owner_of_isOpen
  part t given some_given owner := by
    obtain ⟨has, fits⟩ := coherent.of_owner owner
    obtain ⟨brought, brings, ⟨none_given, _⟩ | content⟩ :=
      coherent.content_of_hasHold serves has fits
    · cases none_given.symm.trans some_given
    · obtain rfl := Option.some.inj (brings.symm.trans (bytes?_of_given? some_given))
      exact content
  unmixed := by
    by_cases idle : ∀ u, ¬ (g.phases u).HasHold
    · exact .inl (coherent.content_of_free serves idle)
    · simp only [not_forall, not_not] at idle
      obtain ⟨t, has⟩ := idle
      have owner := coherent.owner_of_hasHold has
      obtain ⟨_, fits⟩ := coherent.of_owner owner
      obtain ⟨brought, brings, ⟨_, same⟩ | ⟨bytes, content, part⟩⟩ :=
        coherent.content_of_hasHold serves has fits
      · exact .inl same
      · exact .inr ⟨t, brought, bytes, owner, brings, content, part⟩

end Coherent

theorem Run.isSerial (serves : N.Serves b) (run : Run b N r c) : c.IsSerial b r := by
  obtain ⟨g, coherent⟩ := run.coherent serves
  exact coherent.isSerial serves

/-! ## In turn -/

/-- After the source was written, one thread writes, another copies and writes, and the
first one copies. -/
def inTurn (N : Numbering S W) (h source : Handle S R W) (bytes : Bytes) (w : World S) : Bool :=
  let free (w : World S) : Bool := w.locks.lockAt h.resource.address = {}
  let given (w : World S) : Bool :=
    decide (N.Source h.resource.address source.resource.address bytes w.storage)
  ((writeOnce source 0 bytes).run w).passes fun done w => done && (free w &&
    ((writeOnce h 0 [1, 2]).run w).passes fun done w => done && (given w &&
      ((h.copyFrom 1 source).run w).passes fun result w => result.isOk &&
        ((writeOnce h 1 [3]).run w).passes fun done w => done && (given w &&
          ((h.copyFrom 0 source).run w).passes fun result w => result.isOk && (free w &&
            decide (h.cache.backend.content? h.resource w.storage = some bytes)))))

theorem exists_run_in_turn (serves : N.Serves b) (h source : Handle S R W) (bytes : Bytes) {s : S}
    (sound : N.sound s) (backend : h.cache.backend = b) (backend' : source.cache.backend = b)
    (plain : h.cache.hooks? = none) (plain' : source.cache.hooks? = none)
    (goes : inTurn N h source bytes { storage := s } = true) :
    ∃ c, Run b N h.resource c ∧ (∀ t, c.stages t = .idle) ∧
      c.world.locks.isHeld h.resource.address = false ∧
      b.content? h.resource c.world.storage = some bytes ∧
      c.ended = [(0, [1, 2]), (1, bytes), (1, [3]), (0, bytes)] := by
  have start := Run.start (b := b) (r := source.resource) (w := { storage := s }) sound rfl
  obtain ⟨c₀, run₀, goes, _⟩ := start.writeOnce rfl backend' plain' rfl goes
  obtain ⟨free, goes⟩ := Bool.and_eq_true_iff.1 goes
  obtain ⟨_, coherent⟩ := run₀.coherent serves
  have start := Run.start (b := b) coherent.held.sound (of_decide_eq_true free)
  obtain ⟨c₁, run₁, goes, first⟩ := start.writeOnce (t := 0) rfl backend plain rfl goes
  obtain ⟨given, goes⟩ := Bool.and_eq_true_iff.1 goes
  have idle₁ : c₁.stages 1 = .idle := first.others 1 (by decide)
  obtain ⟨c₂, run₂, goes, second⟩ :=
    run₁.copyOnce idle₁ backend plain rfl (of_decide_eq_true given) goes
  obtain ⟨c₃, run₃, goes, third⟩ := run₂.writeOnce second.stage backend plain rfl goes
  obtain ⟨given, goes⟩ := Bool.and_eq_true_iff.1 goes
  have rest := second.trans third
  have idle₃ : c₃.stages 0 = .idle := (rest.others 0 (by decide)).trans first.stage
  obtain ⟨c, run, goes, last⟩ :=
    run₃.copyOnce idle₃ backend plain rfl (of_decide_eq_true given) goes
  obtain ⟨free, content⟩ := Bool.and_eq_true_iff.1 goes
  refine ⟨c, run, fun t => ?_, ?_, backend ▸ of_decide_eq_true content, ?_⟩
  · by_cases zero : t = 0
    · rw [zero]
      exact last.stage
    rw [last.others t zero]
    by_cases one : t = 1
    · rw [one]
      exact rest.stage
    · rw [rest.others t one, first.others t zero]
  · simp [Locks.isHeld, of_decide_eq_true free]
  · rw [last.ended, rest.ended, first.ended]
    rfl

end Shift
end

/-- **Writes to one resource are serial**, in memory and on disk: whatever threads
open, write, flush, close, drop and copy, and in whatever order their steps are
taken, the resource holds what one of them has brought, and each thread has brought what
its answers say. -/
theorem writes_are_serial :
    (∀ (linking : Bool) (r : Resource) (c : Shift Memory Memory.Writer),
      Shift.Run (Memory.backend linking) Memory.numbering r c →
      c.IsSerial (Memory.backend linking) r) ∧
    (∀ (f : Files) (r : Resource) (c : Shift Disk Disk.Writer),
      Shift.Run f.backend f.numbering r c → c.IsSerial f.backend r) :=
  ⟨fun linking _ _ run => run.isSerial (Memory.serves linking),
    fun f _ _ run => run.isSerial f.serves⟩

/-- Two threads write and copy in turn, and the last copy stays. -/
theorem writes_are_serial_in_turn :
    let r : Resource := .ofText { name := "local", uri := "file:///srv/local" } "a/b"
    let f : Files := { root := "/cache" }
    (∃ c, Shift.Run (Memory.backend false) Memory.numbering r c ∧
      c.IsSerial (Memory.backend false) r ∧
      c.ended = [(0, [1, 2]), (1, [7, 8]), (1, [3]), (0, [7, 8])] ∧
      Shift.broughtBy 0 c.brought = [[1, 2], [7, 8]] ∧
      Shift.broughtBy 1 c.brought = [[7, 8], [3]] ∧ c.last = some [7, 8]) ∧
    ∃ c, Shift.Run f.backend f.numbering r c ∧ c.IsSerial f.backend r ∧
      c.ended = [(0, [1, 2]), (1, [7, 8]), (1, [3]), (0, [7, 8])] ∧
      Shift.broughtBy 0 c.brought = [[1, 2], [7, 8]] ∧
      Shift.broughtBy 1 c.brought = [[7, 8], [3]] ∧ c.last = some [7, 8] := by
  intro r f
  let source : Resource := .ofText { name := "local", uri := "file:///srv/local" } "c"
  obtain ⟨inMemory, onDisk⟩ := writes_are_serial
  constructor
  · have sound : Memory.numbering.sound Memory.empty := fun _ _ number => by cases number
    let c : Cache Memory Bytes Memory.Writer := { backend := Memory.backend false }
    obtain ⟨c, run, idle, free, content, ended⟩ := Shift.exists_run_in_turn (Memory.serves false)
      ⟨c, r⟩ ⟨c, source⟩ [7, 8] sound rfl rfl rfl rfl (by decide +kernel)
    have serial := inMemory false r c run
    refine ⟨c, run, serial, ended, ?_, ?_, (serial.settled free).symm.trans content⟩
    · rw [serial.told_of_idle (idle 0), ended]
      rfl
    · rw [serial.told_of_idle (idle 1), ended]
      rfl
  · have sound : f.numbering.sound {} := ⟨⟨Disk.closed_empty, by decide⟩, Disk.numbered_empty⟩
    let c : Cache Disk Disk.Reader Disk.Writer := { backend := f.backend }
    obtain ⟨c, run, idle, free, content, ended⟩ := Shift.exists_run_in_turn f.serves
      ⟨c, r⟩ ⟨c, source⟩ [7, 8] sound rfl rfl rfl rfl (by decide +kernel)
    have serial := onDisk f r c run
    refine ⟨c, run, serial, ended, ?_, ?_, (serial.settled free).symm.trans content⟩
    · rw [serial.told_of_idle (idle 0), ended]
      rfl
    · rw [serial.told_of_idle (idle 1), ended]
      rfl

end ArtifactCache
