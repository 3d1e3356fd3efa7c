import ArtifactCache.Catalog
import ArtifactCache.Endpoint.Directories
import ArtifactCache.Files
import ArtifactCache.Memory
import ArtifactCache.Proofs.Accord

/-!
# Where failures that blame the groups come from

Two failures are about the table of groups: a group that is missing, and a circle.
They come from the expansion of a catalog and from nowhere else, unless the store
or the endpoint reports them (`Cache.SparesGroups`), which the store in memory, the
store on disk and the endpoint of directories do not.

`Program.Answers` is what a program can end with, whatever the states are in which
its steps are taken; `answers_retrieve`, `answers_store` and `answers_list` follow
the operations of a cache down to its store.
-/
namespace ArtifactCache

/-- The failure is about the table of groups. -/
def Failure.blamesGroups : Failure → Bool
  | .cycle _ | .invalidResource (.unknownGroup _) => true
  | _ => false

/-- The result is no failure that is about the table of groups. -/
def Blameless {α : Type} (result : Except Failure α) : Prop :=
  ∀ e, result = .error e → e.blamesGroups = false

section
variable {α β : Type}

@[simp] theorem blameless_ok (a : α) : Blameless (.ok a : Except Failure α) :=
  fun _ h => by cases h

@[simp] theorem blameless_error {e : Failure} :
    Blameless (.error e : Except Failure α) ↔ e.blamesGroups = false :=
  ⟨fun h => h e rfl, fun h _ eq => by cases eq; exact h⟩

/-- A failure that is passed on blames what it blamed. -/
theorem Blameless.passOn {e : Failure} (blameless : Blameless (.error e : Except Failure α)) :
    Blameless (.error e : Except Failure β) :=
  blameless_error.2 (blameless_error.1 blameless)

theorem Blameless.map {result : Except Failure α} (spares : Blameless result) (f : α → β) :
    Blameless (result.map f) := by
  cases result with
  | ok a => exact blameless_ok _
  | error e => exact spares.passOn

end

namespace Program
variable {σ α β : Type}

/-- In whatever states the steps of the program are taken, it ends with such a value
if it ends. -/
def Answers (such : α → Prop) : Program σ α → Prop
  | done v => such v
  | step act next => ∀ s b s', act s = some (b, s') → Answers such (next b)

theorem Answers.bind {such : α → Prop} {such' : β → Prop} {p : Program σ α} {k : α → Program σ β}
    (first : p.Answers such) (rest : ∀ a, such a → (k a).Answers such') :
    (p >>= k).Answers such' := by
  induction p with
  | done v => exact rest v first
  | step act next ih => exact fun s b s' admits => ih b (first s b s' admits)

/-- It is enough to look at the end. -/
theorem Answers.seq {such : β → Prop} {p : Program σ α} {k : α → Program σ β}
    (rest : ∀ a, (k a).Answers such) : (p >>= k).Answers such := by
  induction p with
  | done v => exact rest v
  | step act next ih => exact fun _ b _ _ => ih b

theorem Answers.change {such : α → Prop} {act : σ → α × σ} (fits : ∀ s, such (act s).1) :
    (change act).Answers such := by
  intro s b s' admits
  obtain ⟨rfl, rfl⟩ := Prod.mk.inj (Option.some.inj admits)
  exact fits s

end Program

open Program (Answers)

/-! ## One resource -/

namespace Handle
variable {S R W α : Type} {h : Handle S R W}

theorem answers_reported (fire : Bool) (m : Metadata) {result : Except Failure α}
    (spares : Blameless result) :
    (do h.reportFailure fire m result; return result : Action S (Except Failure α)).Answers
      Blameless :=
  .seq fun _ => spares

theorem answers_consult (hook : Hook) (call : HookCall) (ask : Hooks → Except Fault α)
    (passing : α) : (h.consult hook call ask passing).Answers Blameless := by
  unfold consult
  split
  · exact blameless_ok _
  · refine .seq fun _ => ?_
    split
    · exact blameless_ok _
    · exact blameless_error.2 rfl

theorem answers_openWriter (opens : ∀ s, Blameless (h.cache.backend.openWriter h.resource s).1)
    (purpose : Purpose) (fire : Bool) (m : Metadata) :
    (h.openWriter purpose fire m).Answers Blameless := by
  have opened : (Action.alter (h.cache.backend.openWriter h.resource)).Answers Blameless :=
    .change fun w => opens w.storage
  refine opened.bind fun opened spares => ?_
  cases opened with
  | error e => exact spares.passOn
  | ok stream =>
    refine (answers_consult _ _ _ _).bind fun answer spares => .seq fun _ => ?_
    cases answer with
    | error e => exact .seq fun _ => spares.passOn
    | ok filter =>
      dsimp only
      split <;> exact .seq fun _ => blameless_ok _

theorem answers_openOutput (opens : ∀ s, Blameless (h.cache.backend.openWriter h.resource s).1)
    (t : Thread) (purpose : Purpose) (fire : Bool) (m : Metadata) :
    (h.openOutput t purpose fire m).Answers Blameless := by
  refine .seq fun _ => ?_
  have acquired : (Locks.acquire t h.resource : Action S _).Answers Blameless := by
    refine .seq fun taken => ?_
    cases taken
    · exact blameless_error.2 rfl
    · exact blameless_ok _
  refine acquired.bind fun acquired spares => ?_
  cases acquired with
  | error e => exact answers_reported fire m spares.passOn
  | ok =>
    refine (answers_openWriter opens purpose fire m).bind fun opened spares => ?_
    cases opened with
    | error e =>
      exact .seq fun _ => answers_reported fire m spares.passOn
    | ok output => exact answers_reported fire m (blameless_ok _)

theorem answers_list (lists : ∀ s, Blameless (h.cache.backend.list h.resource s)) :
    h.list.Answers Blameless := by
  have listed : (Action.inspect (h.cache.backend.list h.resource)).Answers Blameless :=
    .change fun w => lists w.storage
  refine listed.bind fun listed spares => ?_
  cases listed with
  | error e => exact spares.passOn
  | ok names => exact answers_consult _ _ _ _

end Handle

/-! ## A cache -/

namespace Cache
variable {S R W : Type} {c : Cache S R W}

/-- Neither the store nor the endpoint reports a failure of the groups, of which
they know nothing. -/
structure SparesGroups (c : Cache S R W) : Prop where
  opens : ∀ r s, Blameless (c.backend.openWriter r s).1
  lists : ∀ r s, Blameless (c.backend.list r s)
  fetches : ∀ endpoint, c.endpoint? = some endpoint →
    ∀ r s, Blameless (endpoint.fetch r s).1

theorem answers_download (spares : c.SparesGroups) (t : Thread) {endpoint : Endpoint S}
    (given : c.endpoint? = some endpoint) (r : Resource) (m : Metadata) :
    (c.download t endpoint (c.handle r) m).Answers Blameless := by
  have fetched : (fetch endpoint r).Answers Blameless := by
    refine .seq fun _ => ?_
    have looked : (Action.inspect (endpoint.fetch r)).Answers
        fun result => Blameless result.1 :=
      .change fun w => spares.fetches endpoint given r w.storage
    exact looked.bind fun _ fits => .seq fun _ => fits
  refine fetched.bind fun found fits => ?_
  obtain e | _ | source := found
  · exact fits.passOn
  · exact blameless_ok _
  refine (Handle.answers_openOutput (spares.opens r) t _ _ m).bind fun opened fits => ?_
  cases opened with
  | error e => exact fits.passOn
  | ok output =>
    refine .seq fun poured => ?_
    cases poured with
    | ok n => exact .seq fun _ => blameless_ok _
    | error fault =>
      refine .seq fun deleted => ?_
      cases deleted with
      | ok => exact blameless_error.2 rfl
      | error e => exact .seq fun _ => blameless_error.2 rfl

theorem answers_retrieve (spares : c.SparesGroups) (t : Thread) (r : Resource) (m : Metadata) :
    (c.retrieve t r m).Answers Blameless := by
  refine .seq fun there => ?_
  split
  · exact blameless_ok _
  split
  · exact blameless_ok _
  split
  · exact blameless_ok _
  · next endpoint given =>
    refine (answers_download spares t given r m).bind fun fetched fits => ?_
    cases fetched with
    | error e => exact fits.passOn
    | ok => exact blameless_ok _

theorem answers_store (spares : c.SparesGroups) (t : Thread) (r : Resource) (source : Source S)
    (m : Metadata) : (c.store t r source m).Answers Blameless := by
  refine (Handle.answers_openOutput (spares.opens r) t _ _ m).bind fun opened fits => ?_
  cases opened with
  | error e => exact fits.passOn
  | ok output =>
    refine .seq fun poured => ?_
    cases poured with
    | error fault => exact blameless_error.2 rfl
    | ok n => exact .seq fun _ => blameless_ok _

end Cache

/-! ## A catalog -/

namespace Catalog
variable {S R W α : Type} {c : Cache S R W} {t : Thread} {expansion : Expansion}
  {locations : List Location} {path : String}

theorem answers_spreading {H : Type} {catalog : Catalog S H}
    {go : Spread → Action S (Except Failure α)}
    (expands : Blameless (catalog.expansion.expand locations))
    (goes : ∀ spread, (go spread).Answers Blameless) :
    (catalog.spreading locations path go).Answers Blameless := by
  unfold spreading Expansion.spread
  cases expanded : catalog.expansion.expand locations with
  | error e =>
    rw [expanded] at expands
    exact expands.passOn
  | ok out =>
    cases spread : Spread.ofText? out path with
    | none =>
      simp only [bind, Except.bind, spread]
      exact blameless_error.2 rfl
    | some spread' =>
      simp only [bind, Except.bind, spread]
      exact goes spread'

theorem answers_visit (spares : c.SparesGroups) (m : Metadata) (first? : Option Failure)
    (blameless : ∀ e, first? = some e → e.blamesGroups = false) (rs : List Resource) :
    (Search.retrieveFirst.visit (c.supplier t) m first? rs).Answers Blameless := by
  induction rs generalizing first? with
  | nil =>
    cases first? with
    | none => exact blameless_ok _
    | some e => exact blameless_error.2 (blameless e rfl)
  | cons r rest ih =>
    refine (Cache.answers_retrieve spares t r m).bind fun found fits => ?_
    obtain e | _ | h := found
    · refine .seq fun _ => ih _ fun e' given => ?_
      cases first? with
      | none =>
        obtain rfl := Option.some.inj given
        exact blameless_error.1 fits
      | some e'' => exact blameless e' given
    · exact ih first? blameless
    · exact blameless_ok _

theorem answers_retrieve (spares : c.SparesGroups) {l : Location}
    (expands : Blameless (expansion.expand [l])) (m : Metadata) :
    (Catalog.retrieve ⟨c.supplier t, expansion⟩ l path m).Answers Blameless :=
  answers_spreading expands fun _ =>
    answers_visit spares m none (fun _ given => by cases given) _

theorem answers_store (spares : c.SparesGroups) {l : Location}
    (expands : Blameless (expansion.expand [l])) (source : Source S) (m : Metadata) :
    (Catalog.store ⟨c.supplier t, expansion⟩ l path source m).Answers Blameless := by
  refine answers_spreading expands fun spread => ?_
  unfold Search.store
  split
  · exact Cache.answers_store spares t _ source m
  · exact .seq fun _ => blameless_error.2 rfl

/-- What fails at one location does not fail the deletion. -/
theorem answers_delete {l : Location} (expands : Blameless (expansion.expand [l]))
    (m : Metadata) :
    (Catalog.delete ⟨c.supplier t, expansion⟩ l path m).Answers Blameless := by
  have reported : (Catalog.deleteReport ⟨c.supplier t, expansion⟩ [l] path m).Answers
      Blameless :=
    answers_spreading expands fun _ => .seq fun _ => blameless_ok _
  exact reported.bind fun _ fits => fits.map _

theorem answers_list (spares : c.SparesGroups) {l : Location}
    (expands : Blameless (expansion.expand [l])) :
    (Catalog.list ⟨c.supplier t, expansion⟩ l path).Answers Blameless := by
  refine answers_spreading expands fun spread => ?_
  induction spread.resources with
  | nil => exact blameless_ok _
  | cons r rest ih =>
    refine (Handle.answers_list (spares.lists r)).bind fun listed fits => ?_
    cases listed with
    | error e => exact fits.passOn
    | ok names => exact ih.bind fun _ fits => fits.map _

end Catalog

/-! ## The stores, and the endpoint of directories -/

namespace Memory

theorem blameless_unlessBarred {α : Type} {activity : Activity} {r : Resource} {m : Memory}
    {go : Except Failure α × Memory} (goes : Blameless go.1) :
    Blameless (unlessBarred activity r m go).1 := by
  unfold unlessBarred
  split
  · exact blameless_error.2 rfl
  · exact goes

theorem blameless_openWriter (r : Resource) (m : Memory) : Blameless (m.openWriter r).1 := by
  refine blameless_unlessBarred ?_
  split
  · exact blameless_error.2 rfl
  · exact blameless_ok _

end Memory

namespace Files

theorem blameless_withParent {α : Type} {activity : Activity} {p : Place} {d : Disk}
    {go : Disk → Except Failure α × Disk} (goes : ∀ d, Blameless (go d).1) :
    Blameless (withParent activity p d go).1 := by
  unfold withParent
  split
  · exact goes d
  split
  · exact goes d
  split
  · exact blameless_error.2 rfl
  · next d' _ => exact goes d'

theorem blameless_openWriter (f : Files) (r : Resource) (d : Disk) :
    Blameless (f.openWriter r d).1 := by
  refine blameless_withParent fun d => ?_
  split
  · exact blameless_error.2 rfl
  · exact blameless_ok _

theorem blameless_list (f : Files) (r : Resource) (d : Disk) : Blameless (f.list r d) := by
  unfold list
  split <;> exact blameless_ok _

end Files

theorem Endpoint.blameless_fetchFile (uris : UriReader) (r : Resource) (d : Disk) :
    Blameless (fetchFile uris r d).1 := by
  have placed : Blameless (placeOf? r uris) := by
    unfold placeOf?
    split
    · exact blameless_error.2 rfl
    split
    · exact blameless_ok _
    split
    · exact blameless_error.2 rfl
    · exact blameless_ok _
  unfold fetchFile
  split
  · next e failed =>
    rw [failed] at placed
    exact placed.passOn
  · exact blameless_ok _
  · split <;> exact blameless_ok _

/-- A cache in memory that fetches nothing. -/
theorem Cache.sparesGroups_memory (linking : Bool) (listener : Listener) (hooks? : Option Hooks) :
    ({ backend := Memory.backend linking, listener, hooks? } :
      Cache Memory Bytes Memory.Writer).SparesGroups where
  opens := Memory.blameless_openWriter
  lists _ _ := blameless_ok _
  fetches _ given := by cases given

/-- A cache on disk that fetches from the directories of its locations. -/
theorem Cache.sparesGroups_files (f : Files) (listener : Listener) (hooks? : Option Hooks)
    (uris : UriReader) :
    ({ backend := f.backend, listener, hooks?, endpoint? := some (Endpoint.directories uris) } :
      Cache Disk Disk.Reader Disk.Writer).SparesGroups where
  opens := f.blameless_openWriter
  lists := f.blameless_list
  fetches _ given := by
    cases given
    exact Endpoint.blameless_fetchFile uris

end ArtifactCache
