import ArtifactCache.Handle.Operations

/-!
Programs among others. A thread sees the shared state only at its own steps,
and others may change it in between. An accord is what all of them keep to: an
invariant, with what each step may do to it. `Program.Heeds` says that every
step of a program keeps the accord, and what the thread knows at its end.
-/
namespace ArtifactCache

/-- What the threads agree on: an invariant of the shared state together with
what is known about it beside, and what one step may do to both. -/
structure Accord (σ G M : Type) where
  holds : σ → G → Prop
  moves : σ → G → σ → G → Prop
  /-- What the thread that moves can rely on: nobody else changes it. -/
  mine : G → M

/-- An invariant of the state, and nothing beside. -/
abbrev Accord.ofInvariant {σ : Type} (holds : σ → Prop) : Accord σ Unit Unit where
  holds s _ := holds s
  moves _ _ _ _ := True
  mine := id

namespace Program
variable {σ G M α β : Type}

/-- Whatever the program meets, it ends with such a value if it ends. -/
def EndsIn (such : α → Prop) : Program σ α → Prop
  | done v => such v
  | step _ next => ∀ b, EndsIn such (next b)

theorem EndsIn.mono {such such' : α → Prop} {p : Program σ α} (ends : p.EndsIn such)
    (le : ∀ v, such v → such' v) : p.EndsIn such' := by
  induction p with
  | done v => exact le v ends
  | step act next ih => exact fun b => ih b (ends b)

theorem EndsIn.bind {such : α → Prop} {such' : β → Prop} {p : Program σ α} {k : α → Program σ β}
    (first : p.EndsIn such) (rest : ∀ a, such a → (k a).EndsIn such') :
    (p >>= k).EndsIn such' := by
  induction p with
  | done v => exact rest v first
  | step act next ih => exact fun b => ih b (first b)

/-- It is enough to look at the end. -/
theorem EndsIn.seq {such : β → Prop} {p : Program σ α} {k : α → Program σ β}
    (rest : ∀ a, (k a).EndsIn such) : (p >>= k).EndsIn such := by
  induction p with
  | done v => exact rest v
  | step act next ih => exact fun b => ih b

/-- From what the thread knows, each step of the program keeps the accord
wherever it may be taken, and at the end the value fits what is known then. A
program that can only end with a failure is not held to anything. -/
def Heeds (A : Accord σ G M) (failure : α → Prop) (post : α → M → Prop) : M → Program σ α → Prop
  | m, done v => post v m
  | m, step act next => ∀ s g b s', A.holds s g → A.mine g = m → act s = some (b, s') →
      (next b).EndsIn failure ∨
        ∃ g', A.holds s' g' ∧ A.moves s g s' g' ∧ Heeds A failure post (A.mine g') (next b)

variable {A : Accord σ G M} {failure : α → Prop}

theorem Heeds.bind {failure' : β → Prop} {mid : α → M → Prop} {post : β → M → Prop} {m : M}
    {p : Program σ α} {k : α → Program σ β} (first : p.Heeds A failure mid m)
    (rest : ∀ a m', mid a m' → (k a).Heeds A failure' post m')
    (fails : ∀ a, failure a → (k a).EndsIn failure') : (p >>= k).Heeds A failure' post m := by
  induction p generalizing m with
  | done v => exact rest v m first
  | step act next ih =>
    intro s g b s' holds known admits
    obtain failed | ⟨g', holds', moves, first'⟩ := first s g b s' holds known admits
    · exact .inl (failed.bind fails)
    · exact .inr ⟨g', holds', moves, ih b first'⟩

/-- A program that does not fail, in front of another. -/
theorem Heeds.seq {mid : α → M → Prop} {failure' : β → Prop} {post : β → M → Prop} {m : M}
    {p : Program σ α} {k : α → Program σ β} (first : p.Heeds A (fun _ => False) mid m)
    (rest : ∀ a m', mid a m' → (k a).Heeds A failure' post m') :
    (p >>= k).Heeds A failure' post m :=
  first.bind rest fun _ => False.elim

/-- One step that every state admits. -/
theorem Heeds.change {post : α → M → Prop} {m : M} {act : σ → α × σ}
    (keeps : ∀ s g, A.holds s g → A.mine g = m → failure (act s).1 ∨
      ∃ g', A.holds (act s).2 g' ∧ A.moves s g (act s).2 g' ∧ post (act s).1 (A.mine g')) :
    (change act).Heeds A failure post m := by
  intro s g b s' holds known admits
  obtain ⟨rfl, rfl⟩ := Prod.mk.inj (Option.some.inj admits)
  exact keeps s g holds known

/-- The value at the end, if the program has come there. -/
def Progress.value? : Progress σ α → Option α
  | .finished v _ => some v
  | .waiting _ _ => none

/-- The program has come to its end, with such a value in such a state. -/
def Progress.passes (such : α → σ → Bool) : Progress σ α → Bool
  | .finished v s => such v s
  | .waiting _ _ => false

theorem Progress.exists_of_passes {such : α → σ → Bool} {progress : Progress σ α}
    (passed : progress.passes such = true) :
    ∃ v s, progress = .finished v s ∧ such v s = true := by
  cases progress with
  | finished v s => exact ⟨v, s, rfl, passed⟩
  | waiting => cases passed

theorem finished_of_bind {p : Program σ α} {k : α → Program σ β} {s e : σ} {v : β}
    (ends : (p >>= k).run s = .finished v e) :
    ∃ a s', p.run s = .finished a s' ∧ (k a).run s' = .finished v e := by
  induction p generalizing s with
  | done a => exact ⟨a, s, rfl, ends⟩
  | step act next ih =>
    change (step act fun b => next b >>= k).run s = _ at ends
    rw [run] at ends ⊢
    split at ends
    · cases ends
    · exact ih _ ends

/-- How a program can end that is begun in a state, when others move in between. -/
inductive Yields (others : σ → σ → Prop) : Program σ α → σ → α → σ → Prop
  | done (v : α) (s : σ) : Yields others (done v) s v s
  | step {β : Type} {act : σ → Option (β × σ)} {next : β → Program σ α} {s s' e : σ} {b : β}
      {v : α} : act s = some (b, s') → Yields others (next b) s' v e →
      Yields others (step act next) s v e
  | meanwhile {p : Program σ α} {s s' e : σ} {v : α} :
      others s s' → Yields others p s' v e → Yields others p s v e

/-- A program that runs to its end undisturbed. -/
theorem Yields.of_run {others : σ → σ → Prop} {p : Program σ α} {s e : σ} {v : α}
    (ends : p.run s = .finished v e) : p.Yields others s v e := by
  induction p generalizing s with
  | done v' =>
    obtain ⟨rfl, rfl⟩ := Progress.finished.inj ends
    exact .done _ _
  | step act next ih =>
    rw [run] at ends
    split at ends
    · cases ends
    · next admits => exact .step admits (ih _ ends)

theorem EndsIn.of_yields {others : σ → σ → Prop} {such : α → Prop} {p : Program σ α} {s e : σ}
    {v : α} (ends : p.EndsIn such) (yields : p.Yields others s v e) : such v := by
  induction yields with
  | done => exact ends
  | step _ _ ih => exact ih (ends _)
  | meanwhile _ _ ih => exact ih ends

theorem EndsIn.of_run {such : α → Prop} {p : Program σ α} {s e : σ} {v : α}
    (ends : p.EndsIn such) (run : p.run s = .finished v e) : such v :=
  have yields : p.Yields (fun _ _ => False) s v e := .of_run run
  ends.of_yields yields

/-- What every step keeps, and the others too, holds at the end. -/
theorem Heeds.of_yields {holds : σ → Prop} {others : σ → σ → Prop} {good : α → Prop}
    {p : Program σ α} {s e : σ} {v : α} (stable : ∀ s s', others s s' → holds s → holds s')
    (yields : p.Yields others s v e)
    (heeds : p.Heeds (.ofInvariant holds) (fun _ => False) (fun v _ => good v) ())
    (begins : holds s) : good v ∧ holds e := by
  induction yields with
  | done => exact ⟨heeds, begins⟩
  | step admits rest ih =>
    obtain failed | ⟨_, holds', _, heeds'⟩ := heeds _ () _ _ begins rfl admits
    · exact (failed.of_yields rest).elim
    · exact ih heeds' holds'
  | meanwhile moved _ ih => exact ih heeds (stable _ _ moved begins)

end Program

/-! ## Steps that touch nothing -/

section
variable {S R W G M β : Type}

/-- A thread that knows `m` may go on as long as it touches neither the store
nor a lock. -/
def Accord.Idles (A : Accord (World S) G M) (m : M) : Prop :=
  ∀ w g w', A.holds w g → A.mine g = m → w'.storage = w.storage →
    (∀ a, w'.locks.lockAt a = w.locks.lockAt a) → A.holds w' g ∧ A.moves w g w' g

/-- What is known of the store alone does not depend on the rest. -/
theorem Accord.Idles.ofInvariant (holds : S → Prop) :
    (Accord.ofInvariant fun w : World S => holds w.storage).Idles () := by
  intro w _ w' here _ storage _
  change holds w.storage at here
  rw [← storage] at here
  exact ⟨here, trivial⟩

namespace Accord.Idles
variable {A : Accord (World S) G M} {m : M} {failure : β → Prop}

theorem attempt {act : World S → Option (β × World S)} (idles : A.Idles m)
    (still : ∀ w v w', act w = some (v, w') →
      w'.storage = w.storage ∧ ∀ a, w'.locks.lockAt a = w.locks.lockAt a) :
    (Program.attempt act).Heeds A failure (fun _ m' => m' = m) m := by
  intro w g v w' holds known admits
  obtain ⟨storage, lock⟩ := still w v w' admits
  obtain ⟨holds', moves⟩ := idles w g w' holds known storage lock
  exact .inr ⟨g, holds', moves, known⟩

theorem change {act : World S → β × World S} (idles : A.Idles m)
    (still : ∀ w, (act w).2.storage = w.storage ∧
      ∀ a, (act w).2.locks.lockAt a = w.locks.lockAt a) :
    (Program.change act).Heeds A failure (fun _ m' => m' = m) m :=
  idles.attempt fun w v w' admits => by
    obtain ⟨rfl, rfl⟩ := Prod.mk.inj (Option.some.inj admits)
    exact still w

theorem note (idles : A.Idles m) (o : Occurrence) {failure : Unit → Prop} :
    (Action.note o : Action S Unit).Heeds A failure (fun _ m' => m' = m) m :=
  idles.change fun _ => ⟨rfl, fun _ => rfl⟩

theorem awaitFree (idles : A.Idles m) (t : Thread) (r : Resource) {failure : Unit → Prop} :
    (Locks.awaitFree t r : Action S Unit).Heeds A failure (fun _ m' => m' = m) m :=
  idles.attempt fun w _ _ admits => by
    split at admits
    · obtain ⟨_, rfl⟩ := Prod.mk.inj (Option.some.inj admits)
      exact ⟨rfl, fun _ => rfl⟩
    · cases admits

theorem fire (idles : A.Idles m) (h : Handle S R W) (event : Event) :
    (h.fire event).Heeds A (fun _ => False) (fun _ m' => m' = m) m := by
  refine (idles.note _).seq fun _ m' same => ?_
  subst same
  split
  · exact idles.note _
  · exact rfl

theorem reportFailure (idles : A.Idles m) (h : Handle S R W) (fire : Bool) (metadata : Metadata)
    (result : Except Failure β) :
    (h.reportFailure fire metadata result).Heeds A (fun _ => False) (fun _ m' => m' = m) m := by
  cases result with
  | ok => exact rfl
  | error e =>
    cases fire
    · exact rfl
    · exact idles.fire h _

end Accord.Idles

/-- Without hooks everything passes. -/
theorem Handle.consult_of_plain {h : Handle S R W} (plain : h.cache.hooks? = none) (hook : Hook)
    (call : HookCall) (ask : Hooks → Except Fault β) (passing : β) :
    h.consult hook call ask passing = (pure (.ok passing) : Action S (Except Failure β)) := by
  simp [consult, plain]

/-- Nor does anybody use the stream of a new writer. -/
theorem Handle.begin_of_plain {h : Handle S R W} (plain : h.cache.hooks? = none)
    (purpose : Purpose) (m : Metadata) (stream : W) :
    h.begin purpose m stream = (pure stream : Action S W) := by
  simp [begin, header, plain]

end
end ArtifactCache
