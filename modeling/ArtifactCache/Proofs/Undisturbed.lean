import ArtifactCache.Cache.Supply
import ArtifactCache.Proofs.Accord
import ArtifactCache.Proofs.LockTable

/-!
Programs that nobody else disturbs. `Program.Leads` says what holds at the end if the
program comes there on its own. Most steps leave the store and the locks as they are
(`World.Still`), and the hold that a writer takes is given back when it ends
(`Locks.Streams.sameHolds`).
-/
namespace ArtifactCache

namespace Program
variable {σ α β : Type} {p : Program σ α} {s : σ}

/-- If the program ends without others in between, value and state are such. -/
def Leads (p : Program σ α) (s : σ) (such : α → σ → Prop) : Prop :=
  ∀ v e, p.run s = .finished v e → such v e

theorem leads_pure {such : α → σ → Prop} {v : α} (fits : such v s) :
    (pure v : Program σ α).Leads s such := by
  intro v' e ends
  obtain ⟨rfl, rfl⟩ := Progress.finished.inj ends
  exact fits

theorem Leads.bind {k : α → Program σ β} {mid : α → σ → Prop} {such : β → σ → Prop}
    (first : p.Leads s mid) (rest : ∀ v e, mid v e → (k v).Leads e such) :
    (p >>= k).Leads s such := by
  intro v e ends
  obtain ⟨a, s', ends_first, ends_rest⟩ := finished_of_bind ends
  exact rest a s' (first a s' ends_first) v e ends_rest

theorem run_bind_of_finished {k : α → Program σ β} {v : α} {e : σ}
    (ends : p.run s = .finished v e) : (p >>= k).run s = (k v).run e := by
  induction p generalizing s with
  | done v' =>
    obtain ⟨rfl, rfl⟩ := Progress.finished.inj ends
    rfl
  | step act next ih =>
    change (step act fun b => next b >>= k).run s = _
    rw [run] at ends ⊢
    split at ends
    · cases ends
    · exact ih _ ends

theorem Leads.mono {such such' : α → σ → Prop} (leads : p.Leads s such)
    (le : ∀ v e, such v e → such' v e) : p.Leads s such' :=
  fun v e ends => le v e (leads v e ends)

theorem leads_attempt {act : σ → Option (α × σ)} {such : α → σ → Prop}
    (fits : ∀ v e, act s = some (v, e) → such v e) : (attempt act).Leads s such := by
  intro v e ends
  unfold attempt run at ends
  split at ends
  · cases ends
  · next admits =>
    obtain ⟨rfl, rfl⟩ := Progress.finished.inj ends
    exact fits _ _ admits

theorem leads_change {act : σ → α × σ} {such : α → σ → Prop} (fits : such (act s).1 (act s).2) :
    (change act).Leads s such :=
  leads_attempt fun v e admits => by
    obtain ⟨rfl, rfl⟩ := Prod.mk.inj (Option.some.inj admits)
    exact fits

end Program

open Program (Leads leads_pure leads_attempt leads_change)

/-! ## Steps that touch neither the store nor the locks -/

section
variable {S R W α : Type} {w : World S}

/-- The store and the locks are as they were. -/
structure World.Still (w w' : World S) : Prop where
  storage : w'.storage = w.storage
  locks : w'.locks = w.locks

theorem World.Still.refl (w : World S) : w.Still w := ⟨rfl, rfl⟩

theorem World.Still.trans {w₁ w₂ : World S} (first : w.Still w₁) (second : w₁.Still w₂) :
    w.Still w₂ :=
  ⟨second.storage.trans first.storage, second.locks.trans first.locks⟩

/-- A still step in front of the rest. -/
theorem Program.Leads.after {β : Type} {p : Action S α} {k : α → Action S β}
    {such : β → World S → Prop} (first : p.Leads w fun _ w' => w.Still w')
    (rest : ∀ v w', w.Still w' → (k v).Leads w' such) : (p >>= k).Leads w such :=
  first.bind rest

theorem leads_note (o : Occurrence) (w : World S) :
    (Action.note o).Leads w fun _ w' => w.Still w' := leads_change ⟨rfl, rfl⟩

theorem leads_say (level : Level) (speaker : Speaker) (text : String) (w : World S) :
    (Action.say level speaker text).Leads w fun _ w' => w.Still w' := leads_note _ w

theorem leads_inspect (view : S → α) (w : World S) :
    (Action.inspect view).Leads w fun v w' => v = view w.storage ∧ w' = w :=
  leads_change ⟨rfl, rfl⟩

theorem leads_alter (act : S → α × S) (w : World S) :
    (Action.alter act).Leads w fun v w' =>
      v = (act w.storage).1 ∧ w'.storage = (act w.storage).2 ∧ w'.locks = w.locks :=
  leads_change ⟨rfl, rfl, rfl⟩

theorem Cache.leads_sayAll (lines : List Line) (w : World S) :
    (sayAll lines : Action S Unit).Leads w fun _ w' => w.Still w' := by
  induction lines generalizing w with
  | nil => exact leads_pure (.refl w)
  | cons line rest ih =>
    exact (leads_note _ w).after fun _ w₁ still => (ih w₁).mono fun _ _ => still.trans

namespace Handle
variable (h : Handle S R W)

theorem leads_fire (event : Event) (w : World S) :
    (h.fire event).Leads w fun _ w' => w.Still w' := by
  refine (leads_note _ w).after fun _ w₁ still => ?_
  split
  · exact (leads_say _ _ _ w₁).mono fun _ _ => still.trans
  · exact leads_pure still

theorem leads_reportFailure (fire : Bool) (m : Metadata) (result : Except Failure α)
    (w : World S) : (h.reportFailure fire m result).Leads w fun _ w' => w.Still w' := by
  unfold reportFailure
  split
  · exact leads_pure (.refl w)
  · split
    · exact leads_fire h _ w
    · exact leads_pure (.refl w)

end Handle

theorem Locks.leads_awaitFree (t : Thread) (r : Resource) (w : World S) :
    (Locks.awaitFree t r).Leads w fun _ w' => w' = w :=
  leads_attempt fun v e admits => by
    split at admits
    · exact (Prod.mk.inj (Option.some.inj admits)).2.symm
    · cases admits

end

/-! ## Holds that are taken and given back -/

namespace Locks
variable {S : Type} {t : Thread} {r : Resource} {a : Address} {ls ls' : Locks} {w : World S}

/-- Every resource has as many holds as before. -/
def SameHolds (ls ls' : Locks) : Prop := ∀ a, (ls'.lockAt a).holds = (ls.lockAt a).holds

/-- The hold of a streamed write was taken, and no other lock has changed. -/
structure Streams (t : Thread) (a : Address) (ls ls' : Locks) : Prop where
  here : ls'.lockAt a = (ls.lockAt a).takeStream t
  elsewhere (b : Address) : b ≠ a → ls'.lockAt b = ls.lockAt b

theorem SameHolds.refl (ls : Locks) : SameHolds ls ls := fun _ => rfl

/-- Giving back what was taken leaves as many holds as there were. -/
theorem Streams.sameHolds (streams : Streams t a ls ls') :
    SameHolds ls (ls'.releaseStream a).locks := by
  have streaming : (ls'.lockAt a).streaming = true := by rw [streams.here]; rfl
  obtain ⟨idle, _⟩ | ⟨_, _, released⟩ := releaseStream_cases ls' a
  · cases idle.symm.trans streaming
  intro b
  rw [released, put_locks, lockAt_insert]
  split
  · next here =>
    subst here
    rw [streams.here]
    simp only [Lock.takeStream, Lock.take, Lock.releaseStream, Lock.release]
    by_cases only : (ls.lockAt a).holds = 0 <;> simp [only]
  · next other => rw [streams.elsewhere b (Ne.symm other)]

/-- Taking the hold of a streamed write succeeds unless one is in flight. -/
theorem leads_acquire (t : Thread) (r : Resource) (w : World S) :
    (acquire t r : Action S _).Leads w fun result w' =>
      w'.storage = w.storage ∧ match result with
        | .error _ => (w.locks.lockAt r.address).streaming = true ∧ SameHolds w.locks w'.locks
        | .ok () => (w.locks.lockAt r.address).streaming = false ∧
            Streams t r.address w.locks w'.locks := by
  have entered :
      (Program.change fun w : World S => ((), w.withLocks (w.locks.enter r.address))).Leads
        w fun _ w' => w'.storage = w.storage ∧ ∀ b, w'.locks.lockAt b = w.locks.lockAt b :=
    leads_change ⟨rfl, fun b => lockAt_enter _ _ b⟩
  have locked : (lockStream t r : Action S Bool).Leads w fun granted w' =>
      w'.storage = w.storage ∧ if granted
        then (w.locks.lockAt r.address).streaming = false ∧ Streams t r.address w.locks w'.locks
        else (w.locks.lockAt r.address).streaming = true ∧ SameHolds w.locks w'.locks := by
    refine entered.bind fun _ w₁ ⟨storage, same⟩ => leads_attempt fun granted w' admits => ?_
    obtain ⟨move, held, eq⟩ := Option.map_eq_some_iff.1 admits
    obtain ⟨_, ⟨busy, rfl⟩ | ⟨free, rfl⟩⟩ := of_holdStream held
    · obtain ⟨rfl, rfl⟩ := Prod.mk.inj eq
      rw [same] at busy
      exact ⟨storage, busy, fun b => congrArg Lock.holds (same b)⟩
    · obtain ⟨rfl, rfl⟩ := Prod.mk.inj eq
      rw [same] at free
      refine ⟨storage, free, ?_, fun b other => ?_⟩
      · simp [World.say, World.note, World.withLocks, same]
      · simp [World.say, World.note, World.withLocks, lockAt_insert, other.symm, same]
  refine locked.bind fun granted w' ⟨storage, after⟩ => ?_
  cases granted <;> exact leads_pure ⟨storage, after⟩

theorem leads_unlockStream (streams : Streams t r.address ls w.locks) :
    (unlockStream r : Action S Bool).Leads w fun _ w' =>
      w'.storage = w.storage ∧ SameHolds ls w'.locks := by
  have same := streams.sameHolds
  have streaming : (w.locks.lockAt r.address).streaming = true := by rw [streams.here]; rfl
  refine leads_change ?_
  unfold settle
  obtain ⟨idle, _⟩ | ⟨_, _, released⟩ := releaseStream_cases w.locks r.address
  · cases idle.symm.trans streaming
  have done : (w.locks.releaseStream r.address).answer.succeeded = true :=
    released ▸ put_answer _
  cases answer : (w.locks.releaseStream r.address).answer with
  | neverLocked | notHeld => rw [answer] at done; cases done
  | kept | freed => exact ⟨rfl, same⟩

end Locks
end ArtifactCache
