import ArtifactCache.Handle.Operations

/-!
# What is seen of a run

An observer picks some occurrences from the trace, such as the events or the calls on
hooks, and no lines of the log. Of most steps he sees nothing (`Program.Unseen`).
-/
namespace ArtifactCache

/-- Lines of the log are not picked. -/
class Occurrence.Sifts {δ : Type} (pick : Occurrence → Option δ) : Prop where
  quiet (line : Line) : pick (.logged line) = none

instance : Occurrence.Sifts Occurrence.event? := ⟨fun _ => rfl⟩

/-- What is picked from the trace. -/
def World.seen {S δ : Type} (pick : Occurrence → Option δ) (w : World S) : List δ :=
  w.trace.filterMap pick

namespace Program
variable {S α β δ : Type} {pick : Occurrence → Option δ} {p : Program (World S) α}
  {such : α → Prop} {such' : β → Prop}

/-- Nothing is seen of the program, and it ends with such a value if it ends. -/
def Unseen (pick : Occurrence → Option δ) (such : α → Prop) : Program (World S) α → Prop
  | done v => such v
  | step act next => ∀ w b w', act w = some (b, w') →
      w'.seen pick = w.seen pick ∧ Unseen pick such (next b)

namespace Unseen

theorem bind {k : α → Action S β} (first : p.Unseen pick such)
    (rest : ∀ v, such v → (k v).Unseen pick such') : (p >>= k).Unseen pick such' := by
  induction p with
  | done v => exact rest v first
  | step act next ih =>
    intro w b w' admits
    obtain ⟨same, first⟩ := first w b w' admits
    exact ⟨same, ih b first⟩

/-- A part in front of another, whatever its value. -/
theorem seq {k : α → Action S β} (first : p.Unseen pick such)
    (rest : ∀ v, (k v).Unseen pick such') : (p >>= k).Unseen pick such' :=
  first.bind fun v _ => rest v

theorem of_run (unseen : p.Unseen pick such) {w w' : World S} {v : α}
    (ends : p.run w = .finished v w') : w'.seen pick = w.seen pick ∧ such v := by
  induction p generalizing w with
  | done v' =>
    obtain ⟨rfl, rfl⟩ := Progress.finished.inj ends
    exact ⟨rfl, unseen⟩
  | step act next ih =>
    rw [run] at ends
    split at ends
    · cases ends
    · next b w₁ admits =>
      obtain ⟨same, unseen⟩ := unseen w b w₁ admits
      obtain ⟨same', fits⟩ := ih b unseen ends
      exact ⟨same'.trans same, fits⟩

end Unseen

theorem unseen_attempt {act : World S → Option (α × World S)}
    (unseen : ∀ w v w', act w = some (v, w') → w'.seen pick = w.seen pick ∧ such v) :
    (attempt act).Unseen pick such := unseen

theorem unseen_change {act : World S → α × World S}
    (unseen : ∀ w, (act w).2.seen pick = w.seen pick ∧ such (act w).1) :
    (change act).Unseen pick such := by
  apply unseen_attempt
  intro w v w' admits
  obtain ⟨rfl, rfl⟩ := Prod.mk.inj (Option.some.inj admits)
  exact unseen w

end Program

open Occurrence (Sifts)
open Program (Unseen unseen_attempt unseen_change)

section
variable {S α δ : Type} {pick : Occurrence → Option δ}

theorem World.seen_note {o : Occurrence} (hidden : pick o = none) (w : World S) :
    (w.note o).seen pick = w.seen pick := by
  simp [World.seen, World.note, hidden]

theorem unseen_note {o : Occurrence} (hidden : pick o = none) :
    (Action.note o : Action S Unit).Unseen pick fun _ => True :=
  unseen_change fun w => ⟨w.seen_note hidden, trivial⟩

theorem unseen_say [Sifts pick] (level : Level) (speaker : Speaker) (text : String) :
    (Action.say level speaker text : Action S Unit).Unseen pick fun _ => True :=
  unseen_note (Sifts.quiet _)

theorem unseen_inspect (view : S → α) : (Action.inspect view).Unseen pick fun _ => True :=
  unseen_change fun _ => ⟨rfl, trivial⟩

theorem unseen_alter (act : S → α × S) : (Action.alter act).Unseen pick fun _ => True :=
  unseen_change fun _ => ⟨rfl, trivial⟩

namespace Locks
variable {t : Thread} {r : Resource}

theorem unseen_enter : (Program.change fun w : World S =>
    ((), w.withLocks (w.locks.enter r.address))).Unseen pick fun _ => True :=
  unseen_change fun _ => ⟨rfl, trivial⟩

theorem unseen_lock [Sifts pick] :
    (lock t r : Action S Unit).Unseen pick fun _ => True := by
  apply unseen_enter.seq
  intro _
  apply unseen_attempt
  intro w v w' admits
  obtain ⟨move, _, eq⟩ := Option.map_eq_some_iff.1 admits
  obtain ⟨_, rfl⟩ := Prod.mk.inj eq
  exact ⟨World.seen_note (Sifts.quiet _) _, trivial⟩

theorem seen_settle [Sifts pick] (notHeld : String)
    (move : Move Release) (w : World S) :
    (settle r notHeld move w).2.seen pick = w.seen pick := by
  unfold settle
  cases move.answer with
  | kept => rfl
  | neverLocked | notHeld | freed => exact World.seen_note (Sifts.quiet _) _

theorem unseen_unlock [Sifts pick] :
    (unlock r : Action S Bool).Unseen pick fun _ => True :=
  unseen_change fun w => ⟨seen_settle _ _ w, trivial⟩

theorem unseen_unlockStream [Sifts pick] :
    (unlockStream r : Action S Bool).Unseen pick fun _ => True :=
  unseen_change fun w => ⟨seen_settle _ _ w, trivial⟩

theorem unseen_awaitFree : (awaitFree t r : Action S Unit).Unseen pick fun _ => True := by
  apply unseen_attempt
  intro w v w' admits
  split at admits
  · obtain ⟨_, rfl⟩ := Prod.mk.inj (Option.some.inj admits)
    exact ⟨rfl, trivial⟩
  · cases admits

theorem unseen_acquire [Sifts pick] :
    (acquire t r : Action S (Except Failure Unit)).Unseen pick fun _ => True := by
  have taken : (lockStream t r : Action S Bool).Unseen pick fun _ => True := by
    apply unseen_enter.seq
    intro _
    apply unseen_attempt
    intro w v w' admits
    obtain ⟨move, _, eq⟩ := Option.map_eq_some_iff.1 admits
    split at eq
    all_goals
      obtain ⟨_, rfl⟩ := Prod.mk.inj eq
      exact ⟨World.seen_note (Sifts.quiet _) _, trivial⟩
  exact taken.seq fun _ => trivial

end Locks

namespace Handle
variable {R W : Type}

theorem unseen_metaSibling [Sifts pick] (h : Handle S R W) (suffix : String) :
    (h.metaSibling suffix).Unseen pick fun _ => True := by
  unfold metaSibling
  split
  · exact trivial
  · exact (unseen_say _ _ _).seq fun _ => trivial

theorem unseen_begin (h : Handle S R W) (purpose : Purpose) (m : Metadata) (stream : W) :
    (h.begin purpose m stream).Unseen pick fun _ => True := by
  unfold begin
  split
  · exact trivial
  · exact unseen_alter _

/-- Reading leaves the event that is due as it is. -/
theorem Input.unseen_read (c : Cache S R W) (input : Input R) (limit : Option Nat) :
    (input.read c limit).Unseen pick fun read => read.2.onClose? = input.onClose? :=
  (unseen_inspect _).seq fun _ => rfl

namespace Output
variable (c : Cache S R W) (output : Output W)

theorem unseen_call (call : StreamCall) :
    (output.call c call).Unseen pick fun called => called.2.onClose? = output.onClose? :=
  (unseen_alter _).seq fun _ => rfl

theorem unseen_put (bytes : Bytes) :
    (output.put c bytes).Unseen pick fun written => written.2.onClose? = output.onClose? :=
  output.unseen_call c _

theorem unseen_write (bytes : Bytes) :
    (output.write c bytes).Unseen pick fun written => written.2.onClose? = output.onClose? := by
  unfold write
  split
  · exact rfl
  · exact output.unseen_put c bytes

end Output
end Handle
end
end ArtifactCache
