import ArtifactCache.Proofs.LockTable
import ArtifactCache.World

/-!
Threads at work. Each thread has a task, which is any program over the shared
world, and the tasks are interleaved step by step in any order. A step that
has to wait may send its thread to sleep, and a thread that sleeps goes on only
after those who wait for the resource were woken, or for no reason at all.

A run keeps a log of the deeds. `Run.life` says that the log tells the life of
every lock, so what `Lock.Life` says of a log holds in every state of every run.
-/
namespace ArtifactCache

open Locks (Deed Entry Log Move Moved)

namespace Locks
variable {S β : Type}

/-- A step of `t` does a deed to the lock of `r`, and `reads` tells the answer. -/
def Performs (t : Thread) (d : Deed) (r : Resource) (act : World S → Option (β × World S))
    (reads : β → Bool) : Prop :=
  ∀ w, (act w).map (fun done => (reads done.1, done.2.locks)) =
    (d.move t r.address w.locks).map fun m => (m.answer, m.locks)

/-- A step that never waits and leaves the locks alone. -/
def Quiet (act : World S → Option (β × World S)) : Prop :=
  ∀ w, ∃ b w', act w = some (b, w') ∧ w'.locks = w.locks

theorem Performs.move {t : Thread} {d : Deed} {r : Resource}
    {act : World S → Option (β × World S)} {reads : β → Bool} (performs : Performs t d r act reads)
    {w w' : World S} {b : β} (admits : act w = some (b, w')) :
    ∃ m, d.move t r.address w.locks = some m ∧ m.answer = reads b ∧ m.locks = w'.locks := by
  have eq := performs w
  rw [admits] at eq
  obtain ⟨m, move, same⟩ := Option.map_eq_some_iff.1 eq.symm
  exact ⟨m, move, (Prod.mk.inj same).1, (Prod.mk.inj same).2⟩

theorem Performs.waits {t : Thread} {d : Deed} {r : Resource}
    {act : World S → Option (β × World S)} {reads : β → Bool} (performs : Performs t d r act reads)
    {w : World S} (waits : act w = none) : d.move t r.address w.locks = none := by
  have eq := performs w
  rw [waits] at eq
  exact Option.map_eq_none_iff.1 eq.symm

theorem Quiet.same {act : World S → Option (β × World S)} (quiet : Quiet act) {w w' : World S}
    {b : β} (admits : act w = some (b, w')) : w'.locks = w.locks := by
  obtain ⟨_, _, admits', same⟩ := quiet w
  obtain ⟨rfl, rfl⟩ := Prod.mk.inj (Option.some.inj (admits.symm.trans admits'))
  exact same

end Locks

structure Crew (S : Type) where
  world : World S
  tasks : Thread → Action S Unit
  /-- The resource for which a thread sleeps. -/
  asleep : Thread → Option Address

namespace Crew
variable {S : Type}

/-- The crew after a step of `t`. -/
def goOn (c : Crew S) (t : Thread) (w : World S) (rest : Action S Unit) : Crew S :=
  { c with world := w, tasks := fun u => if u = t then rest else c.tasks u }

def sleep (c : Crew S) (t : Thread) (a : Address) : Crew S :=
  { c with asleep := fun u => if u = t then some a else c.asleep u }

/-- Wakes one thread, whatever it waits for. -/
def stir (c : Crew S) (t : Thread) : Crew S :=
  { c with asleep := fun u => if u = t then none else c.asleep u }

/-- Wakes all who sleep for a resource, if the step says so. -/
def wakeIf (c : Crew S) (wakes : Bool) (a : Address) : Crew S :=
  { c with asleep := fun u => if wakes = true ∧ c.asleep u = some a then none else c.asleep u }

/-- One deed of an awake thread: the next step of its task. -/
inductive Step (c : Crew S) : Entry → Crew S → Prop
  | deed {t : Thread} {d : Deed} {r : Resource} {β : Type} {b : β} {w : World S} {m : Move Bool}
      {act : World S → Option (β × World S)} {next : β → Action S Unit} {reads : β → Bool}
      (awake : c.asleep t = none) (task : c.tasks t = .step act next)
      (performs : Locks.Performs t d r act reads) (admits : act c.world = some (b, w))
      (move : d.move t r.address c.world.locks = some m) :
      Step c ⟨t, d, r, reads b⟩ ((c.goOn t w (next b)).wakeIf m.wakes r.address)

/-- The states that the tasks can reach from a store without locks, each with
the log of the deeds on the way. -/
inductive Run (tasks : Thread → Action S Unit) (s : S) : Log → Crew S → Prop
  | start : Run tasks s [] ⟨{ storage := s }, tasks, fun _ => none⟩
  | deed {h : Log} {c c' : Crew S} {e : Entry} :
      Run tasks s h c → Step c e c' → Run tasks s (e :: h) c'
  | quiet {h : Log} {c : Crew S} {t : Thread} {β : Type} {b : β} {w : World S}
      {act : World S → Option (β × World S)} {next : β → Action S Unit} :
      Run tasks s h c → c.asleep t = none → c.tasks t = .step act next → Locks.Quiet act →
      act c.world = some (b, w) → Run tasks s h (c.goOn t w (next b))
  | sleep {h : Log} {c : Crew S} {t : Thread} {d : Deed} {r : Resource} {β : Type}
      {act : World S → Option (β × World S)} {next : β → Action S Unit} {reads : β → Bool} :
      Run tasks s h c → c.tasks t = .step act next → Locks.Performs t d r act reads →
      act c.world = none → Run tasks s h (c.sleep t r.address)
  | stir {h : Log} {c : Crew S} (t : Thread) : Run tasks s h c → Run tasks s h (c.stir t)

variable {tasks : Thread → Action S Unit} {s : S} {h : Log} {c c' : Crew S} {e : Entry}

/-- A step does to the table what its deed says, and wakes whom it has to. -/
theorem Step.move (step : Step c e c') :
    ∃ m, e.deed.move e.thread e.resource.address c.world.locks = some m ∧ m.answer = e.answer ∧
      m.locks = c'.world.locks ∧ c'.asleep = (c.wakeIf m.wakes e.resource.address).asleep := by
  obtain ⟨awake, task, performs, admits, move⟩ := step
  obtain ⟨m', move', answer, same⟩ := performs.move admits
  obtain rfl := Option.some.inj (move.symm.trans move')
  exact ⟨_, move, answer, same, rfl⟩

namespace Run

/-- The log tells the life of the lock of every resource. -/
theorem life (run : Run tasks s h c) (r : Resource) :
    Lock.Life (h.on r) (c.world.locks.lockAt r.address) := by
  induction run with
  | start => exact .free
  | @deed h c c' e _ step ih =>
    obtain ⟨m, move, answer, same, _⟩ := step.move
    have moved := Deed.moved move
    rw [← same]
    by_cases at_r : e.resource.address = r.address
    · rw [Log.on_cons_of_eq at_r]
      rw [← at_r] at ih ⊢
      exact .turn ih (answer ▸ moved.turn)
    · rw [Log.on_cons_of_ne at_r, moved.lockAt_of_ne at_r]
      exact ih
  | quiet _ _ _ quiet admits ih => rwa [goOn, quiet.same admits]
  | sleep _ _ _ _ ih => exact ih
  | stir _ _ ih => exact ih

/-- The table has a lock for exactly the resources that were asked for. -/
theorem present_iff (run : Run tasks s h c) (r : Resource) :
    (c.world.locks.get? r.address).isSome ↔ ∃ e ∈ h.on r, e.deed.asks := by
  induction run with
  | start => simp [Log.on]
  | @deed h c c' e _ step ih =>
    obtain ⟨m, move, answer, same, _⟩ := step.move
    have moved := Deed.moved move
    rw [← same]
    by_cases at_r : e.resource.address = r.address
    · rw [Log.on_cons_of_eq at_r, ← at_r, moved.present, at_r, ih]
      simp [or_comm]
    · rw [Log.on_cons_of_ne at_r, moved.get?_of_ne at_r]
      exact ih
  | quiet _ _ _ quiet admits ih => rwa [goOn, quiet.same admits]
  | sleep _ _ _ _ ih => exact ih
  | stir _ _ ih => exact ih

/-- No wake-up is lost: whoever sleeps for a resource has to wait for it. -/
theorem blocks_of_asleep (run : Run tasks s h c) {t : Thread} {a : Address}
    (asleep : c.asleep t = some a) : (c.world.locks.lockAt a).blocks t = true := by
  induction run with
  | start => cases asleep
  | @deed h c c' e _ step ih =>
    obtain ⟨m, move, answer, same, woken⟩ := step.move
    have moved := Deed.moved move
    rw [woken] at asleep
    simp only [wakeIf] at asleep
    split at asleep
    · cases asleep
    · next not_woken =>
      have before := ih asleep
      rw [← same]
      by_cases at_a : e.resource.address = a
      · refine Bool.not_eq_false _ |>.mp fun after => not_woken ⟨moved.wakes.2 ?_, at_a ▸ asleep⟩
        rw [← at_a] at before after
        exact moved.turn.freed before after
      · rwa [moved.lockAt_of_ne at_a]
  | quiet _ _ _ quiet admits ih =>
    rw [goOn, quiet.same admits]
    exact ih asleep
  | @sleep h c u d r _ _ _ _ _ _ performs waits ih =>
    simp only [Crew.sleep] at asleep
    split at asleep
    · next eq =>
      subst eq
      obtain rfl := Option.some.inj asleep
      exact Deed.blocks_of_waiting (performs.waits waits)
    · exact ih asleep
  | stir u _ ih =>
    simp only [Crew.stir] at asleep
    split at asleep
    · cases asleep
    · exact ih asleep

/-- What happened before the latest deed. -/
theorem before {g : Log} (run : Run tasks s h c) (log : h = e :: g) :
    ∃ d d', Run tasks s g d ∧ Step d e d' ∧ d'.world.locks = c.world.locks := by
  induction run with
  | start => cases log
  | deed run step =>
    obtain ⟨rfl, rfl⟩ := List.cons.inj log
    exact ⟨_, _, run, step, rfl⟩
  | quiet _ _ _ quiet admits ih =>
    obtain ⟨d, d', run, step, same⟩ := ih log
    exact ⟨d, d', run, step, same.trans (quiet.same admits).symm⟩
  | sleep _ _ _ _ ih => exact ih log
  | stir _ _ ih => exact ih log

/-- A run passes through every earlier state of its log. -/
theorem earlier {g : Log} (run : Run tasks s h c) (suffix : g <:+ h) :
    ∃ d, Run tasks s g d := by
  induction h generalizing c with
  | nil => exact ⟨c, List.suffix_nil.1 suffix ▸ run⟩
  | cons e h ih =>
    obtain rfl | suffix := List.suffix_cons_iff.1 suffix
    · exact ⟨c, run⟩
    · obtain ⟨d, _, run, _⟩ := run.before rfl
      exact ih run suffix

end Run
end Crew
end ArtifactCache
