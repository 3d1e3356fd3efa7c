import ArtifactCache.Proofs.Operation

/-!
Waiting. The step that makes room for a thread also wakes it, and a thread waits
only for holds of others (`no_lost_wakeup_nor_self_wait`). A thread that is alone
never waits: no operation needs a lock that an earlier one has left behind.
-/
namespace ArtifactCache

open Locks (Deed Log Move)

namespace Locks

/-- No lock is in the way of `t`. -/
def Open (t : Thread) (ls : Locks) : Prop := ∀ a, (ls.lockAt a).blocks t = false

theorem Open.move {t : Thread} {a : Address} {ls : Locks} {d : Deed} {m : Move Bool}
    (way : Open t ls) (move : d.move t a ls = some m) : Open t m.locks := by
  have moved := Deed.moved move
  intro b
  by_cases at_b : a = b
  · subst at_b
    exact moved.turn.stays_free (way a)
  · rw [moved.lockAt_of_ne at_b]
    exact way b

theorem Open.admits {t : Thread} {ls : Locks} (way : Open t ls) (d : Deed) (a : Address) :
    ∃ m, d.move t a ls = some m := by
  cases move : d.move t a ls with
  | some m => exact ⟨m, rfl⟩
  | none =>
    have blocked := Deed.blocks_of_waiting move
    simp [way a] at blocked

end Locks

/-- Whatever a thread does, it does not lock itself out. -/
theorem Follows.finishes {t : Thread} {O S α : Type} {δ : Discipline O} {left : α → O} {o : O}
    {p : Action S α} (follows : Follows t δ left o p) {w : World S} (way : Locks.Open t w.locks) :
    ∃ v w', p.run w = .finished v w' ∧ Locks.Open t w'.locks := by
  induction follows generalizing w with
  | done v => exact ⟨v, w, rfl, way⟩
  | quiet quiet _ ih =>
    obtain ⟨b, w₁, admits, same⟩ := quiet w
    obtain ⟨v, w', run, way⟩ := ih b (w := w₁) (same ▸ way)
    exact ⟨v, w', (Program.run_step admits).trans run, way⟩
  | @deed o β act next d r reads performs _ _ ih =>
    obtain ⟨m, move⟩ := way.admits d r.address
    have did := performs w
    rw [move] at did
    obtain ⟨⟨b, w₁⟩, admits, done⟩ := Option.map_eq_some_iff.1 did
    have same : w₁.locks = m.locks := (Prod.mk.inj done).2
    obtain ⟨v, w', run, way⟩ := ih b (w := w₁) (same ▸ way.move move)
    exact ⟨v, w', (Program.run_step admits).trans run, way⟩

namespace Locks
variable {S R W : Type} {tasks : Thread → Action S Unit} {s : S} {h : Log} {c : Crew S}

/-- Whoever is blocked is blocked by a hold that another thread took. -/
theorem exists_holder_of_blocks (run : Crew.Run tasks s h c) {r : Resource} {t : Thread}
    (blocked : (c.world.locks.lockAt r.address).blocks t = true) :
    ∃ u ∈ (h.on r).holders, u ≠ t := by
  obtain ⟨count, owned⟩ := (run.life r).holders
  simp only [Lock.blocks, Bool.and_eq_true, decide_eq_true_eq] at blocked
  obtain ⟨held, other⟩ := blocked
  obtain ⟨u, mem⟩ := List.exists_mem_of_length_pos (count ▸ held)
  exact ⟨u, mem, fun eq => other (eq ▸ owned u mem)⟩

theorem open_of_alone (run : Crew.Run tasks s h c) {t : Thread} (alone : ∀ e ∈ h, e.thread = t) :
    Open t c.world.locks := by
  intro a
  let r : Resource := ⟨{ name := "", uri := a.uri }, a.path⟩
  refine Bool.not_eq_true _ |>.mp fun blocked => ?_
  obtain ⟨u, mem, other⟩ := exists_holder_of_blocks (r := r) run blocked
  obtain ⟨e, mem, thread⟩ := Log.thread_of_mem_holders mem
  exact other (thread.symm.trans (alone e (List.mem_filter.1 mem).1))

/-- **No wake-up is lost, and nobody waits for himself.** The last part is about
a run of one thread, and all that this thread may ask for next. -/
theorem no_lost_wakeup_nor_self_wait (run : Crew.Run tasks s h c) :
    (∀ (u : Thread) (d : Deed) (r : Resource) (m : Move Bool),
      d.move u r.address c.world.locks = some m → ∀ (t : Thread) (a : Address),
        (c.world.locks.lockAt a).blocks t = true → (m.locks.lockAt a).blocks t = false →
          a = r.address ∧ m.wakes = true) ∧
    (∀ (t : Thread) (a : Address), c.asleep t = some a →
      (c.world.locks.lockAt a).blocks t = true) ∧
    (∀ (t : Thread) (r : Resource), (c.asleep t = some r.address ∨
      ∃ d : Deed, d.move t r.address c.world.locks = none) → ∃ u ∈ (h.on r).holders, u ≠ t) ∧
    ∀ t : Thread, (∀ e ∈ h, e.thread = t) → ∀ session : Session S R W,
      ∃ w, (session.program t).run c.world = .finished () w := by
  refine ⟨fun u d r m move t a before after => ?_, fun t a => run.blocks_of_asleep,
    fun t r waits => ?_, fun t alone session => ?_⟩
  · have moved := Deed.moved move
    by_cases at_a : r.address = a
    · subst at_a
      exact ⟨rfl, moved.wakes.2 (moved.turn.freed before after)⟩
    · rw [moved.lockAt_of_ne at_a, before] at after
      cases after
  · obtain asleep | ⟨d, waiting⟩ := waits
    · exact exists_holder_of_blocks run (run.blocks_of_asleep asleep)
    · exact exists_holder_of_blocks run (Deed.blocks_of_waiting waiting)
  · obtain ⟨_, w, run, _⟩ := session.keeps.follows.finishes (open_of_alone run alone)
    exact ⟨w, run⟩

/-- One thread sleeps while another writes, and the one that writes may go on. -/
theorem no_wait_of_writer :
    let r : Resource := .ofText { name := "local", uri := "file:///srv/local" } "r"
    let task : Thread → Action Unit Unit := fun
      | 0 => do
        let _ ← lockStream 0 r
        let _ ← unlockStream r
      | t => awaitFree t r
    let h : Log := [⟨0, .holdStream, r, true⟩, ⟨0, .enter, r, true⟩]
    let more : Session Unit Unit Unit := .ask (.awaitFree r) fun _ =>
      .ask (.lock r) fun _ => .ask (.unlockStream r) fun _ => .stop
    ∃ c, Crew.Run task () h c ∧ c.asleep 1 = some r.address ∧ (∃ u ∈ (h.on r).holders, u ≠ 1) ∧
      (∃ m, Deed.releaseStream.move 0 r.address c.world.locks = some m ∧ m.wakes = true) ∧
      ∃ w, (more.program 0).run c.world = .finished () w := by
  intro r task h more
  have entered : Crew.Run task () _ _ :=
    Crew.Run.start.deed (.deed (t := 0) rfl rfl performs_enter rfl rfl)
  have granted := entered.deed (.deed (t := 0) rfl rfl performs_holdStream rfl rfl)
  have run : Crew.Run task () h _ := granted.sleep (t := 1) rfl performs_pass rfl
  obtain ⟨wakes, _, others, alone⟩ :=
    no_lost_wakeup_nor_self_wait (R := Unit) (W := Unit) run
  exact ⟨_, run, rfl, others 1 r (.inl rfl),
    ⟨_, rfl, (wakes 0 .releaseStream r _ rfl 1 r.address rfl rfl).2⟩, alone 0 (by simp [h]) more⟩

end Locks
end ArtifactCache
