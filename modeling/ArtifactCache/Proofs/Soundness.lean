import ArtifactCache.Proofs.Operation

/-!
The locks are well formed whatever the callers do: nothing is assumed of who
releases what, and how often.
-/
namespace ArtifactCache.Locks

open Crew (Interleaved Run Step)

variable {S : Type} {tasks : Thread → Action S Unit} {s : S} {h : Log} {c : Crew S}

/-- What a step of any thread may do to the locks. -/
theorem step_well_formed (run : Run tasks s h c) {e : Entry} {c' : Crew S} (step : Step c e c') :
    (∀ r : Resource, e.resource.address ≠ r.address →
      c'.world.locks.get? r.address = c.world.locks.get? r.address) ∧
    (e.answer = false → c'.world.locks = c.world.locks) ∧
    (e.deed.releases = true → e.answer = true →
      (c'.world.locks.lockAt e.resource.address).holds + 1 =
        (c.world.locks.lockAt e.resource.address).holds) ∧
    (e.deed = .holdStream → e.answer = false →
      (c.world.locks.lockAt e.resource.address).owner = some e.thread) := by
  obtain ⟨m, move, answer, same, _⟩ := step.move
  have moved := Deed.moved move
  have turn := moved.turn
  obtain ⟨_, stream⟩ := (run.life e.resource).sound
  rw [← same, ← answer]
  refine ⟨fun r => moved.get?_of_ne, moved.locks_of_refused, fun releases done => ?_,
    fun deed no => ?_⟩
  · exact turn.one_less (fun busy => (stream busy).1) releases done
  · rw [deed, no] at turn
    exact turn.own_stream fun busy => (stream busy).1

/-- Under any use, by any threads and in any order, with releases that nobody
owes and releases by others: a lock has an owner exactly while it is held, the
mark of a stream is the owner's and lies on a held lock, the table has exactly
the locks that were asked for, and no step does more than it should. Every way of
interleaving what threads ask of a cache is such a run, and its log tells exactly
the calls that they make on the table. -/
theorem well_formed_under_any_use (run : Run tasks s h c) (r : Resource) :
    let l := c.world.locks.lockAt r.address
    (l.holds = 0 ↔ l.owner = none) ∧
    (l.streaming = true → 1 ≤ l.holds ∧ ∃ t, (h.on r).opener? = some t ∧ l.owner = some t) ∧
    (r.address ∈ c.world.locks.keys ↔ ∃ e ∈ h, e.resource.address = r.address ∧ e.deed.asks) ∧
    (∀ e c', Step c e c' →
      (e.resource.address ≠ r.address →
        c'.world.locks.get? r.address = c.world.locks.get? r.address) ∧
      (e.deed.releases = true → e.answer = false → c'.world.locks = c.world.locks) ∧
      (e.resource.address = r.address → e.deed.releases = true → e.answer = true →
        (c'.world.locks.lockAt r.address).holds + 1 = l.holds) ∧
      (e.resource.address = r.address → e.deed = .holdStream → e.answer = false →
        l.owner = some e.thread)) ∧
    (∀ {R W : Type} (session : Session S R W) (t : Thread), tasks t = session.program t →
      h.Tells t (tasks t) (c.tasks t)) ∧
    ∀ {R W : Type} (sessions : Thread → Session S R W) (w : World S)
      (left : Thread → Action S Unit),
      Interleaved (fun t => (sessions t).program t) s w left →
      ∃ g d, Run (fun t => (sessions t).program t) s g d ∧ d.world = w ∧ d.tasks = left ∧
        ∀ t, g.Tells t ((sessions t).program t) (left t) := by
  intro l
  obtain ⟨owner_iff, stream⟩ := (run.life r).sound
  refine ⟨owner_iff, fun busy => ?_, ?_, fun e c' step => ?_,
    fun session t asks => run.tells_session asks,
    fun sessions w left => Crew.exists_run_of_sessions sessions⟩
  · obtain ⟨held, opener⟩ := stream busy
    obtain ⟨t, owner⟩ := Option.ne_none_iff_exists'.1 fun free => held (owner_iff.2 free)
    exact ⟨Nat.pos_of_ne_zero held, t, opener.trans owner, owner⟩
  · rw [Table.mem_keys_iff, run.present_iff r]
    simp [Log.on, Resource.same, and_assoc]
  · obtain ⟨others, refused, fewer, own⟩ := step_well_formed run step
    exact ⟨others r, fun _ => refused, fun at_r => by simpa only [l, at_r] using fewer,
      fun at_r => by simpa only [l, at_r] using own⟩

/-- Releases that nobody owes, and one by a thread that holds nothing. -/
theorem well_formed_after_misuse :
    let r : Resource := .ofText { name := "local", uri := "file:///srv/local" } "r"
    let writer : Session Unit Unit Unit := .ask (.lockStream r) fun _ =>
      .ask (.unlockStream r) fun _ => .stop
    let stranger : Session Unit Unit Unit := .ask (.unlock r) fun _ =>
      .ask (.unlock r) fun _ => .stop
    let task : Thread → Action Unit Unit := fun t =>
      (if t = 0 then writer else stranger).program t
    let h : Log := [⟨0, .releaseStream, r, false⟩, ⟨1, .release, r, true⟩,
      ⟨0, .holdStream, r, true⟩, ⟨0, .enter, r, true⟩, ⟨1, .release, r, false⟩]
    ∃ c, Run task () h c ∧ r.address ∈ c.world.locks.keys ∧
      ((c.world.locks.lockAt r.address).holds = 0 ↔
        (c.world.locks.lockAt r.address).owner = none) ∧
      h.Tells 0 (task 0) (return ()) ∧ h.Tells 1 (task 1) (return ()) := by
  intro r writer stranger task h
  have nothing : Run task () _ _ := Run.start.deed (.deed (t := 1) (d := .release) rfl rfl
    (performs_settle fun _ => rfl) rfl rfl)
  have entered := nothing.deed (.deed (t := 0) rfl rfl performs_enter rfl rfl)
  have granted := entered.deed (.deed (t := 0) rfl rfl performs_holdStream rfl rfl)
  have taken := granted.deed (.deed (t := 1) (d := .release) rfl rfl
    (performs_settle fun _ => rfl) rfl rfl)
  have run : Run task () h _ := taken.deed (.deed (t := 0) (d := .releaseStream) rfl rfl
    (performs_settle fun _ => rfl) rfl rfl)
  obtain ⟨owner_iff, _, keys, _, tells, _⟩ := well_formed_under_any_use run r
  exact ⟨_, run, keys.2 ⟨⟨0, .enter, r, true⟩, by simp [h], rfl, rfl⟩, owner_iff,
    tells writer 0 rfl, tells stranger 1 rfl⟩

end ArtifactCache.Locks
