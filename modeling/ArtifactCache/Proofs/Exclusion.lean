import ArtifactCache.Proofs.Operation

/-!
Exclusion between writers. As long as every release is owed, the holds on a
resource are those of one thread, and nobody else gets past a lock call or a
wait (`holds_exclusive`). A guard keeps its hold exactly until its drop if, and
only if, no release comes when the guard's hold is the only one left
(`guards_kept_iff`): a release does not ask which hold it gives back.

Both count what the log tells; of threads that ask what a cache can answer, the log
tells exactly the calls on the table of locks.
-/
namespace ArtifactCache.Locks

open Crew (Run Step)

variable {S : Type} {tasks : Thread → Action S Unit} {s : S} {h : Log} {c : Crew S}

theorem get?_enter {ls : Locks} {a : Address} (there : (ls.get? a).isSome) (b : Address) :
    Table.get? (ls.enter a) b = ls.get? b := by
  unfold enter
  rw [Table.get?_insert]
  split
  · next eq =>
    obtain ⟨l, found⟩ := Option.isSome_iff_exists.1 there
    rw [← eq, found, lockAt_of_get? found]
  · rfl

/-- The thread that has a stream in flight is refused another, and nothing changes. -/
theorem run_lockStream {t : Thread} {r : Resource} {w : World S}
    (busy : (w.locks.lockAt r.address).streaming = true)
    (owner : (w.locks.lockAt r.address).owner = some t) :
    ∃ w', (lockStream t r : Action S Bool).run w = .finished false w' ∧
      ∀ a, w'.locks.get? a = w.locks.get? a := by
  have free : (w.locks.lockAt r.address).blocks t = false :=
    Lock.blocks_eq_false_iff.2 (.inr owner)
  have there : (w.locks.get? r.address).isSome :=
    isSome_of_lockAt_ne fun eq => by simp [eq] at busy
  have refused : (w.locks.enter r.address).holdStream t r.address =
      some { answer := none, locks := w.locks.enter r.address } := by
    simp [holdStream, free, busy]
  refine ⟨(w.withLocks (w.locks.enter r.address)).say .warn .locks
    (r.display ++ " already has a write in flight"), ?_, get?_enter there⟩
  unfold lockStream
  refine (Program.run_step rfl).trans (Program.run_step ?_)
  -- Without this, the texts of the trace are compared character by character.
  simp only [World.withLocks]
  rw [refused]
  rfl

theorem streaming_of_alive {h : Log} {l : Lock}
    (single : h.guards.length = if l.streaming then 1 else 0) (alive : h.guards ≠ []) :
    l.streaming = true := by
  cases busy : l.streaming with
  | true => rfl
  | false => exact absurd (by simpa [busy] using single) alive

/-- **Write holds exclude other threads.** Every release has a lock call of its
own and every drop a guard; threads, tasks and interleaving are arbitrary. What
is counted are the calls of the tasks, where these are sessions. -/
theorem holds_exclusive (run : Run tasks s h c) (matched : ∀ r, (h.on r).Matched) (r : Resource) :
    let l := c.world.locks.lockAt r.address
    l.holds = (h.on r).unreleased.length + (h.on r).guards.length ∧
    (h.on r).guards.length ≤ 1 ∧
    (∀ t ∈ (h.on r).unreleased ++ (h.on r).guards, l.owner = some t) ∧
    (∀ e c', Step c e c' → e.resource.address = r.address → e.deed.waits = true →
      (∀ t ∈ (h.on r).unreleased ++ (h.on r).guards, t = e.thread) ∧
      (e.deed = .holdStream → (h.on r).guards ≠ [] →
        e.answer = false ∧ c'.world.locks = c.world.locks)) ∧
    (∀ t, (h.on r).guards ≠ [] → l.owner = some t →
      ∃ w, (lockStream t r : Action S Bool).run c.world = .finished false w ∧
        ∀ a, w.locks.get? a = c.world.locks.get? a) ∧
    (∀ q : Resource, q.location.uri = r.location.uri → q.path = r.path →
      h.on q = h.on r ∧ c.world.locks.lockAt q.address = l) ∧
    ∀ {R W : Type} (session : Session S R W) (t : Thread), tasks t = session.program t →
      h.Tells t (tasks t) (c.tasks t) := by
  intro l
  obtain ⟨count, single, owner⟩ :=
    (run.life r).ledger (matched r).owned (matched r).not_overreached
  have busy (alive : (h.on r).guards ≠ []) : l.streaming = true := streaming_of_alive single alive
  refine ⟨count, by rw [single]; split <;> omega, owner, fun e c' step at_r waits => ?_,
    fun t alive mine => run_lockStream (busy alive) mine, fun q uri path => ?_,
    fun session t asks => run.tells_session asks⟩
  · obtain ⟨m, move, answer, same, _⟩ := step.move
    have moved := Deed.moved move
    have turn := moved.turn
    rw [at_r] at turn
    refine ⟨fun t => Lock.eq_of_free (turn.free waits) (by simpa using count) owner,
      fun deed alive => ?_⟩
    rw [deed] at turn
    have refused : m.answer = false := turn.refused (busy alive)
    exact ⟨answer.symm.trans refused, same.symm.trans (moved.locks_of_refused refused)⟩
  · have same : q.address = r.address := by simp [Resource.address, uri, path]
    exact ⟨Log.on_congr same h, by rw [same]⟩

/-- A thread that streams inside its own lock, and is refused a second stream. -/
theorem holds_exclusive_nested :
    let r : Resource := .root { name := "local", uri := "file:///srv/local" }
    let session : Session Unit Unit Unit := .ask (.lock r) fun _ =>
      .ask (.lockStream r) fun _ => .ask (.lockStream r) fun _ => .stop
    let task (t : Thread) := session.program t
    let h : Log := [⟨0, .holdStream, r, false⟩, ⟨0, .enter, r, true⟩, ⟨0, .holdStream, r, true⟩,
      ⟨0, .enter, r, true⟩, ⟨0, .hold, r, true⟩, ⟨0, .enter, r, true⟩]
    ∃ c, Run task () h c ∧ (∀ q, (h.on q).Matched) ∧
      (c.world.locks.lockAt r.address).holds = 2 ∧
      (∃ w, (lockStream 0 r : Action Unit Bool).run c.world = .finished false w) ∧
      h.Tells 0 (task 0) (return ()) := by
  intro r session task h
  have entered : Run task () _ _ :=
    Run.start.deed (.deed (t := 0) rfl rfl performs_enter rfl rfl)
  have held := entered.deed (.deed (t := 0) rfl rfl performs_hold rfl rfl)
  have asked := held.deed (.deed (t := 0) rfl rfl performs_enter rfl rfl)
  have granted := asked.deed (.deed (t := 0) rfl rfl performs_holdStream rfl rfl)
  have again := granted.deed (.deed (t := 0) rfl rfl performs_enter rfl rfl)
  have run := again.deed (.deed (t := 0) rfl rfl performs_holdStream rfl rfl)
  have matched (q : Resource) : (Log.on q h).Matched := by
    by_cases same : r.address = q.address
    · simp [h, Log.on, Resource.same, same, Log.Matched]
    · simp [h, Log.on, Resource.same, same, Log.Matched]
  obtain ⟨count, _, _, _, refused, _, tells⟩ := holds_exclusive run matched r
  obtain ⟨w, finished, _⟩ := refused 0 (by decide) rfl
  exact ⟨_, run, matched, count, ⟨w, finished⟩, tells session 0 rfl⟩

/-- What the owner of a living guard relies on: the resource is held, nobody
gets a second guard, and the drop gives back this hold and no other. -/
structure Kept (h : Log) (ls : Locks) (r : Resource) : Prop where
  held : ls.isHeld r.address = true
  alone : ∀ t m, ls.holdStream t r.address = some m → m.answer = none
  mine : ∀ t ∈ (h.on r).guards, (ls.lockAt r.address).owner = some t
  drop : (ls.releaseStream r.address).answer.succeeded = true ∧
    (ls.lockAt r.address).holds = (h.on r).unreleased.length + 1 ∧
    ((ls.releaseStream r.address).locks.lockAt r.address).holds = (h.on r).unreleased.length
  /-- Whose lock calls are not released still owns the lock after the drop. -/
  others : ∀ t ∈ (h.on r).unreleased,
    ((ls.releaseStream r.address).locks.lockAt r.address).owner = some t

theorem kept_of_within (run : Run tasks s h c) {r : Resource} (owned : (h.on r).Owned)
    (within : ¬ (h.on r).Overreached) (alive : (h.on r).guards ≠ []) : Kept h c.world.locks r := by
  have life := run.life r
  obtain ⟨count, single, owner⟩ := life.ledger owned within
  have busy := streaming_of_alive single alive
  have one : (h.on r).guards.length = 1 := by simpa [busy] using single
  obtain ⟨idle, _⟩ | ⟨_, _, eq⟩ := releaseStream_cases c.world.locks r.address
  · simp [busy] at idle
  -- The drop is one more entry of the log, and the ledger of that log is what is left.
  have dropped : Lock.Life (⟨0, .releaseStream, r, true⟩ :: h.on r)
      ((releaseStream r.address c.world.locks).locks.lockAt r.address) := by
    rw [eq, put_locks, lockAt_insert_self]
    exact .turn life (.releaseStream busy)
  have none_alive : (h.on r).guards.tail = [] := List.length_eq_zero_iff.1 (by simp [one])
  obtain ⟨left, _, still⟩ : _ = _ + (h.on r).guards.tail.length ∧ _ ∧
      ∀ t ∈ (h.on r).unreleased ++ (h.on r).guards.tail, _ :=
    dropped.ledger ⟨owned, fun _ => alive⟩ (by
      rintro (overdone | ⟨deed, _⟩)
      · exact within overdone
      · cases deed)
  rw [none_alive, List.append_nil] at still
  rw [none_alive] at left
  refine ⟨?_, fun t m granted => ?_, fun t mem => owner t (List.mem_append_right _ mem),
    ⟨by rw [eq]; exact put_answer _, by rw [count, one], left⟩, still⟩
  · simp only [isHeld, decide_eq_true_eq]
    omega
  · obtain ⟨_, ⟨_, rfl⟩ | ⟨idle, _⟩⟩ := of_holdStream granted
    · rfl
    · simp [busy] at idle

/-- Where a release overreached, the log has that entry on what came before. -/
theorem exists_overreach {r : Resource} (overdone : (h.on r).Overreached) :
    ∃ (e : Entry) (g : Log), e :: g <:+ h ∧ e.resource.address = r.address ∧
      e.deed = .release ∧ (g.on r).guards ≠ [] ∧ (g.on r).unreleased = [] := by
  induction h with
  | nil => cases overdone
  | cons e h ih =>
    obtain overdone | ⟨at_r, deed, alive, none_left⟩ : (Log.on r h).Overreached ∨
        e.resource.address = r.address ∧ e.deed = .release ∧ (Log.on r h).guards ≠ [] ∧
          (Log.on r h).unreleased = [] := by
      by_cases at_r : e.resource.address = r.address
      · rw [Log.on_cons_of_eq at_r] at overdone
        exact overdone.imp_right fun last => ⟨at_r, last⟩
      · rw [Log.on_cons_of_ne at_r] at overdone
        exact .inl overdone
    · obtain ⟨e', g, suffix, found⟩ := ih overdone
      exact ⟨e', g, suffix.trans (List.suffix_cons e h), found⟩
    · exact ⟨e, h, List.suffix_refl _, at_r, deed, alive, none_left⟩

/-- **Guards keep their holds, if no release overreaches.** The runs are those
of any threads with any tasks, and a guard may be dropped by any thread, but only
once. Where a task is a session, the log tells its calls. -/
theorem guards_kept_iff (run : Run tasks s h c) (owned : ∀ r, (h.on r).Owned) :
    ((∀ (g : Log) (d : Crew S), g <:+ h → Run tasks s g d →
      ∀ r, (g.on r).guards ≠ [] → Kept g d.world.locks r) ↔
    ∀ r, ¬ (h.on r).Overreached) ∧
    ∀ {R W : Type} (session : Session S R W) (t : Thread), tasks t = session.program t →
      h.Tells t (tasks t) (c.tasks t) := by
  refine ⟨⟨?_, ?_⟩, fun session t asks => run.tells_session asks⟩
  · intro kept r overdone
    obtain ⟨e, g, suffix, at_r, deed, alive, none_left⟩ := exists_overreach overdone
    obtain ⟨c', run'⟩ := run.earlier suffix
    obtain ⟨d, d', before, step, same⟩ := run'.before rfl
    have last := (kept g d ((List.suffix_cons e g).trans suffix) before r alive).drop.2.1
    rw [none_left] at last
    obtain ⟨m, move, answer, same', _⟩ := step.move
    have turn := (Deed.moved move).turn
    rw [at_r, deed] at turn
    have gone : (c'.world.locks.lockAt r.address).holds = 0 := by
      rw [← same, ← same']
      exact turn.none_left (by simp [last])
    have still : (Log.on r (e :: g)).guards ≠ [] := by
      rw [Log.on_cons_of_eq at_r]
      obtain ⟨t, _, q, _⟩ := e
      cases deed
      exact alive
    have held := (kept (e :: g) c' suffix run' r still).held
    simp [isHeld, gone] at held
  · intro within g d suffix before r alive
    have suffix : g.on r <:+ h.on r := suffix.filter _
    exact kept_of_within before ((owned r).suffix suffix)
      (fun overdone => within r (overdone.mono suffix)) alive

/-- A thread may release the lock call around its stream while it writes. -/
theorem guards_kept_across_release :
    let r : Resource := .ofText { name := "local", uri := "file:///srv/local" } "r"
    let session : Session Unit Unit Unit := .ask (.lock r) fun _ =>
      .ask (.lockStream r) fun _ => .ask (.unlock r) fun _ => .stop
    let task (t : Thread) := session.program t
    let h : Log := [⟨0, .release, r, true⟩, ⟨0, .holdStream, r, true⟩, ⟨0, .enter, r, true⟩,
      ⟨0, .hold, r, true⟩, ⟨0, .enter, r, true⟩]
    ∃ c, Run task () h c ∧ (∀ q, (h.on q).Owned) ∧ (∀ q, ¬ (h.on q).Overreached) ∧
      (h.on r).guards = [0] ∧ Kept h c.world.locks r ∧ h.Tells 0 (task 0) (return ()) := by
  intro r session task h
  have entered : Run task () _ _ :=
    Run.start.deed (.deed (t := 0) rfl rfl performs_enter rfl rfl)
  have held := entered.deed (.deed (t := 0) rfl rfl performs_hold rfl rfl)
  have asked := held.deed (.deed (t := 0) rfl rfl performs_enter rfl rfl)
  have granted := asked.deed (.deed (t := 0) rfl rfl performs_holdStream rfl rfl)
  have run := granted.deed (.deed (t := 0) (d := .release) rfl rfl (performs_settle fun _ => rfl)
    rfl rfl)
  have owned (q : Resource) : (Log.on q h).Owned := by
    by_cases same : r.address = q.address <;> simp [h, Log.on, Resource.same, same, Log.Owned]
  have within (q : Resource) : ¬ (Log.on q h).Overreached := by
    by_cases same : r.address = q.address <;>
      simp [h, Log.on, Resource.same, same, Log.Overreached, Log.unreleased]
  obtain ⟨kept_iff, tells⟩ := guards_kept_iff run owned
  exact ⟨_, run, owned, within, rfl,
    kept_iff.2 within h _ (List.suffix_refl h) run r (by decide), tells session 0 rfl⟩

/-- A release takes the hold of a living guard away: the next guard is granted,
and the drop of the old one gives back the hold of the new one. -/
theorem guard_lost_to_release :
    let r : Resource := .ofText { name := "local", uri := "file:///srv/local" } "r"
    let task : Thread → Action Unit Unit := fun t => do
      let _ ← lockStream t r
      let _ ← unlock r
    let h : Log := [⟨0, .release, r, true⟩, ⟨0, .holdStream, r, true⟩, ⟨0, .enter, r, true⟩]
    ∃ c, Run task () h c ∧ (∀ q, (h.on q).Owned) ∧ (h.on r).guards = [0] ∧
      c.world.locks.isHeld r.address = false ∧
      ∃ m, c.world.locks.holdStream 1 r.address = some m ∧ m.answer = some 1 ∧
        (m.locks.lockAt r.address).owner = some 1 ∧
        ((m.locks.releaseStream r.address).locks.lockAt r.address) = {} := by
  intro r task h
  have entered : Run task () _ _ :=
    Run.start.deed (.deed (t := 0) rfl rfl performs_enter rfl rfl)
  have granted := entered.deed (.deed (t := 0) rfl rfl performs_holdStream rfl rfl)
  have run := granted.deed (.deed (t := 0) (d := .release) rfl rfl (performs_settle fun _ => rfl)
    rfl rfl)
  have owned (q : Resource) : (Log.on q h).Owned := by
    by_cases same : r.address = q.address <;> simp [h, Log.on, Resource.same, same, Log.Owned]
  exact ⟨_, run, owned, rfl, rfl, _, rfl, rfl, rfl, rfl⟩

end ArtifactCache.Locks
