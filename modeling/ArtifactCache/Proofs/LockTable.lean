import ArtifactCache.Proofs.LockLog

/-!
The deeds on the table of locks. `Deed.move` is the function of the table that
a deed runs, and `Moved` is all that it does: a turn of the lock of its resource,
a wake-up where the last hold is gone, and nothing to the other locks.
-/
namespace ArtifactCache.Locks

/-- Changes the answer only. -/
def Move.map {α β : Type} (f : α → β) (m : Move α) : Move β :=
  { answer := f m.answer, locks := m.locks, wakes := m.wakes }

/-- The deed of `t` on the lock of `a`, with `true` for an answer where it did
what it was meant to; `none` means that `t` has to wait. -/
def Deed.move (t : Thread) (a : Address) (ls : Locks) : Deed → Option (Move Bool)
  | .enter => some { answer := true, locks := ls.enter a }
  | .pass => if ls.admits t a then some { answer := true, locks := ls } else none
  | .hold => (ls.hold t a).map (·.map fun _ => true)
  | .holdStream => (ls.holdStream t a).map (·.map Option.isSome)
  | .release => some ((ls.release a).map Release.succeeded)
  | .releaseStream => some ((ls.releaseStream a).map Release.succeeded)

theorem lockAt_insert (ls : Locks) (a b : Address) (l : Lock) :
    lockAt (ls.insert a l) b = if a = b then l else ls.lockAt b := by
  unfold lockAt
  rw [Table.get?_insert]
  split <;> rfl

@[simp] theorem lockAt_insert_self (ls : Locks) (a : Address) (l : Lock) :
    lockAt (ls.insert a l) a = l := by simp [lockAt_insert]

@[simp] theorem lockAt_enter (ls : Locks) (a b : Address) :
    (ls.enter a).lockAt b = ls.lockAt b := by
  unfold enter
  rw [lockAt_insert]
  split
  · next eq => rw [eq]
  · rfl

theorem lockAt_of_get? {ls : Locks} {a : Address} {l : Lock} (found : ls.get? a = some l) :
    ls.lockAt a = l := by simp [lockAt, found]

theorem lockAt_of_get?_none {ls : Locks} {a : Address} (absent : ls.get? a = none) :
    ls.lockAt a = {} := by simp [lockAt, absent]

section
variable {t : Thread} {a : Address} {ls : Locks}

theorem of_hold {m : Move Nat} (held : ls.hold t a = some m) :
    (ls.lockAt a).blocks t = false ∧
      m = { answer := (ls.lockAt a).holds + 1, locks := ls.insert a ((ls.lockAt a).take t) } := by
  simp only [hold] at held
  split at held
  · cases held
  · next free => exact ⟨by simpa using free, (Option.some.inj held).symm⟩

theorem of_holdStream {m : Move (Option Nat)} (held : ls.holdStream t a = some m) :
    (ls.lockAt a).blocks t = false ∧
      ((ls.lockAt a).streaming = true ∧ m = { answer := none, locks := ls } ∨
        (ls.lockAt a).streaming = false ∧
          m = { answer := some ((ls.lockAt a).holds + 1)
                locks := ls.insert a ((ls.lockAt a).takeStream t) }) := by
  simp only [holdStream] at held
  split at held
  · cases held
  · next free =>
    refine ⟨by simpa using free, ?_⟩
    split at held
    · next busy => exact .inl ⟨busy, (Option.some.inj held).symm⟩
    · next idle => exact .inr ⟨by simpa using idle, (Option.some.inj held).symm⟩

theorem put_answer (l : Lock) : (put a l ls).answer.succeeded = true := by
  unfold put
  split <;> rfl

theorem put_locks (l : Lock) : (put a l ls).locks = ls.insert a l := by
  unfold put
  split <;> rfl

theorem put_wakes (l : Lock) : (put a l ls).wakes = decide (l.holds = 0) := by
  unfold put
  split <;> simp [*]

/-- Without a lock in the table there is none to give back, as with a free one. -/
theorem release_cases (ls : Locks) (a : Address) :
    (ls.lockAt a).holds = 0 ∧ (ls.release a).answer.succeeded = false ∧
      (ls.release a).locks = ls ∧ (ls.release a).wakes = false ∨
    (ls.lockAt a).holds ≠ 0 ∧ (ls.get? a).isSome ∧
      ls.release a = put a (ls.lockAt a).release ls := by
  unfold release
  cases found : ls.get? a with
  | none => exact .inl ⟨by rw [lockAt_of_get?_none found], rfl, rfl, rfl⟩
  | some l =>
    rw [lockAt_of_get? found]
    by_cases held : l.holds = 0
    · exact .inl ⟨held, by simp [held, Release.succeeded]⟩
    · exact .inr ⟨held, rfl, by simp [held]⟩

theorem releaseStream_cases (ls : Locks) (a : Address) :
    (ls.lockAt a).streaming = false ∧ (ls.releaseStream a).answer.succeeded = false ∧
      (ls.releaseStream a).locks = ls ∧ (ls.releaseStream a).wakes = false ∨
    (ls.lockAt a).streaming = true ∧ (ls.get? a).isSome ∧
      ls.releaseStream a = put a (ls.lockAt a).releaseStream ls := by
  unfold releaseStream
  cases found : ls.get? a with
  | none => exact .inl ⟨by rw [lockAt_of_get?_none found], rfl, rfl, rfl⟩
  | some l =>
    rw [lockAt_of_get? found]
    by_cases busy : l.streaming = true
    · exact .inr ⟨busy, rfl, by simp [busy]⟩
    · exact .inl ⟨by simpa using busy, by simp [busy, Release.succeeded]⟩

/-- All that a deed does to the table. -/
structure Moved (t : Thread) (a : Address) (ls : Locks) (d : Deed) (m : Move Bool) : Prop where
  turn : Lock.Turn t (ls.lockAt a) d m.answer (m.locks.lockAt a)
  /-- Those who wait are woken exactly when the last hold is given back. -/
  wakes : m.wakes = true ↔ d.releases = true ∧ m.answer = true ∧ (m.locks.lockAt a).holds = 0
  effect : m.locks = ls ∨ m.answer = true ∧ ∃ l, m.locks = ls.insert a l
  present : (m.locks.get? a).isSome ↔ (ls.get? a).isSome ∨ d.asks

/-- Giving back in vain. -/
theorem Moved.of_refused {d : Deed} {m : Move Release} (asks : d.asks = false)
    (turn : Lock.Turn t (ls.lockAt a) d false (ls.lockAt a)) (no : m.answer.succeeded = false)
    (same : m.locks = ls) (quiet : m.wakes = false) : Moved t a ls d (m.map Release.succeeded) where
  turn := by simpa [Move.map, no, same] using turn
  wakes := by simp [Move.map, no, quiet]
  effect := .inl same
  present := by simp [Move.map, same, asks]

/-- Giving back a hold of a lock that is there, of which `l` is left. -/
theorem Moved.of_put {d : Deed} {l : Lock} (releases : d.releases = true)
    (turn : Lock.Turn t (ls.lockAt a) d true l) (there : (ls.get? a).isSome) :
    Moved t a ls d ((put a l ls).map Release.succeeded) where
  turn := by simpa [Move.map, put_answer, put_locks] using turn
  wakes := by simp [Move.map, put_answer, put_locks, put_wakes, releases]
  effect := .inr ⟨put_answer _, l, put_locks _⟩
  present := by simp [Move.map, put_locks, there]

theorem isSome_of_lockAt_ne (held : ls.lockAt a ≠ {}) : (ls.get? a).isSome := by
  cases found : ls.get? a with
  | none => exact absurd (lockAt_of_get?_none found) held
  | some => rfl

theorem Deed.moved {d : Deed} {m : Move Bool} (move : d.move t a ls = some m) :
    Moved t a ls d m := by
  cases d with
  | enter =>
    obtain rfl := Option.some.inj move
    exact ⟨by simpa using Lock.Turn.enter, by simp [releases],
      .inr ⟨rfl, _, rfl⟩, by simp [asks, Locks.enter]⟩
  | pass =>
    cases free : (ls.lockAt a).blocks t with
    | true => simp [Deed.move, admits, free] at move
    | false =>
      obtain rfl : { answer := true, locks := ls } = m := by
        simpa [Deed.move, admits, free] using move
      exact ⟨.pass free, by simp [releases], .inl rfl, by simp [asks]⟩
  | hold =>
    obtain ⟨m, held, rfl⟩ := Option.map_eq_some_iff.1 move
    obtain ⟨free, rfl⟩ := of_hold held
    exact ⟨by simpa [Move.map] using Lock.Turn.hold free, by simp [Move.map, releases],
      .inr ⟨rfl, _, rfl⟩, by simp [Move.map, asks]⟩
  | holdStream =>
    obtain ⟨m, held, rfl⟩ := Option.map_eq_some_iff.1 move
    obtain ⟨free, ⟨busy, rfl⟩ | ⟨idle, rfl⟩⟩ := of_holdStream held
    · have there : (ls.get? a).isSome := isSome_of_lockAt_ne fun eq => by simp [eq] at busy
      exact ⟨.refuse free busy, by simp [Move.map, releases], .inl rfl,
        by simp [Move.map, asks, there]⟩
    · exact ⟨by simpa [Move.map] using Lock.Turn.grant free idle, by simp [Move.map, releases],
        .inr ⟨rfl, _, rfl⟩, by simp [Move.map, asks]⟩
  | release =>
    obtain rfl := Option.some.inj move
    obtain ⟨none_left, no, same, quiet⟩ | ⟨held, there, eq⟩ := release_cases ls a
    · exact .of_refused rfl (.notHeld none_left) no same quiet
    · rw [eq]
      exact .of_put rfl (.release held) there
  | releaseStream =>
    obtain rfl := Option.some.inj move
    obtain ⟨idle, no, same, quiet⟩ | ⟨busy, there, eq⟩ := releaseStream_cases ls a
    · exact .of_refused rfl (.noStream idle) no same quiet
    · rw [eq]
      exact .of_put rfl (.releaseStream busy) there

/-- A thread waits only where the lock blocks it. -/
theorem Deed.blocks_of_waiting {d : Deed} (waiting : d.move t a ls = none) :
    (ls.lockAt a).blocks t = true := by
  cases free : (ls.lockAt a).blocks t with
  | true => rfl
  | false =>
    cases d with
    | enter | release | releaseStream => cases waiting
    | pass => simp [Deed.move, admits, free] at waiting
    | hold => simp [Deed.move, Locks.hold, free] at waiting
    | holdStream =>
      cases busy : (ls.lockAt a).streaming <;>
        simp [Deed.move, Locks.holdStream, free, busy] at waiting

namespace Moved
variable {d : Deed} {m : Move Bool}

theorem get?_of_ne (moved : Moved t a ls d m) {b : Address} (ne : a ≠ b) :
    m.locks.get? b = ls.get? b := by
  obtain same | ⟨_, l, put⟩ := moved.effect
  · rw [same]
  · rw [put, Table.get?_insert_of_ne ls ne]

theorem lockAt_of_ne (moved : Moved t a ls d m) {b : Address} (ne : a ≠ b) :
    m.locks.lockAt b = ls.lockAt b := by
  unfold lockAt
  rw [moved.get?_of_ne ne]

/-- A refused deed changes nothing. -/
theorem locks_of_refused (moved : Moved t a ls d m) (no : m.answer = false) : m.locks = ls := by
  obtain same | ⟨yes, _⟩ := moved.effect
  · exact same
  · simp [no] at yes

end Moved
end
end ArtifactCache.Locks
