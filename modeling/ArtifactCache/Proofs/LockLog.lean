import ArtifactCache.Locks

/-!
The life of one lock, told by a log of what was done to it. `Lock.Turn` says
all that one deed can do to a lock, and the rest reads the log:

* `Life.holders`: the holds are those that were taken and not given back, all
  of them by the owner, whatever the callers do;
* `Life.sound`: the owner, the count and the stream mark fit together;
* `Life.ledger`: as long as guards are dropped once and no release overreaches,
  every hold is that of an unreleased lock call or of the one living guard.
-/
namespace ArtifactCache.Locks

/-- One step of a thread on the lock of a resource. `hold` ends a lock call and
`holdStream` makes a guard; `releaseStream` is the drop of one. -/
inductive Deed
  | enter
  | pass
  | hold
  | holdStream
  | release
  | releaseStream
  deriving DecidableEq, Repr

/-- The thread goes on only where no other thread holds the resource. -/
def Deed.waits : Deed → Bool
  | .pass | .hold | .holdStream => true
  | .enter | .release | .releaseStream => false

/-- The first or the last step of a call that makes a lock where there is none. -/
def Deed.asks : Deed → Bool
  | .enter | .hold | .holdStream => true
  | .pass | .release | .releaseStream => false

/-- The deed gives a hold back. -/
def Deed.releases : Deed → Bool
  | .release | .releaseStream => true
  | .enter | .pass | .hold | .holdStream => false

structure Entry where
  thread : Thread
  deed : Deed
  resource : Resource
  answer : Bool

/-- What was done to the locks, the latest first. -/
abbrev Log := List Entry

namespace Log

/-- The entries about one resource. -/
def on (r : Resource) (h : Log) : Log := h.filter fun e => e.resource.same r

theorem on_cons_of_eq {e : Entry} {r : Resource} {h : Log}
    (eq : e.resource.address = r.address) : on r (e :: h) = e :: h.on r := by
  simp [on, Resource.same, eq]

theorem on_cons_of_ne {e : Entry} {r : Resource} {h : Log}
    (ne : e.resource.address ≠ r.address) : on r (e :: h) = h.on r := by
  simp [on, Resource.same, ne]

/-- Nothing but the address tells resources apart. -/
theorem on_congr {q r : Resource} (eq : q.address = r.address) (h : Log) : h.on q = h.on r := by
  simp [on, Resource.same, eq]

/-! In what follows all entries of a log are about the same resource. -/

/-- The threads of the lock calls that nobody released; a release ends the latest. -/
def unreleased : Log → List Thread
  | [] => []
  | ⟨t, .hold, _, _⟩ :: h => t :: unreleased h
  | ⟨_, .release, _, true⟩ :: h => (unreleased h).tail
  | _ :: h => unreleased h

/-- The threads that made the guards which are alive. A dropped guard is dead,
whether or not there was a hold to give back. -/
def guards : Log → List Thread
  | [] => []
  | ⟨t, .holdStream, _, true⟩ :: h => t :: guards h
  | ⟨_, .releaseStream, _, _⟩ :: h => (guards h).tail
  | _ :: h => guards h

/-- The threads of the holds that were taken and not given back, of either kind. -/
def holders : Log → List Thread
  | [] => []
  | ⟨t, .hold, _, _⟩ :: h | ⟨t, .holdStream, _, true⟩ :: h => t :: holders h
  | ⟨_, .release, _, true⟩ :: h | ⟨_, .releaseStream, _, true⟩ :: h => (holders h).tail
  | _ :: h => holders h

/-- The thread that took the latest hold of a streamed write. -/
def opener? : Log → Option Thread
  | [] => none
  | ⟨t, .holdStream, _, true⟩ :: _ => some t
  | _ :: h => opener? h

/-- A guard is dropped only while one is alive: its owner drops it once. -/
def Owned : Log → Prop
  | [] => True
  | e :: h => Owned h ∧ (e.deed = .releaseStream → guards h ≠ [])

/-- Some release came when a guard was alive and no lock call was left to release. -/
def Overreached : Log → Prop
  | [] => False
  | e :: h => Overreached h ∨ e.deed = .release ∧ guards h ≠ [] ∧ unreleased h = []

/-- Every release has an earlier lock call of its own, and every drop a guard. -/
def Matched : Log → Prop
  | [] => True
  | e :: h => Matched h ∧ (e.deed = .release → unreleased h ≠ []) ∧
      (e.deed = .releaseStream → guards h ≠ [])

theorem thread_of_mem_holders {h : Log} {u : Thread} (mem : u ∈ h.holders) :
    ∃ e ∈ h, e.thread = u := by
  induction h with
  | nil => cases mem
  | cons e h ih =>
    obtain rfl | old : e.thread = u ∨ u ∈ holders h := by
      obtain ⟨t, deed, r, answer⟩ := e
      cases deed with
      | hold => exact (List.mem_cons.1 mem).imp_left Eq.symm
      | enter | pass => exact .inr mem
      | holdStream =>
        cases answer with
        | true => exact (List.mem_cons.1 mem).imp_left Eq.symm
        | false => exact .inr mem
      | release | releaseStream =>
        cases answer with
        | true => exact .inr (List.mem_of_mem_tail mem)
        | false => exact .inr mem
    · exact ⟨e, List.mem_cons_self, rfl⟩
    · obtain ⟨e', mem, thread⟩ := ih old
      exact ⟨e', List.mem_cons_of_mem _ mem, thread⟩

theorem Owned.suffix {g h : Log} (owned : Owned h) (suffix : g <:+ h) : Owned g := by
  induction h with
  | nil => exact List.suffix_nil.1 suffix ▸ owned
  | cons e h ih =>
    obtain rfl | suffix := List.suffix_cons_iff.1 suffix
    · exact owned
    · exact ih owned.1 suffix

theorem Overreached.mono {g h : Log} (overdone : Overreached g) (suffix : g <:+ h) :
    Overreached h := by
  induction h with
  | nil => exact List.suffix_nil.1 suffix ▸ overdone
  | cons e h ih =>
    obtain rfl | suffix := List.suffix_cons_iff.1 suffix
    · exact overdone
    · exact .inl (ih suffix)

theorem Matched.owned {h : Log} (m : Matched h) : Owned h := by
  induction h with
  | nil => trivial
  | cons e h ih => exact ⟨ih m.1, m.2.2⟩

theorem Matched.not_overreached {h : Log} (m : Matched h) : ¬ Overreached h := by
  induction h with
  | nil => exact id
  | cons e h ih =>
    rintro (o | ⟨released, _, none_left⟩)
    · exact ih m.1 o
    · exact m.2.1 released none_left

end Log
end Locks

open Locks

namespace Lock

/-- What a deed of `t` can do to a lock, with its answer. Where none of the
cases applies, `t` has to wait. -/
inductive Turn (t : Thread) (l : Lock) : Deed → Bool → Lock → Prop
  | enter : Turn t l .enter true l
  | pass (free : l.blocks t = false) : Turn t l .pass true l
  | hold (free : l.blocks t = false) : Turn t l .hold true (l.take t)
  | grant (free : l.blocks t = false) (single : l.streaming = false) :
      Turn t l .holdStream true (l.takeStream t)
  | refuse (free : l.blocks t = false) (busy : l.streaming = true) : Turn t l .holdStream false l
  | release (held : l.holds ≠ 0) : Turn t l .release true l.release
  | notHeld (none_left : l.holds = 0) : Turn t l .release false l
  | releaseStream (busy : l.streaming = true) : Turn t l .releaseStream true l.releaseStream
  | noStream (idle : l.streaming = false) : Turn t l .releaseStream false l

/-- The lock after all that the log tells, starting with a free one. -/
inductive Life : Log → Lock → Prop
  | free : Life [] {}
  | turn {h : Log} {l l' : Lock} {e : Entry} :
      Life h l → Turn e.thread l e.deed e.answer l' → Life (e :: h) l'

theorem blocks_eq_false_iff {l : Lock} {t : Thread} :
    l.blocks t = false ↔ l.holds = 0 ∨ l.owner = some t := by
  simp only [blocks, Bool.and_eq_false_iff, decide_eq_false_iff_not]
  grind

theorem holds_release (l : Lock) : l.release.holds = l.holds - 1 := by
  unfold release
  split
  · show 0 = l.holds - 1
    omega
  · rfl

theorem owner_release {l : Lock} (many : 1 < l.holds) : l.release.owner = l.owner := by
  simp [release, Nat.not_le.2 many]

theorem release_last {l : Lock} (last : l.holds ≤ 1) : l.release = {} := by
  simp [release, last]

theorem holds_releaseStream (l : Lock) : l.releaseStream.holds = l.holds - 1 :=
  holds_release _

theorem streaming_releaseStream (l : Lock) : l.releaseStream.streaming = false := by
  unfold releaseStream release
  split <;> rfl

/-- A hold is taken only where there is none, or by the owner of all the others. -/
theorem eq_of_free {l : Lock} {ts : List Thread} {t u : Thread} (free : l.blocks t = false)
    (count : l.holds = ts.length) (owned : ∀ u ∈ ts, l.owner = some u) (mem : u ∈ ts) : u = t := by
  have := List.length_pos_of_mem mem
  obtain none_left | owner := blocks_eq_false_iff.1 free
  · omega
  · exact Option.some.inj ((owned u mem).symm.trans owner)

/-- What is left when one of the holds is given back is still the owner's. -/
theorem owner_of_mem_tail {l : Lock} {ts : List Thread} {u : Thread}
    (count : l.holds = ts.length) (owned : ∀ u ∈ ts, l.owner = some u) (mem : u ∈ ts.tail) :
    l.release.owner = some u := by
  have := List.length_pos_of_mem mem
  rw [List.length_tail] at this
  rw [owner_release (by omega)]
  exact owned u (List.mem_of_mem_tail mem)

theorem blocks_of_owner {l : Lock} {t : Thread} (held : l.holds ≠ 0) (other : l.owner ≠ some t) :
    l.blocks t = true := by
  simpa [blocks, other] using Nat.pos_of_ne_zero held

theorem release_unblocks {l : Lock} {t : Thread} (before : l.blocks t = true)
    (after : l.release.blocks t = false) : l.release.holds = 0 := by
  refine Decidable.byContradiction fun some_left => ?_
  have many : 1 < l.holds := by rw [holds_release] at some_left; omega
  have other : l.owner ≠ some t := by simp only [blocks, Bool.and_eq_true] at before; grind
  have blocked := blocks_of_owner (l := l.release) some_left (by rwa [owner_release many])
  simp [blocked] at after

/-- Whoever takes a hold is the owner already, unless nobody waits. -/
theorem blocks_take {l : Lock} {t u : Thread} (free : l.blocks u = false)
    (blocked : l.blocks t = true) : (l.take u).blocks t = true := by
  have ne : u ≠ t := by rintro rfl; simp [free] at blocked
  exact blocks_of_owner (by simp [take]) (by simpa [take] using ne)

namespace Turn
variable {t : Thread} {l l' : Lock} {d : Deed} {answer : Bool}

theorem free (turn : Turn t l d answer l') (waits : d.waits = true) : l.blocks t = false := by
  cases turn with
  | pass free | hold free | grant free | refuse free => exact free
  | _ => cases waits

/-- Only a release of the last hold lets another thread go on. -/
theorem freed (turn : Turn t l d answer l') {u : Thread} (before : l.blocks u = true)
    (after : l'.blocks u = false) : d.releases = true ∧ answer = true ∧ l'.holds = 0 := by
  cases turn with
  | enter | pass | refuse | notHeld | noStream => simp [before] at after
  | hold free => simp [blocks_take free before] at after
  | grant free =>
    have blocked : (l.takeStream t).blocks u = true := blocks_take free before
    simp [blocked] at after
  | release => exact ⟨rfl, rfl, release_unblocks before after⟩
  | releaseStream =>
    exact ⟨rfl, rfl, release_unblocks (l := { l with streaming := false }) before after⟩

/-- The decrement of a release is not reached without a hold. -/
theorem one_less (turn : Turn t l d answer l') (stream : l.streaming = true → l.holds ≠ 0)
    (releases : d.releases = true) (done : answer = true) : l'.holds + 1 = l.holds := by
  cases turn with
  | enter | pass | hold | grant | refuse => cases releases
  | notHeld | noStream => cases done
  | release held => rw [holds_release]; omega
  | releaseStream busy => have := stream busy; rw [holds_releaseStream]; omega

/-- A release leaves nothing of the only hold. -/
theorem none_left (turn : Turn t l .release answer l') (last : l.holds ≤ 1) : l'.holds = 0 := by
  cases turn with
  | release => rw [holds_release]; omega
  | notHeld none_left => exact none_left

theorem refused (turn : Turn t l .holdStream answer l') (busy : l.streaming = true) :
    answer = false := by
  cases turn with
  | grant _ idle => simp [idle] at busy
  | refuse => rfl

/-- Only the thread with a stream in flight is refused another. -/
theorem own_stream (turn : Turn t l .holdStream false l')
    (stream : l.streaming = true → l.holds ≠ 0) : l.owner = some t := by
  cases turn with
  | refuse free busy => exact (blocks_eq_false_iff.1 free).resolve_left (stream busy)

/-- Whatever a thread does, the lock does not get in its own way. -/
theorem stays_free (turn : Turn t l d answer l') (free : l.blocks t = false) :
    l'.blocks t = false := by
  have released (k : Lock) (free : k.blocks t = false) : k.release.blocks t = false := by
    by_cases last : k.holds ≤ 1
    · rw [release_last last]
      rfl
    · obtain none_left | owner := blocks_eq_false_iff.1 free
      · omega
      · exact blocks_eq_false_iff.2 (.inr ((owner_release (Nat.not_le.1 last)).trans owner))
  cases turn with
  | enter | pass | refuse | notHeld | noStream => exact free
  | hold | grant => exact blocks_eq_false_iff.2 (.inr rfl)
  | release => exact released l free
  | releaseStream => exact released { l with streaming := false } free

end Turn

namespace Life
variable {h : Log} {l : Lock}

/-- Under any use, the count is that of the holds that were not given back,
and the owner took them all. -/
theorem holders (life : Life h l) :
    l.holds = h.holders.length ∧ ∀ t ∈ h.holders, l.owner = some t := by
  induction life with
  | free => simp [Log.holders]
  | @turn h l l' e life turn ih =>
    obtain ⟨count, owned⟩ := ih
    obtain ⟨t, deed, r, answer⟩ := e
    cases turn with
    | enter | pass | refuse | notHeld | noStream => exact ⟨count, owned⟩
    | hold free | grant free =>
      refine ⟨by simpa [Log.holders, take, takeStream] using count, fun u mem => ?_⟩
      obtain rfl | old := List.mem_cons.1 mem
      · rfl
      · rw [eq_of_free free count owned old]
        rfl
    | release =>
      exact ⟨by simp [Log.holders, holds_release, count], fun u => owner_of_mem_tail count owned⟩
    | releaseStream =>
      exact ⟨by simp [Log.holders, holds_releaseStream, count],
        fun u mem => owner_of_mem_tail (l := { l with streaming := false }) count owned mem⟩

/-- Under any use, a lock has an owner exactly while it is held, and the mark of
a stream exactly while the hold of the owner's own stream is among its holds. -/
theorem sound (life : Life h l) :
    (l.holds = 0 ↔ l.owner = none) ∧
      (l.streaming = true → l.holds ≠ 0 ∧ h.opener? = l.owner) := by
  induction life with
  | free => simp
  | @turn h l l' e life turn ih =>
    obtain ⟨owner_iff, stream⟩ := ih
    obtain ⟨t, deed, r, answer⟩ := e
    have released (k : Lock) (same : k.holds = l.holds) (owner : k.owner = l.owner) :
        (k.release.holds = 0 ↔ k.release.owner = none) := by
      by_cases last : k.holds ≤ 1
      · simp [release_last last]
      · have : k.owner ≠ none := by rw [owner, Ne, ← owner_iff]; omega
        simp only [holds_release, owner_release (Nat.not_le.1 last), this, iff_false]
        omega
    cases turn with
    | enter | pass | notHeld | noStream => exact ⟨owner_iff, stream⟩
    | refuse => exact ⟨owner_iff, stream⟩
    | hold free =>
      refine ⟨by simp [take], fun busy => ⟨by simp [take], ?_⟩⟩
      obtain ⟨held, opener⟩ := stream busy
      exact opener.trans ((blocks_eq_false_iff.1 free).resolve_left held)
    | grant => exact ⟨by simp [take, takeStream], fun _ => ⟨by simp [take, takeStream], rfl⟩⟩
    | release =>
      refine ⟨released l rfl rfl, fun busy => ?_⟩
      by_cases last : l.holds ≤ 1
      · simp [release_last last] at busy
      · have many : 1 < l.holds := by omega
        rw [holds_release, owner_release many]
        refine ⟨by omega, (stream ?_).2⟩
        simpa [Lock.release, last] using busy
    | releaseStream =>
      exact ⟨released { l with streaming := false } rfl rfl,
        fun busy => by simp [streaming_releaseStream] at busy⟩

/-- While no release overreaches, every hold is that of an unreleased lock call
or of the living guard, of which there is one exactly while the lock is marked. -/
theorem ledger (life : Life h l) (owned : h.Owned) (within : ¬ h.Overreached) :
    l.holds = h.unreleased.length + h.guards.length ∧
      h.guards.length = (if l.streaming then 1 else 0) ∧
      ∀ t ∈ h.unreleased ++ h.guards, l.owner = some t := by
  induction life with
  | free => simp [Log.unreleased, Log.guards]
  | @turn h l l' e life turn ih =>
    obtain ⟨count, single, owner⟩ := ih owned.1 fun o => within (.inl o)
    obtain ⟨t, deed, r, answer⟩ := e
    have total : l.holds = (h.unreleased ++ h.guards).length := by simpa using count
    cases turn with
    | enter | pass | refuse | notHeld => exact ⟨count, single, owner⟩
    | hold free =>
      refine ⟨by simp [Log.unreleased, Log.guards, take, count]; omega, single, fun u mem => ?_⟩
      obtain rfl | old := List.mem_cons.1 mem
      · rfl
      · rw [eq_of_free free total owner old]
        rfl
    | grant free idle =>
      have none_alive : h.guards = [] := by simpa [idle] using single
      refine ⟨by simp [Log.unreleased, Log.guards, take, takeStream, count]; omega,
        by simp [Log.guards, takeStream, none_alive], fun u mem => ?_⟩
      have mem : u ∈ h.unreleased ∨ u = t := by
        simpa [Log.unreleased, Log.guards, none_alive] using mem
      obtain old | rfl := mem
      · rw [eq_of_free free total owner (List.mem_append_left _ old)]
        rfl
      · rfl
    | release held =>
      have some_left : h.unreleased ≠ [] := by
        intro none_left
        refine within (.inr ⟨rfl, fun none_alive => held ?_, none_left⟩)
        simpa [none_left, none_alive] using count
      obtain ⟨first, rest, calls⟩ := List.exists_cons_of_ne_nil some_left
      rw [calls] at count total owner
      simp only [Log.unreleased, Log.guards, calls, List.tail_cons, holds_release]
      refine ⟨by rw [count, List.length_cons]; omega, ?_, fun u mem => ?_⟩
      · by_cases last : l.holds ≤ 1
        · have none_alive : h.guards.length = 0 := by rw [List.length_cons] at count; omega
          simp [release_last last, none_alive]
        · simpa [Lock.release, last] using single
      · exact owner_of_mem_tail total owner mem
    | releaseStream busy =>
      have alone : h.guards.length = 1 := by simpa [busy] using single
      simp only [Log.unreleased, Log.guards, List.length_tail, holds_releaseStream,
        streaming_releaseStream, alone]
      refine ⟨by omega, rfl, fun u mem => ?_⟩
      have mem : u ∈ h.unreleased := by
        obtain ⟨g, eq⟩ := List.length_eq_one_iff.1 alone
        simpa [eq] using mem
      have := List.length_pos_of_mem mem
      exact (owner_release (l := { l with streaming := false }) (by simp only; omega)).trans
        (owner u (List.mem_append_left _ mem))
    | noStream idle =>
      exact absurd (by simpa [idle] using single) (owned.2 rfl)

end Life
end Lock
end ArtifactCache
