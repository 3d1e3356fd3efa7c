import ArtifactCache.Memory
import ArtifactCache.Proofs.Operation

/-!
Locks balance. A call is followed among the steps of all other threads
(`Among`), of which only what they do to the locks is written down. Whatever the
store, the hooks and the source answer, the holds at the end are those at the
beginning, up to what the others took and gave back, one more for a writer that
is returned, and one less where a writer ends (`holds_balanced`).
-/
namespace ArtifactCache

open Locks (Deed Entry Log Move Moved Performs Quiet)

/-! ## Counting the holds of a log -/

namespace Locks

/-- How many lock calls are left to release. -/
def Deed.calls (n : Nat) : Deed → Nat
  | .hold => n + 1
  | .release => n - 1
  | _ => n

/-- How many guards are alive. -/
def Deed.guards (n : Nat) : Deed → Bool → Nat
  | .holdStream, true => n + 1
  | .releaseStream, _ => n - 1
  | _, _ => n

theorem Deed.calls_of_stream {d : Deed} {n : Nat} (stream : d ≠ .hold ∧ d ≠ .release) :
    d.calls n = n := by
  cases d <;> first | rfl | simp at stream

/-- The guards that are not dropped stay. -/
theorem Deed.guards_add {d : Deed} {answer : Bool} {n : Nat} (k : Nat)
    (alive : d = .releaseStream → n ≠ 0) : d.guards (n + k) answer = d.guards n answer + k := by
  cases d with
  | holdStream =>
    cases answer <;> simp only [guards]
    omega
  | releaseStream =>
    have := alive rfl
    simp only [guards]
    omega
  | _ => rfl

namespace Log

/-- The number of holds that were taken. -/
def taken (h : Log) : Nat := h.countP fun e => e.answer && (e.deed = .hold || e.deed = .holdStream)

/-- The number of holds that were given back. -/
def givenBack (h : Log) : Nat := h.countP fun e => e.answer && e.deed.releases

theorem length_unreleased_cons {e : Entry} {h : Log}
    (done : e.deed = .release → e.answer = true) :
    (unreleased (e :: h)).length = e.deed.calls h.unreleased.length := by
  obtain ⟨t, deed, r, answer⟩ := e
  cases deed with
  | release =>
    obtain rfl : answer = true := done rfl
    exact List.length_tail
  | _ => rfl

theorem length_guards_cons (e : Entry) (h : Log) :
    (guards (e :: h)).length = e.deed.guards h.guards.length e.answer := by
  obtain ⟨t, deed, r, answer⟩ := e
  cases deed with
  | holdStream => cases answer <;> rfl
  | releaseStream => exact List.length_tail
  | _ => rfl

/-- One deed that does what it is meant to: what is left, and what was given
back, add up to what was there and was taken. -/
theorem balance_cons {e : Entry} {h : Log} {n k : Nat} (done : e.deed.releases = true → e.answer = true)
    (held : e.deed = .hold → e.answer = true) (called : e.deed = .release → n ≠ 0)
    (alive : e.deed = .releaseStream → k ≠ 0) :
    e.deed.calls n + e.deed.guards k e.answer + givenBack (e :: h) + h.taken =
      n + k + h.givenBack + taken (e :: h) := by
  obtain ⟨t, deed, r, answer⟩ := e
  simp only [taken, givenBack, List.countP_cons]
  cases deed with
  | enter | pass => simp [Deed.calls, Deed.guards, Deed.releases]
  | hold =>
    obtain rfl : answer = true := held rfl
    simp [Deed.calls, Deed.guards, Deed.releases]
    omega
  | holdStream =>
    cases answer <;> simp [Deed.calls, Deed.guards, Deed.releases]
    omega
  | release =>
    obtain rfl : answer = true := done rfl
    have := called rfl
    simp [Deed.calls, Deed.guards, Deed.releases]
    omega
  | releaseStream =>
    obtain rfl : answer = true := done rfl
    have := alive rfl
    simp [Deed.calls, Deed.guards, Deed.releases]
    omega

end Log
end Locks

/-- The holds of a lock are those of so many lock calls and so many guards. -/
structure Lock.Tally (l : Lock) (calls guards : Nat) : Prop where
  holds : l.holds = calls + guards
  single : guards = if l.streaming then 1 else 0

/-- Who releases only what was locked, and drops only what is alive, is never refused. -/
theorem Lock.Turn.tally {t : Thread} {l l' : Lock} {d : Deed} {answer : Bool} {n k : Nat}
    (turn : Lock.Turn t l d answer l') (tally : l.Tally n k) (called : d = .release → n ≠ 0)
    (alive : d = .releaseStream → k ≠ 0) :
    l'.Tally (d.calls n) (d.guards k answer) ∧ (d.releases = true → answer = true) ∧
      (d = .hold → answer = true) := by
  obtain ⟨holds, single⟩ := tally
  cases turn with
  | enter | pass | refuse => exact ⟨⟨holds, single⟩, by simp [Deed.releases], by simp⟩
  | hold => exact ⟨⟨by simp [Lock.take, Deed.calls, Deed.guards]; omega, single⟩,
      fun _ => rfl, fun _ => rfl⟩
  | grant free idle =>
    obtain rfl : k = 0 := by simpa [idle] using single
    exact ⟨⟨by simp [takeStream, take, Deed.calls, Deed.guards]; omega, rfl⟩,
      fun _ => rfl, fun _ => rfl⟩
  | release held =>
    have := called rfl
    refine ⟨⟨by rw [holds_release, holds]; simp [Deed.calls, Deed.guards]; omega, ?_⟩,
      fun _ => rfl, fun _ => rfl⟩
    by_cases last : l.holds ≤ 1
    · simp only [release_last last, Deed.guards]
      simp
      omega
    · simpa [Lock.release, last, Deed.guards] using single
  | notHeld none_left => exact absurd (by omega) (called rfl)
  | releaseStream busy =>
    obtain rfl : k = 1 := by simpa [busy] using single
    exact ⟨⟨by rw [holds_releaseStream, holds]; simp [Deed.calls, Deed.guards],
      by simp [streaming_releaseStream, Deed.guards]⟩, fun _ => rfl, fun _ => rfl⟩
  | noStream idle => exact absurd (by simpa [idle] using single) (alive rfl)

/-! ## A call among other threads -/

/-- What the others may do, after all that the log tells without the steps of
the call: they release what was locked, and drop a guard that is alive and that
the call did not bring with it. -/
def Rightful (log : Log) (brought : List Address) (e : Entry) : Prop :=
  (e.deed = .release → (log.on e.resource).unreleased ≠ []) ∧
  (e.deed = .releaseStream →
    brought.count e.resource.address < (log.on e.resource).guards.length)

/-- A call of `t`, begun with the program `p` in the world `w`, after the log
`g` and with guards that were brought. The rest says how far it has come: what
the other threads did to the locks meanwhile, the changes of the lock table that
the call itself made, both with the latest first, what it has still to do, and
the world it is in. -/
inductive Among {S α : Type} (t : Thread) (g : Log) (brought : List Address) (p : Action S α)
    (w : World S) : Log → List (Locks × Locks) → Action S α → World S → Prop
  | start : Among t g brought p w [] [] p w
  | quiet {theirs : Log} {mine : List (Locks × Locks)} {q : Action S α} {w₁ w₂ : World S}
      {β : Type} {b : β} {act : World S → Option (β × World S)} {next : β → Action S α} :
      Among t g brought p w theirs mine q w₁ → q = .step act next → act w₁ = some (b, w₂) →
      w₂.locks = w₁.locks → Among t g brought p w theirs mine (next b) w₂
  | touch {theirs : Log} {mine : List (Locks × Locks)} {q : Action S α} {w₁ w₂ : World S}
      {β : Type} {b : β} {act : World S → Option (β × World S)} {next : β → Action S α} :
      Among t g brought p w theirs mine q w₁ → q = .step act next → act w₁ = some (b, w₂) →
      w₂.locks ≠ w₁.locks →
      Among t g brought p w theirs ((w₁.locks, w₂.locks) :: mine) (next b) w₂
  | deed {theirs : Log} {mine : List (Locks × Locks)} {q : Action S α} {w₁ : World S}
      {e : Entry} {m : Move Bool} :
      Among t g brought p w theirs mine q w₁ → e.thread ≠ t →
      e.deed.move e.thread e.resource.address w₁.locks = some m → m.answer = e.answer →
      Rightful (theirs ++ g) brought e →
      Among t g brought p w (e :: theirs) mine q (w₁.withLocks m.locks)
  /-- The others do anything that leaves the locks alone. -/
  | still {theirs : Log} {mine : List (Locks × Locks)} {q : Action S α} {w₁ w₂ : World S} :
      Among t g brought p w theirs mine q w₁ → w₂.locks = w₁.locks →
      Among t g brought p w theirs mine q w₂

/-- The account of one resource: its holds are those of the log, without the
guards that were brought, and those of the guards that the call has. -/
structure Account (g theirs : Log) (brought own : List Address) (ls : Locks) (r : Resource) :
    Prop where
  tally : ∃ foreign,
    (Log.on r (theirs ++ g)).guards.length = foreign + brought.count r.address ∧
    (ls.lockAt r.address).Tally (Log.on r (theirs ++ g)).unreleased.length
      (foreign + own.count r.address)
  balance : (Log.on r (theirs ++ g)).unreleased.length + (Log.on r (theirs ++ g)).guards.length +
    (theirs.on r).givenBack =
      (g.on r).unreleased.length + (g.on r).guards.length + (theirs.on r).taken

namespace Account
variable {g theirs : Log} {brought own : List Address} {ls : Locks} {t : Thread} {d : Deed}
  {q : Resource} {m : Move Bool}

theorem count_after (own : List Address) {d : Deed} (a : Address) (answer : Bool)
    (stream : d ≠ .hold ∧ d ≠ .release) :
    (Discipline.guards.after own d a answer).count a = d.guards (own.count a) answer := by
  cases d with
  | enter | pass => rfl
  | hold | release => simp at stream
  | holdStream => cases answer <;> simp [Discipline.guards, Deed.guards]
  | releaseStream => simp [Discipline.guards, Deed.guards]

theorem count_after_of_ne (own : List Address) (d : Deed) {a b : Address} (ne : a ≠ b)
    (answer : Bool) : (Discipline.guards.after own d a answer).count b = own.count b := by
  cases d with
  | holdStream => cases answer <;> simp [Discipline.guards, ne]
  | releaseStream => simp [Discipline.guards, List.count_erase_of_ne ne.symm]
  | _ => rfl

/-- A deed of the call itself. -/
theorem own_deed (account : ∀ r, Account g theirs brought own ls r)
    (allowed : Discipline.guards.allows own d q.address) (moved : Moved t q.address ls d m)
    (r : Resource) : Account g theirs brought
      (Discipline.guards.after own d q.address m.answer) m.locks r := by
  obtain ⟨foreign, guards, tally⟩ := (account r).tally
  refine ⟨⟨foreign, guards, ?_⟩, (account r).balance⟩
  by_cases at_r : q.address = r.address
  · rw [at_r] at allowed moved ⊢
    have stream : d ≠ .hold ∧ d ≠ .release := by
      constructor <;> rintro rfl <;> exact allowed
    have mine : d = .releaseStream → own.count r.address ≠ 0 := by
      rintro rfl
      exact Nat.pos_iff_ne_zero.1 (List.count_pos_iff.2 allowed)
    obtain ⟨after, _⟩ := moved.turn.tally tally (fun eq => absurd eq stream.2)
      fun eq => by have := mine eq; omega
    rw [Nat.add_comm, Deed.guards_add foreign mine, Deed.calls_of_stream stream] at after
    rwa [count_after own r.address m.answer stream, Nat.add_comm]
  · rw [moved.lockAt_of_ne at_r, count_after_of_ne own d at_r]
    exact tally

/-- A guard of the call is dropped, whatever the others did meanwhile. -/
theorem dropped (account : ∀ r, Account g theirs brought own ls r) (mine : q.address ∈ own)
    (moved : Moved t q.address ls .releaseStream m) :
    (m.locks.lockAt q.address).holds + 1 = (ls.lockAt q.address).holds := by
  have mine := List.count_pos_iff.2 mine
  obtain ⟨foreign, guards, tally⟩ := (account q).tally
  obtain ⟨after, _⟩ := moved.turn.tally tally (by simp) fun _ => by omega
  have before := tally.holds
  have after := after.holds
  simp only [Deed.calls, Deed.guards] at after
  omega

/-- A deed of another thread. -/
theorem other_deed {e : Entry} (account : ∀ r, Account g theirs brought own ls r)
    (moved : Moved e.thread e.resource.address ls e.deed m) (answer : m.answer = e.answer)
    (rightful : Rightful (theirs ++ g) brought e) (r : Resource) :
    Account g (e :: theirs) brought own m.locks r := by
  obtain ⟨⟨foreign, guards, tally⟩, balance⟩ := account r
  by_cases at_r : e.resource.address = r.address
  · have split : Log.on r (e :: theirs ++ g) = e :: Log.on r (theirs ++ g) :=
      Log.on_cons_of_eq at_r
    have turn := moved.turn
    rw [at_r, answer] at turn
    have called (eq : e.deed = .release) : (Log.on r (theirs ++ g)).unreleased.length ≠ 0 :=
      fun none_left => rightful.1 eq (Log.on_congr at_r _ ▸ List.length_eq_zero_iff.1 none_left)
    have alive (eq : e.deed = .releaseStream) : foreign ≠ 0 := by
      have := rightful.2 eq
      rw [Log.on_congr at_r, at_r, guards] at this
      omega
    obtain ⟨after, done, held⟩ := turn.tally tally called fun eq => by have := alive eq; omega
    have calls := Log.length_unreleased_cons (e := e) (h := Log.on r (theirs ++ g))
      fun eq => done (by rw [eq]; rfl)
    have still := Log.length_guards_cons e (Log.on r (theirs ++ g))
    have one := Log.balance_cons (h := theirs.on r) done held called alive
    rw [guards, Deed.guards_add _ alive] at still
    rw [Deed.guards_add _ alive] at after
    exact ⟨⟨_, by rw [split, still], by rw [split, calls]; exact after⟩,
      by rw [split, calls, still, Log.on_cons_of_eq at_r]; omega⟩
  · have split : Log.on r (e :: theirs ++ g) = Log.on r (theirs ++ g) := Log.on_cons_of_ne at_r
    refine ⟨⟨foreign, by rw [split, guards], ?_⟩,
      by rw [split, Log.on_cons_of_ne at_r]; exact balance⟩
    rw [moved.lockAt_of_ne at_r, split]
    exact tally

end Account

/-! ## A call that drops what it has, and does nothing else -/

/-- The only deeds are drops of the listed guards. -/
def Discipline.drops : Discipline (List Address) where
  allows own d a := d = .releaseStream ∧ a ∈ own
  after own _ a _ := own.erase a

section
variable {S R W α : Type} {t : Thread}

namespace Handle.Output
variable {c : Cache S R W} {output : Output W}

theorem calm_call (call : StreamCall) : Calm (output.call c call) :=
  (calm_alter _).bind fun _ => .pure _

theorem calm_put (bytes : Bytes) : Calm (output.put c bytes) := calm_call _

theorem calm_write (bytes : Bytes) : Calm (output.write c bytes) := by
  unfold write
  split
  · exact .pure _
  · exact calm_put bytes

theorem drops_call (call : StreamCall) :
    Follows t .drops (carried []) [output.resource.address] (output.call c call) :=
  .after (calm_alter _) fun _ => .done _ rfl

theorem drops_close :
    Follows t .drops (fun _ => []) [output.resource.address] (output.close c) := by
  refine (drops_call .flush).bind fun flushed => .after (calm_alter _) fun _ => ?_
  refine .deed (d := .releaseStream) (Locks.performs_settle fun _ => rfl)
    ⟨rfl, List.mem_singleton.2 rfl⟩ fun _ => ?_
  have gone (answer : Bool) : Discipline.drops.after (carried [] flushed) .releaseStream
      flushed.2.resource.address answer = [] := List.erase_cons_head ..
  rw [gone]
  refine Calm.follows ?_ []
  split
  · exact .pure _
  · exact (calm_fire _).bind fun _ => .pure _

theorem drops_drop :
    Follows t .drops (fun _ => []) [output.resource.address] (output.drop c) := by
  refine drops_close.bind fun flushed => ?_
  cases flushed with
  | ok => exact .done _ rfl
  | error fault => exact (calm_say _ _ _).follows _

end Handle.Output
end

/-! ## What a whole call does -/

namespace Among
variable {S α : Type} {t : Thread} {g theirs : Log} {brought : List Address} {p q : Action S α}
  {w w' : World S} {mine : List (Locks × Locks)} {left : α → List Address}

/-- At every moment of a call, every account is that of the guards that the call has. -/
theorem accounts (call : Among t g brought p w theirs mine q w')
    (follows : Follows t .guards left brought p)
    (start : ∀ r, Account g [] brought brought w.locks r) :
    ∃ own, Follows t .guards left own q ∧ ∀ r, Account g theirs brought own w'.locks r := by
  have own_step {theirs : Log} {q : Action S α} {w₁ w₂ : World S} {β : Type} {b : β}
      {act : World S → Option (β × World S)} {next : β → Action S α}
      (ih : ∃ own, Follows t .guards left own q ∧ ∀ r, Account g theirs brought own w₁.locks r)
      (at_step : q = .step act next) (admits : act w₁ = some (b, w₂)) :
      ∃ own, Follows t .guards left own (next b) ∧
        ∀ r, Account g theirs brought own w₂.locks r := by
    obtain ⟨own, follows, account⟩ := ih
    subst at_step
    cases follows with
    | quiet quiet rest => exact ⟨own, rest b, by rwa [quiet.same admits]⟩
    | deed performs allowed rest =>
      obtain ⟨m, move, answer, same⟩ := performs.move admits
      refine ⟨_, rest b, fun r => ?_⟩
      rw [← answer, ← same]
      exact Account.own_deed account allowed (Deed.moved move) r
  induction call with
  | start => exact ⟨brought, follows, start⟩
  | quiet _ at_step admits _ ih | touch _ at_step admits _ ih => exact own_step ih at_step admits
  | deed _ _ move answer rightful ih =>
    obtain ⟨own, follows, account⟩ := ih
    exact ⟨own, follows, Account.other_deed account (Deed.moved move) answer rightful⟩
  | still _ same ih =>
    obtain ⟨own, follows, account⟩ := ih
    exact ⟨own, follows, by rwa [same]⟩

/-- One hold of `a` was given back, and no other lock was touched. -/
def GivenBack (a : Address) (change : Locks × Locks) : Prop :=
  (change.2.lockAt a).holds + 1 = (change.1.lockAt a).holds ∧
    ∀ b, a ≠ b → change.2.lockAt b = change.1.lockAt b

/-- A call that only drops its guard changes the locks once. -/
theorem drops_once {a : Address} (call : Among t g [a] p w theirs mine q w')
    (follows : Follows t .drops left [a] p) (start : ∀ r, Account g [] [a] [a] w.locks r) :
    ∃ own, Follows t .drops left own q ∧ (∀ r, Account g theirs [a] own w'.locks r) ∧
      (own = [a] ∧ mine = [] ∨ own = [] ∧ ∃ change, mine = [change] ∧ GivenBack a change) := by
  induction call with
  | start => exact ⟨[a], follows, start, .inl ⟨rfl, rfl⟩⟩
  | @quiet _ _ _ _ _ _ b _ _ _ at_step admits same ih =>
    obtain ⟨own, follows, account, stage⟩ := ih
    subst at_step
    cases follows with
    | quiet _ rest => exact ⟨own, rest b, by rwa [same], stage⟩
    | deed performs allowed rest =>
      obtain ⟨rfl, mine⟩ := allowed
      obtain ⟨m, move, _, after⟩ := performs.move admits
      have dropped := Account.dropped account mine (Deed.moved move)
      rw [after, same] at dropped
      omega
  | @touch _ _ _ _ _ _ b _ _ _ at_step admits changed ih =>
    obtain ⟨own, follows, account, stage⟩ := ih
    subst at_step
    cases follows with
    | quiet quiet _ => exact absurd (quiet.same admits) changed
    | @deed _ _ _ _ _ r reads performs allowed rest =>
      obtain ⟨rfl, mine⟩ := allowed
      obtain ⟨rfl, none_yet⟩ | ⟨rfl, _⟩ := stage
      · obtain ⟨m, move, answer, after⟩ := performs.move admits
        have moved := Deed.moved move
        obtain rfl : r.address = a := List.mem_singleton.1 mine
        have gone : [r.address].erase r.address = [] := List.erase_cons_head ..
        refine ⟨[], gone ▸ rest b, fun q => ?_, .inr ⟨rfl, _, by rw [none_yet], ?_, ?_⟩⟩
        · have next := Account.own_deed (d := .releaseStream) account mine moved q
          rwa [show Discipline.guards.after [r.address] .releaseStream r.address m.answer = []
            from gone, after] at next
        · exact after ▸ Account.dropped account mine moved
        · exact fun b ne => after ▸ moved.lockAt_of_ne ne
      · cases mine
  | deed _ _ move answer rightful ih =>
    obtain ⟨own, follows, account, stage⟩ := ih
    exact ⟨own, follows, Account.other_deed account (Deed.moved move) answer rightful, stage⟩
  | still _ same ih =>
    obtain ⟨own, follows, account, stage⟩ := ih
    exact ⟨own, follows, by rwa [same], stage⟩

end Among

namespace Operation
variable {S R W α : Type} {t : Thread}

/-- The operation is one of the lock table itself. -/
def isManual : Operation S R W α → Bool
  | lock _ | unlock _ | lockStream _ | unlockStream _ => true
  | _ => false

/-- The guards that come with what an operation is given and that it uses up:
that of the writer that it ends. -/
def spends : Operation S R W α → List Address
  | close _ output | drop _ output => [output.resource.address]
  | _ => []

/-- The guards that go with what an operation returns: that of a new writer. -/
def yields : Operation S R W α → α → List Address
  | openOutput _ _ _ _, .ok output => [output.resource.address]
  | _, _ => []

theorem keeps_guards (operation : Operation S R W α) (guarded : operation.isManual = false) :
    Keeps t .guards operation.yields operation.spends (operation.program t) := by
  cases operation with
  | lock | unlock | lockStream | unlockStream => cases guarded
  | awaitFree => exact Locks.keeps_awaitFree
  | isLocked => exact Locks.calm_isLocked.keeps []
  | touch _ m => exact (Handle.calm_touch m).keeps []
  | openInput _ fire m => exact Handle.keeps_openInput fire m
  | read c input limit => exact (Handle.calm_read c input limit).keeps []
  | closeInput c input => exact (Handle.calm_closeInput c input).keeps []
  | openOutput h purpose fire m =>
    have left : (openOutput h purpose fire m).yields = Handle.withOpened [] := by
      funext result
      cases result <;> rfl
    rw [left]
    exact Handle.keeps_openOutput purpose fire m
  | write _ _ bytes => exact (Handle.Output.calm_write bytes).keeps []
  | put _ _ bytes => exact (Handle.Output.calm_put bytes).keeps []
  | flush => exact (Handle.Output.calm_call .flush).keeps []
  | close => exact Handle.Output.keeps_close
  | drop => exact Handle.Output.keeps_drop
  | present => exact Handle.calm_present.keeps []
  | copyFrom _ source => exact Handle.keeps_copyFrom source
  | delete _ fire m => exact Handle.keeps_delete fire m
  | list => exact Handle.calm_list.keeps []
  | mkdirs => exact Handle.calm_mkdirs.keeps []
  | createFile => exact Handle.keeps_createFile
  | retrieve _ r m => exact Cache.keeps_retrieve r m
  | store _ r source m => exact Cache.keeps_store r source m
  | publish _ r source length contentType =>
    exact (Cache.calm_publish r source length contentType).keeps []
  | remove _ r m => exact Handle.keeps_delete true m
  | createAlias _ source target => exact (Cache.calm_createAlias source target).keeps []
  | metaSibling _ suffix => exact (Handle.calm_metaSibling suffix).keeps []
  | inspect view => exact (calm_inspect view).keeps []
  | retrieveFirst _ spread m => exact Search.keeps_retrieveFirst spread m
  | retrieveAll _ spread m => exact Search.keeps_retrieveAll spread m
  | removeAll _ spread m => exact Search.keeps_deleteAll spread m
  | storeOne _ spread source m => exact Search.keeps_store spread source m

end Operation

namespace Locks
open Crew (Run)

variable {S R W α : Type} {tasks : Thread → Action S Unit} {s : S} {g theirs : Log} {c : Crew S}
  {t : Thread} {mine : List (Locks × Locks)} {w : World S} {v : α}

theorem account_of_run (run : Run tasks s g c) (matched : ∀ r, (g.on r).Matched)
    {brought : List Address} (alive : ∀ r, brought.count r.address ≤ (g.on r).guards.length)
    (r : Resource) : Account g [] brought brought c.world.locks r := by
  obtain ⟨holds, single, _⟩ :=
    (run.life r).ledger (matched r).owned (matched r).not_overreached
  refine ⟨⟨_, (Nat.sub_add_cancel (alive r)).symm, ?_⟩, rfl⟩
  rw [Nat.sub_add_cancel (alive r)]
  exact ⟨holds, single⟩

/-- **Locks balance.** Any thread calls any operation in any state that threads
reach whose releases are matched, and the others go on as they like, with matched
releases. When the operation returns, with whatever value, the holds on every
resource are those before the call, with those that the others took and without
those that they gave back; a writer that is returned adds one, and the end of a
writer takes one back, by the only change that the call makes to the locks. -/
theorem holds_balanced {operation : Operation S R W α} (run : Run tasks s g c)
    (matched : ∀ r, (g.on r).Matched) (guarded : operation.isManual = false)
    (alive : ∀ r, operation.spends.count r.address ≤ (g.on r).guards.length)
    (call : Among t g operation.spends (operation.program t) c.world theirs mine (.done v) w) :
    (∀ r : Resource, (w.locks.lockAt r.address).holds + (theirs.on r).givenBack +
        operation.spends.count r.address =
      (c.world.locks.lockAt r.address).holds + (theirs.on r).taken +
        (operation.yields v).count r.address) ∧
    ∀ a ∈ operation.spends, ∃ change, mine = [change] ∧ Among.GivenBack a change := by
  have start (r : Resource) := account_of_run run matched alive r
  refine ⟨fun r => ?_, fun a mem => ?_⟩
  · obtain ⟨own, follows, account⟩ := call.accounts (operation.keeps_guards guarded).follows start
    obtain ⟨_, rfl⟩ : True ∧ operation.yields v = own := by
      cases follows with
      | done _ eq => exact ⟨trivial, eq⟩
    obtain ⟨⟨foreign, guards, tally⟩, balance⟩ := account r
    have before := ((run.life r).ledger (matched r).owned (matched r).not_overreached).1
    have after := tally.holds
    omega
  · obtain ⟨spent, drops⟩ : operation.spends = [a] ∧
        Follows t .drops (fun _ => []) [a] (operation.program t) := by
      cases operation with
      | close _ output =>
        obtain rfl := List.mem_singleton.1 mem
        exact ⟨rfl, Handle.Output.drops_close⟩
      | drop _ output =>
        obtain rfl := List.mem_singleton.1 mem
        exact ⟨rfl, Handle.Output.drops_drop⟩
      | _ => cases mem
    rw [spent] at call start
    obtain ⟨own, follows, _, ⟨rfl, _⟩ | ⟨rfl, once⟩⟩ := call.drops_once drops start
    · cases follows with
      | done _ eq => cases eq
    · exact once

/-- The end of a writer whose last flush fails, while another thread asks for the lock. -/
theorem holds_balanced_failed_flush :
    let r : Resource := .ofText { name := "local", uri := "file:///srv/local" } "r"
    let task : Thread → Action Memory Unit := fun t => do
      let _ ← lockStream t r
    let cache : Cache Memory Bytes Memory.Writer := { backend := Memory.backend false }
    let fault : Fault := .reported "full"
    let failing : WriteFilter := { react := fun _ _ => { passes := [], answer := .error fault } }
    let output : Handle.Output Memory.Writer :=
      { stream := { resource := r }, resource := r, filter := failing }
    let close : Operation Memory Bytes Memory.Writer (Except Fault Unit) := .close cache output
    let g : Log := [⟨0, .holdStream, r, true⟩, ⟨0, .enter, r, true⟩]
    ∃ c w mine, Run task .empty g c ∧ (∀ q, (g.on q).Matched) ∧
      Among 0 g close.spends (close.program 0) c.world [⟨1, .enter, r, true⟩] mine
        (.done (.error fault)) w ∧
      (c.world.locks.lockAt r.address).holds = 1 ∧ (w.locks.lockAt r.address).holds = 0 ∧
      ∃ change, mine = [change] ∧ Among.GivenBack r.address change := by
  intro r task cache fault failing output close g
  have entered : Run task .empty _ _ :=
    Run.start.deed (.deed (t := 0) rfl rfl performs_enter rfl rfl)
  have run := entered.deed (.deed (t := 0) rfl rfl performs_holdStream rfl rfl)
  have matched (q : Resource) : (Log.on q g).Matched := by
    by_cases same : r.address = q.address <;>
      simp [g, Log.on, Resource.same, same, Log.Matched]
  have alive (q : Resource) : close.spends.count q.address ≤ (Log.on q g).guards.length := by
    by_cases same : r.address = q.address
    · simp [g, close, output, Operation.spends, Log.on, Resource.same, same, Log.guards]
    · simp [close, output, Operation.spends, same]
  have start {c : Crew Memory} (_ : Run task .empty g c) :
      Among 0 g close.spends (close.program 0) c.world [] [] (close.program 0) c.world := .start
  have flushed := (start run).quiet rfl rfl rfl
  have closed := flushed.quiet rfl rfl rfl
  have asked := closed.deed (e := ⟨1, .enter, r, true⟩) (by decide) rfl rfl ⟨by simp, by simp⟩
  have dropped := asked.touch rfl rfl fun same =>
    absurd (congrArg (fun ls => (lockAt ls r.address).holds) same) (by decide)
  have balanced := holds_balanced run matched rfl alive dropped
  exact ⟨_, _, _, run, matched, dropped, rfl, Nat.succ.inj (balanced.1 r),
    balanced.2 r.address List.mem_cons_self⟩

end Locks
end ArtifactCache
