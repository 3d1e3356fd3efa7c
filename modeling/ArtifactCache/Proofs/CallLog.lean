import ArtifactCache.Proofs.Conduct

/-!
The log tells of calls. What a step does to the locks shows which deed it is
(`Performs.unique`), and so a task that makes nothing but calls on the table has
written down exactly those that it made, in order and with their answers, up to
one that has only begun (`Crew.Run.tells`). Other threads may do what they like.
-/
namespace ArtifactCache

open Locks (Deed Entry Log Move Performs Quiet)

namespace Locks

/-! ## A step shows its deed -/

/-- The table after a deed, unless it waits. -/
def Deed.effect (t : Thread) (a : Address) (d : Deed) (ls : Locks) : Option Locks :=
  (d.move t a ls).map Move.locks

/-- The lock that a deed makes in a table without locks. -/
def Deed.fresh? (t : Thread) : Deed → Option Lock
  | .enter => some {}
  | .hold => some (Lock.take {} t)
  | .holdStream => some (Lock.takeStream {} t)
  | .pass | .release | .releaseStream => none

theorem effect_empty (t : Thread) (a : Address) (d : Deed) :
    d.effect t a ∅ = some (((d.fresh? t).map (Table.insert ∅ a)).getD ∅) := by
  cases d <;> rfl

theorem Deed.eq_of_fresh? {t : Thread} {d d' : Deed} {l : Lock} (makes : d.fresh? t = some l)
    (makes' : d'.fresh? t = some l) : d = d' := by
  cases d <;> cases makes <;> cases d' <;>
    first | rfl | simp [fresh?, Lock.take, Lock.takeStream] at makes'

/-- How many holds another thread keeps of its only one, after a deed that makes no
lock; nothing, if the deed waits for it. -/
def Deed.spares? (marked : Bool) : Deed → Option Nat
  | .release => some 0
  | .releaseStream => some (if marked then 0 else 1)
  | _ => none

theorem effect_held {t : Thread} {d : Deed} (idle : d.fresh? t = none) (a b : Address)
    (marked : Bool) :
    (d.effect t a (Table.insert ∅ b ⟨some (t + 1), 1, marked⟩)).map
        (fun ls => (ls.lockAt b).holds) =
      if a = b then d.spares? marked else some 1 := by
  cases d with
  | enter | hold | holdStream => cases idle
  | pass | release | releaseStream =>
    by_cases here : a = b
    · subst here
      cases marked <;>
        simp [Deed.effect, Deed.move, admits, Locks.release, Locks.releaseStream, put, Move.map,
          Lock.release, Lock.releaseStream, Lock.blocks, Deed.spares?]
    · have absent :
          (Table.insert ∅ b (Lock.mk (some (t + 1)) 1 marked)).get? a = none := by
        simp [Table.get?_insert, Ne.symm here]
      simp [Deed.effect, Deed.move, admits, Locks.release, Locks.releaseStream, absent, Move.map,
        lockAt_of_get?_none absent, Lock.blocks, here]

/-- A table without locks shows which lock a deed makes, and where. -/
theorem Deed.fresh?_eq_of_effect {t : Thread} {a b : Address} {d d' : Deed}
    (same : d.effect t a ∅ = d'.effect t b ∅) :
    d.fresh? t = d'.fresh? t ∧ (d.fresh? t ≠ none → a = b) := by
  rw [effect_empty, effect_empty, Option.some.injEq] at same
  have row := congrArg (Table.get? · a) same
  have row' := congrArg (Table.get? · b) same
  cases makes : d.fresh? t with
  | none =>
    cases makes' : d'.fresh? t with
    | none => simp
    | some l' => simp [makes, makes'] at row'
  | some l =>
    cases makes' : d'.fresh? t with
    | none => simp [makes, makes'] at row
    | some l' =>
      simp only [makes, makes', Option.map_some, Option.getD_some, Table.get?_insert_self,
        Table.get?_insert] at row
      by_cases here : b = a
      · rw [if_pos here] at row
        exact ⟨row, fun _ => here.symm⟩
      · rw [if_neg here] at row
        cases row

/-- What a deed that makes no lock leaves of a hold shows which deed it is, and where. -/
theorem Deed.eq_of_spares {t : Thread} {a b : Address} {d d' : Deed} (idle : d.fresh? t = none)
    (idle' : d'.fresh? t = none) (same : ∀ ls, d.effect t a ls = d'.effect t b ls) :
    d = d' ∧ a = b := by
  have spared (marked : Bool) := congrArg
    (Option.map fun ls : Locks => (ls.lockAt a).holds)
    (same (Table.insert ∅ a ⟨some (t + 1), 1, marked⟩))
  simp only [effect_held idle, effect_held idle', if_true] at spared
  have plain := spared false
  have marked := spared true
  by_cases here : b = a
  · rw [if_pos here] at plain marked
    refine ⟨?_, here.symm⟩
    cases d <;> cases idle <;> cases d' <;> cases idle' <;>
      first | rfl | simp [spares?] at plain marked
  · rw [if_neg here] at marked
    cases d <;> cases idle <;> simp [spares?] at marked

/-- What a deed does to all tables tells which deed it is, and to which lock. -/
theorem Deed.eq_of_effect {t : Thread} {a b : Address} {d d' : Deed}
    (same : ∀ ls, d.effect t a ls = d'.effect t b ls) : d = d' ∧ a = b := by
  obtain ⟨made, place⟩ := Deed.fresh?_eq_of_effect (same ∅)
  cases makes : d.fresh? t with
  | some l =>
    rw [makes] at made place
    exact ⟨Deed.eq_of_fresh? makes made.symm, place nofun⟩
  | none => exact Deed.eq_of_spares makes (made.symm.trans makes) same

variable {S β : Type} {t : Thread} {d d' : Deed} {r r' : Resource}
  {act : World S → Option (β × World S)} {reads reads' : β → Bool}

theorem Performs.effect (performs : Performs t d r act reads) (w : World S) :
    d.effect t r.address w.locks = (act w).map fun done => done.2.locks := by
  have tables := congrArg (Option.map Prod.snd) (performs w)
  simpa [Deed.effect, Function.comp_def] using tables.symm

/-- A step does one deed, to one lock, with one answer. -/
theorem Performs.unique (performs : Performs t d r act reads)
    (performs' : Performs t d' r' act reads') {w w' : World S} {b : β}
    (admits : act w = some (b, w')) :
    d = d' ∧ r.address = r'.address ∧ reads b = reads' b := by
  obtain ⟨rfl, address⟩ := Deed.eq_of_effect fun ls =>
    (performs.effect (w.withLocks ls)).trans (performs'.effect (w.withLocks ls)).symm
  obtain ⟨m, move, answer, _⟩ := performs.move admits
  obtain ⟨m', move', answer', _⟩ := performs'.move admits
  rw [address] at move
  obtain rfl := Option.some.inj (move.symm.trans move')
  exact ⟨rfl, address, answer.symm.trans answer'⟩

/-- No deed leaves all tables alone. -/
theorem Performs.not_quiet (performs : Performs t d r act reads) (w : World S) : ¬ Quiet act := by
  intro quiet
  have same (ls : Locks) : d.effect t r.address ls = some ls := by
    obtain ⟨b, w', admits, same⟩ := quiet (w.withLocks ls)
    rw [show ls = (w.withLocks ls).locks from rfl, performs.effect, admits]
    exact congrArg some same
  have empty := same ∅
  rw [effect_empty, Option.some.injEq] at empty
  cases makes : d.fresh? t with
  | some l => simpa [makes] using congrArg (Table.get? · r.address) empty
  | none =>
    have spared := effect_held makes r.address r.address true
    rw [same] at spared
    cases d <;> cases makes <;> simp [Deed.spares?] at spared

/-- What an entry tells. Nothing but the address of its resource matters. -/
def Entry.fact (e : Entry) : Deed × Address × Bool := (e.deed, e.resource.address, e.answer)

/-- The entries of one thread, about whatever resource. -/
def Log.ofThread (t : Thread) (h : Log) : Log := h.filter fun e => e.thread = t

end Locks

/-! ## What a thread has called -/

/-- What is left of a task of `t` after calls on the table, which are told the
latest first. Of the rest of the task nothing is told. -/
inductive Called (t : Thread) {S : Type} (task : Action S Unit) : Log → Action S Unit → Prop
  | start : Called t task [] task
  | quiet {g : Log} {β : Type} {b : β} {act : World S → Option (β × World S)}
      {next : β → Action S Unit} :
      Called t task g (.step act next) → Quiet act → Called t task g (next b)
  | call {g : Log} {β : Type} {b : β} {call : LockCall β} {next : β → Action S Unit} :
      Called t task g (call.program t >>= next) → Called t task (call.entries t b ++ g) (next b)
  /-- A call has entered the table, and may have to wait. -/
  | begun {g : Log} {β : Type} {call : LockCall β} {next : β → Action S Unit}
      {first : World S → Option (Unit × World S)} {rest : Action S Unit} :
      Called t task g (call.program t >>= next) → call.deed.asks = true →
      call.program t >>= next = .step first (fun _ => rest) →
      Called t task (⟨t, .enter, call.resource, true⟩ :: g) rest

/-- The entries of a thread are those of the calls of its task, of which `left` is left. -/
def Locks.Log.Tells (h : Log) (t : Thread) {S : Type} (task left : Action S Unit) : Prop :=
  ∃ g, Called t task g left ∧ (h.ofThread t).map Entry.fact = g.map Entry.fact

/-- How far a task that keeps to the calls has come. -/
inductive Calling (t : Thread) {S : Type} (task : Action S Unit) : Log → Action S Unit → Prop
  | between {g : Log} {q : Action S Unit} (called : Called t task g q)
      (keeps : Keeps t .free (fun _ => ()) () q) : Calling t task g q
  | during {g : Log} {β : Type} {call : LockCall β} {act : World S → Option (β × World S)}
      {next : β → Action S Unit} (called : Called t task g (call.program t >>= next))
      (begun : Called t task (⟨t, .enter, call.resource, true⟩ :: g) (.step act next))
      (performs : Performs t call.deed call.resource act call.reads)
      (entries : ∀ b, call.entries t b =
        [⟨t, call.deed, call.resource, call.reads b⟩, ⟨t, .enter, call.resource, true⟩])
      (keeps : ∀ b, Keeps t .free (fun _ => ()) () (next b)) :
      Calling t task (⟨t, .enter, call.resource, true⟩ :: g) (.step act next)

namespace Calling
variable {S β : Type} {t : Thread} {task : Action S Unit} {g : Log} {w w' : World S} {b : β}
  {act : World S → Option (β × World S)} {next : β → Action S Unit}

theorem called {q : Action S Unit} (calling : Calling t task g q) : Called t task g q := by
  cases calling with
  | between called _ => exact called
  | during _ begun _ _ _ => exact begun

/-- A deed of the task is the next step of a call. -/
theorem deed {d : Deed} {r : Resource} {reads : β → Bool}
    (calling : Calling t task g (.step act next)) (performs : Performs t d r act reads)
    (admits : act w = some (b, w')) :
    ∃ g', Calling t task g' (next b) ∧
      g'.map Entry.fact = (d, r.address, reads b) :: g.map Entry.fact := by
  cases calling with
  | between called keeps =>
    cases keeps with
    | quiet quiet _ => exact absurd quiet (performs.not_quiet w)
    | @call _ γ call next' _ made _ rest =>
      have steps := made ▸ call.steps (t := t) next'
      rw [made] at called
      cases steps with
      | one _ performs' entries =>
        obtain ⟨rfl, address, answer⟩ := performs.unique performs' admits
        refine ⟨_, .between (called.call (b := b)) (rest b), ?_⟩
        rw [entries, List.singleton_append, List.map_cons, address, answer]
        rfl
      | two asks enters performs' entries =>
        obtain ⟨rfl, address, answer⟩ := performs.unique enters admits
        refine ⟨_, .during called (called.begun asks made.symm) performs' entries rest, ?_⟩
        rw [List.map_cons, address, answer]
        rfl
  | during called begun performs' entries keeps =>
    obtain ⟨rfl, address, answer⟩ := performs.unique performs' admits
    refine ⟨_, .between (called.call (b := b)) (keeps b), ?_⟩
    rw [entries, address, answer]
    rfl

/-- A step of the task that leaves the locks alone belongs to no call. -/
theorem quiet (calling : Calling t task g (.step act next)) (quiet : Quiet act) (w : World S)
    (b : β) : Calling t task g (next b) := by
  cases calling with
  | between called keeps =>
    cases keeps with
    | quiet _ rest => exact .between (called.quiet quiet) (rest b)
    | @call _ γ call next' _ made _ _ =>
      have steps := made ▸ call.steps (t := t) next'
      cases steps with
      | one _ performs _ => exact absurd quiet (performs.not_quiet w)
      | two _ enters _ _ => exact absurd quiet (enters.not_quiet w)
  | during _ _ performs _ _ => exact absurd quiet (performs.not_quiet w)

end Calling

namespace Crew.Run
variable {S : Type} {tasks : Thread → Action S Unit} {s : S} {h : Log} {c : Crew S} {t : Thread}

/-- The log of a thread whose task keeps to the calls tells which calls it made;
the others do what they like. -/
theorem tells (run : Run tasks s h c) (keeps : Keeps t .free (fun _ => ()) () (tasks t)) :
    h.Tells t (tasks t) (c.tasks t) := by
  suffices ∃ g, Calling t (tasks t) g (c.tasks t) ∧
      (h.ofThread t).map Entry.fact = g.map Entry.fact by
    obtain ⟨g, calling, same⟩ := this
    exact ⟨g, calling.called, same⟩
  induction run with
  | start => exact ⟨[], .between .start keeps, rfl⟩
  | @deed h c c' e _ step ih =>
    obtain ⟨g, calling, same⟩ := ih
    obtain @⟨u, d, r, β, b, w, m, act, next, reads, _, task, performs, admits, _⟩ := step
    by_cases mine : u = t
    · subst mine
      rw [task] at calling
      obtain ⟨g', calling', more⟩ := calling.deed performs admits
      refine ⟨g', by simpa [goOn, wakeIf] using calling', ?_⟩
      rw [more, ← same]
      simp [Log.ofThread, Entry.fact]
    · refine ⟨g, by simpa [goOn, wakeIf, Ne.symm mine] using calling, ?_⟩
      rw [← same]
      simp [Log.ofThread, mine]
  | @quiet h c u β b w act next _ _ task quiet admits ih =>
    obtain ⟨g, calling, same⟩ := ih
    by_cases mine : u = t
    · subst mine
      rw [task] at calling
      exact ⟨g, by simpa [goOn] using calling.quiet quiet w b, same⟩
    · exact ⟨g, by simpa [goOn, Ne.symm mine] using calling, same⟩
  | sleep _ _ _ _ ih => exact ih
  | stir _ _ ih => exact ih

end Crew.Run
end ArtifactCache
