import ArtifactCache.Proofs.Crew
import ArtifactCache.Search

/-!
How programs treat the locks. A program keeps to a discipline when it does
nothing to the locks but make calls on their table that the discipline allows;
then it follows the discipline step by step. The free discipline allows
everything; the discipline of guards lets a thread drop only guards that it has,
and take no other holds.

Every operation of a cache keeps to the discipline of guards: it ends with the
guards it began with, except that a writer that was opened brings one with it,
and that the end of a writer drops it.
-/
namespace ArtifactCache

open Locks (Deed Log Performs Quiet)

/-- A call on the table of locks, with the type of its answer. -/
inductive LockCall : Type → Type
  | lock (r : Resource) : LockCall Unit
  | unlock (r : Resource) : LockCall Bool
  | lockStream (r : Resource) : LockCall Bool
  | unlockStream (r : Resource) : LockCall Bool
  | awaitFree (r : Resource) : LockCall Unit

namespace LockCall
variable {S β : Type}

def program (t : Thread) : LockCall β → Action S β
  | lock r => Locks.lock t r
  | unlock r => Locks.unlock r
  | lockStream r => Locks.lockStream t r
  | unlockStream r => Locks.unlockStream r
  | awaitFree r => Locks.awaitFree t r

def resource : LockCall β → Resource
  | lock r | unlock r | lockStream r | unlockStream r | awaitFree r => r

/-- The last step of a call; one that asks for a lock has entered the table before. -/
def deed : LockCall β → Deed
  | lock _ => .hold
  | unlock _ => .release
  | lockStream _ => .holdStream
  | unlockStream _ => .releaseStream
  | awaitFree _ => .pass

def reads : LockCall β → β → Bool
  | lock _, _ | awaitFree _, _ => true
  | unlock _, answer | lockStream _, answer | unlockStream _, answer => answer

/-- What a log tells of a call and its answer, the latest first. -/
def entries (t : Thread) : LockCall β → β → Log
  | lock r, _ => [⟨t, .hold, r, true⟩, ⟨t, .enter, r, true⟩]
  | unlock r, answer => [⟨t, .release, r, answer⟩]
  | lockStream r, answer => [⟨t, .holdStream, r, answer⟩, ⟨t, .enter, r, true⟩]
  | unlockStream r, answer => [⟨t, .releaseStream, r, answer⟩]
  | awaitFree r, _ => [⟨t, .pass, r, true⟩]

end LockCall

/-- What a thread may do to the locks, given what it has. -/
structure Discipline (O : Type) where
  allows : O → Deed → Address → Prop
  after : O → Deed → Address → Bool → O

namespace Discipline

def free : Discipline Unit where
  allows _ _ _ := True
  after _ _ _ _ := ()

/-- A thread has the guards of the listed resources. -/
def guards : Discipline (List Address) where
  allows own d a := match d with
    | .enter | .pass | .holdStream => True
    | .releaseStream => a ∈ own
    | .hold | .release => False
  after own d a answer := match d, answer with
    | .holdStream, true => a :: own
    | .releaseStream, _ => own.erase a
    | _, _ => own

/-- To look a lock up, or to make one, changes nothing of what a thread has. -/
class Enters (δ : Discipline O) : Prop where
  allows (o : O) (a : Address) : δ.allows o .enter a
  after (o : O) (a : Address) : δ.after o .enter a true = o

instance : Discipline.free.Enters := ⟨fun _ _ => trivial, fun _ _ => rfl⟩

instance : Discipline.guards.Enters := ⟨fun _ _ => trivial, fun _ _ => rfl⟩

end Discipline

/-- From `o` on, all that the program does to the locks is to make calls that
the discipline allows to `t`, and the value at the end tells what is left. -/
inductive Keeps (t : Thread) {O S α : Type} (δ : Discipline O) (left : α → O) :
    O → Action S α → Prop
  | done {o : O} (v : α) (eq : left v = o) : Keeps t δ left o (.done v)
  | quiet {o : O} {β : Type} {act : World S → Option (β × World S)} {next : β → Action S α} :
      Quiet act → (∀ b, Keeps t δ left o (next b)) → Keeps t δ left o (.step act next)
  | call {o : O} {β : Type} {call : LockCall β} {next : β → Action S α} {p : Action S α}
      (made : p = call.program t >>= next)
      (allowed : δ.allows o call.deed call.resource.address)
      (rest : ∀ b, Keeps t δ left (δ.after o call.deed call.resource.address (call.reads b))
        (next b)) :
      Keeps t δ left o p

/-- From `o` on, the steps of `t` are deeds that the discipline allows, or leave
the locks alone, and the value at the end tells what is left. -/
inductive Follows (t : Thread) {O S α : Type} (δ : Discipline O) (left : α → O) :
    O → Action S α → Prop
  | done {o : O} (v : α) (eq : left v = o) : Follows t δ left o (.done v)
  | quiet {o : O} {β : Type} {act : World S → Option (β × World S)} {next : β → Action S α} :
      Quiet act → (∀ b, Follows t δ left o (next b)) → Follows t δ left o (.step act next)
  | deed {o : O} {β : Type} {act : World S → Option (β × World S)} {next : β → Action S α}
      {d : Deed} {r : Resource} {reads : β → Bool} :
      Performs t d r act reads → δ.allows o d r.address →
      (∀ b, Follows t δ left (δ.after o d r.address (reads b)) (next b)) →
      Follows t δ left o (.step act next)

/-- No step touches the locks or waits. -/
inductive Calm {S α : Type} : Action S α → Prop
  | done (v : α) : Calm (.done v)
  | step {β : Type} {act : World S → Option (β × World S)} {next : β → Action S α} :
      Quiet act → (∀ b, Calm (next b)) → Calm (.step act next)

section
variable {t : Thread} {O S α β : Type} {δ : Discipline O}

theorem Follows.bind {mid : α → O} {left : β → O} {o : O} {p : Action S α} {k : α → Action S β}
    (first : Follows t δ mid o p) (rest : ∀ a, Follows t δ left (mid a) (k a)) :
    Follows t δ left o (p >>= k) := by
  induction first with
  | done v eq => exact eq ▸ rest v
  | quiet calm _ ih => exact .quiet calm ih
  | deed performs allowed _ ih => exact .deed performs allowed ih

theorem Calm.bind {p : Action S α} {k : α → Action S β} (first : Calm p)
    (rest : ∀ a, Calm (k a)) : Calm (p >>= k) := by
  induction first with
  | done v => exact rest v
  | step quiet _ ih => exact .step quiet ih

theorem Calm.follows {p : Action S α} (calm : Calm p) (o : O) : Follows t δ (fun _ => o) o p := by
  induction calm with
  | done v => exact .done v rfl
  | step quiet _ ih => exact .quiet quiet ih

/-- A calm step in front of the rest. -/
theorem Follows.after {left : β → O} {o : O} {p : Action S α} {k : α → Action S β}
    (calm : Calm p) (rest : ∀ a, Follows t δ left o (k a)) : Follows t δ left o (p >>= k) :=
  (calm.follows o).bind rest

theorem Keeps.bind {mid : α → O} {left : β → O} {o : O} {p : Action S α} {k : α → Action S β}
    (first : Keeps t δ mid o p) (rest : ∀ a, Keeps t δ left (mid a) (k a)) :
    Keeps t δ left o (p >>= k) := by
  induction first with
  | done v eq => exact eq ▸ rest v
  | quiet calm _ ih => exact .quiet calm ih
  | call made allowed _ ih => exact .call (made ▸ bind_assoc _ _ _) allowed ih

theorem Calm.keeps {p : Action S α} (calm : Calm p) (o : O) : Keeps t δ (fun _ => o) o p := by
  induction calm with
  | done v => exact .done v rfl
  | step quiet _ ih => exact .quiet quiet ih

/-- A calm step in front of the rest. -/
theorem Keeps.after {left : β → O} {o : O} {p : Action S α} {k : α → Action S β}
    (calm : Calm p) (rest : ∀ a, Keeps t δ left o (k a)) : Keeps t δ left o (p >>= k) :=
  (calm.keeps o).bind rest

theorem Keeps.free {left : α → O} {o : O} {p : Action S α} (keeps : Keeps t δ left o p) :
    Keeps t .free (fun _ => ()) () p := by
  induction keeps with
  | done v => exact .done v rfl
  | quiet quiet _ ih => exact .quiet quiet ih
  | call made _ _ ih => exact .call made trivial ih

/-- A single call. -/
theorem LockCall.keeps {left : β → O} {o : O} (call : LockCall β)
    (allowed : δ.allows o call.deed call.resource.address)
    (eq : ∀ b, left b = δ.after o call.deed call.resource.address (call.reads b)) :
    Keeps (S := S) t δ left o (call.program t) :=
  .call (bind_pure _).symm allowed fun b => .done b (eq b)

theorem Calm.pure (v : α) : Calm (Pure.pure v : Action S α) := .done v

theorem Calm.change {act : World S → α × World S} (same : ∀ w, (act w).2.locks = w.locks) :
    Calm (Program.change act) :=
  .step (fun w => ⟨_, _, rfl, same w⟩) .done

theorem calm_note (o : Occurrence) : Calm (Action.note o : Action S Unit) := .change fun _ => rfl

theorem calm_say (level : Level) (speaker : Speaker) (text : String) :
    Calm (Action.say level speaker text : Action S Unit) := calm_note _

theorem calm_inspect (view : S → α) : Calm (Action.inspect view) := .change fun _ => rfl

theorem calm_alter (act : S → α × S) : Calm (Action.alter act) := .change fun _ => rfl

end

/-! ## The steps of the lock table -/

namespace Locks
variable {S : Type} {t : Thread} {r : Resource}

/-- The ways of giving back: a refused one leaves the table as it was. -/
theorem performs_settle {notHeld : String} {d : Deed} {f : Locks → Move Release}
    (move : ∀ ls, d.move t r.address ls = some ((f ls).map Release.succeeded)) :
    Performs (S := S) t d r (fun w => some (settle r notHeld (f w.locks) w)) id := by
  intro w
  have refused := (Deed.moved (move w.locks)).locks_of_refused
  rw [move]
  unfold settle
  cases answer : (f w.locks).answer with
  | neverLocked | notHeld =>
    have same : (f w.locks).locks = w.locks := refused (by rw [Move.map, answer]; rfl)
    simp [Move.map, answer, same, World.say, World.note]
  | kept | freed => simp [Move.map, answer, World.say, World.note, World.withLocks]

theorem performs_enter : Performs (S := S) t .enter r
    (fun w => some ((), w.withLocks (w.locks.enter r.address))) fun _ => true := fun _ => rfl

theorem performs_hold : Performs (S := S) t .hold r
    (fun w => (w.locks.hold t r.address).map fun move =>
      ((), (w.withLocks move.locks).say .trace .locks
        ("write lock acquired on " ++ r.display ++ " (holds: " ++ toString move.answer ++ ")")))
    fun _ => true := by
  intro w
  simp [Deed.move, Option.map_map, Function.comp_def, Move.map, World.say, World.note,
    World.withLocks]

theorem performs_holdStream : Performs (S := S) t .holdStream r
    (fun w => (w.locks.holdStream t r.address).map fun move =>
      match move.answer with
      | none => (false, w.say .warn .locks (r.display ++ " already has a write in flight"))
      | some holds => (true, (w.withLocks move.locks).say .trace .locks
          ("stream lock acquired on " ++ r.display ++ " (holds: " ++ toString holds ++ ")")))
    id := by
  intro w
  cases held : w.locks.holdStream t r.address with
  | none => simp [Deed.move, held]
  | some m =>
    obtain ⟨_, ⟨_, rfl⟩ | ⟨_, rfl⟩⟩ := of_holdStream held <;>
      simp [Deed.move, held, Move.map, World.say, World.note, World.withLocks]

theorem performs_pass : Performs (S := S) t .pass r
    (fun w => if w.locks.admits t r.address then some ((), w) else none) fun _ => true := by
  intro w
  cases free : w.locks.admits t r.address <;> simp [Deed.move, free]

theorem keeps_lock : Keeps t .free (fun _ => ()) () (lock t r : Action S Unit) :=
  LockCall.keeps (.lock r) trivial fun _ => rfl

theorem keeps_unlock : Keeps t .free (fun _ => ()) () (unlock r : Action S Bool) :=
  LockCall.keeps (.unlock r) trivial fun _ => rfl

variable {own : List Address}

theorem keeps_lockStream : Keeps t .guards
    (fun granted => if granted then r.address :: own else own) own
    (lockStream t r : Action S Bool) :=
  LockCall.keeps (.lockStream r) trivial fun granted => by cases granted <;> rfl

theorem keeps_acquire : Keeps t .guards
    (fun | .ok () => r.address :: own | .error _ => own) own
    (acquire t r : Action S (Except Failure Unit)) :=
  keeps_lockStream.bind fun granted => by cases granted <;> exact .done _ rfl

theorem keeps_unlockStream (mine : r.address ∈ own) : Keeps t .guards
    (fun _ => own.erase r.address) own (unlockStream r : Action S Bool) :=
  LockCall.keeps (.unlockStream r) mine fun _ => rfl

theorem keeps_awaitFree :
    Keeps t .guards (fun _ => own) own (awaitFree t r : Action S Unit) :=
  LockCall.keeps (.awaitFree r) trivial fun _ => rfl

theorem calm_isLocked : Calm (isLocked r : Action S Bool) := .change fun _ => rfl

end Locks

/-- The steps of a call: one deed, before which a call that asks enters the table. -/
inductive LockCall.Steps (t : Thread) {S α β : Type} (call : LockCall β) (next : β → Action S α) :
    Action S α → Prop
  | one {act : World S → Option (β × World S)} (asks : call.deed.asks = false)
      (performs : Performs t call.deed call.resource act call.reads)
      (entries : ∀ b, call.entries t b = [⟨t, call.deed, call.resource, call.reads b⟩]) :
      Steps t call next (.step act next)
  | two {first : World S → Option (Unit × World S)} {act : World S → Option (β × World S)}
      (asks : call.deed.asks = true) (enters : Performs t .enter call.resource first fun _ => true)
      (performs : Performs t call.deed call.resource act call.reads)
      (entries : ∀ b, call.entries t b =
        [⟨t, call.deed, call.resource, call.reads b⟩, ⟨t, .enter, call.resource, true⟩]) :
      Steps t call next (.step first fun _ => .step act next)

theorem LockCall.steps {t : Thread} {S α β : Type} (call : LockCall β) (next : β → Action S α) :
    call.Steps t next (call.program t >>= next) := by
  cases call with
  | lock r => exact .two rfl Locks.performs_enter Locks.performs_hold fun _ => rfl
  | lockStream r => exact .two rfl Locks.performs_enter Locks.performs_holdStream fun _ => rfl
  | unlock r => exact .one rfl (Locks.performs_settle fun _ => rfl) fun _ => rfl
  | unlockStream r => exact .one rfl (Locks.performs_settle fun _ => rfl) fun _ => rfl
  | awaitFree r => exact .one rfl Locks.performs_pass fun _ => rfl

/-- Who keeps to a discipline follows it step by step. -/
theorem Keeps.follows {t : Thread} {O S α : Type} {δ : Discipline O} [δ.Enters] {left : α → O}
    {o : O} {p : Action S α} (keeps : Keeps t δ left o p) : Follows t δ left o p := by
  induction keeps with
  | done v eq => exact .done v eq
  | quiet quiet _ ih => exact .quiet quiet ih
  | @call o β call next p made allowed _ ih =>
    have steps := made ▸ call.steps (t := t) next
    cases steps with
    | one _ performs _ => exact .deed performs allowed ih
    | two _ enters performs _ =>
      refine .deed enters (Discipline.Enters.allows o _) fun _ => ?_
      rw [Discipline.Enters.after]
      exact .deed performs allowed ih

/-! ## The operations on one resource -/

namespace Handle
variable {S R W α : Type} {t : Thread} {h : Handle S R W} {own : List Address}

theorem calm_fire (event : Event) : Calm (h.fire event) := by
  refine (calm_note _).bind fun _ => ?_
  split
  · exact calm_say _ _ _
  · exact .pure _

theorem calm_reportFailure (fire : Bool) (m : Metadata) (result : Except Failure α) :
    Calm (h.reportFailure fire m result) := by
  unfold reportFailure
  split
  · exact .pure _
  · split
    · exact calm_fire _
    · exact .pure _

theorem calm_consult (hook : Hook) (call : HookCall) (ask : Hooks → Except Fault α)
    (passing : α) : Calm (h.consult hook call ask passing) := by
  unfold consult
  split
  · exact .pure _
  · exact (calm_note _).bind fun _ => .pure _

theorem calm_touch (m : Metadata) : Calm (h.touch m) := by
  unfold touch
  split
  · exact (calm_note _).bind fun _ => calm_fire _
  · exact calm_fire _

theorem calm_openReader (fire : Bool) (m : Metadata) : Calm (h.openReader fire m) := by
  refine (calm_inspect _).bind fun opened => ?_
  split
  · exact .pure _
  · exact .pure _
  · refine (calm_consult _ _ _ _).bind fun answer => ?_
    split <;> exact .pure _

theorem calm_metaSibling (suffix : String) : Calm (h.metaSibling suffix) := by
  unfold metaSibling
  split
  · exact .pure _
  · exact (calm_say _ _ _).bind fun _ => .pure _

theorem keeps_openInput (fire : Bool) (m : Metadata) :
    Keeps t .guards (fun _ => own) own (h.openInput t fire m) :=
  Locks.keeps_awaitFree.bind fun _ => .after (calm_openReader fire m) fun result =>
    .after (calm_reportFailure fire m result) fun _ => .done _ rfl

/-- What a thread has when a writer was opened, or not. -/
def withOpened (own : List Address) : Except Failure (Output W) → List Address
  | .ok output => output.resource.address :: own
  | .error _ => own

theorem calm_begin (purpose : Purpose) (m : Metadata) (stream : W) :
    Calm (h.begin purpose m stream) := by
  unfold begin
  split
  · exact .pure _
  · exact calm_alter _

/-- The guard that was taken for the writer goes with it. -/
theorem keeps_openWriter (purpose : Purpose) (fire : Bool) (m : Metadata) :
    Keeps t .guards (fun | .ok output => output.resource.address :: own
                           | .error _ => h.resource.address :: own)
      (h.resource.address :: own) (h.openWriter purpose fire m) := by
  refine .after (calm_alter _) fun opened => ?_
  split
  · exact .done _ rfl
  · refine .after (calm_consult _ _ _ _) fun answer => .after (calm_begin _ _ _) fun stream => ?_
    split
    · exact .after (calm_alter _) fun _ => .done _ rfl
    · split <;> exact .after (calm_say _ _ _) fun _ => .done _ rfl

theorem keeps_openOutput (purpose : Purpose) (fire : Bool) (m : Metadata) :
    Keeps t .guards (withOpened own) own (h.openOutput t purpose fire m) := by
  refine Locks.keeps_awaitFree.bind fun _ => Locks.keeps_acquire.bind fun acquired => ?_
  have report (result : Except Failure (Output W)) : Keeps t .guards (withOpened own)
      (withOpened own result) (do h.reportFailure fire m result; return result) :=
    .after (calm_reportFailure fire m result) fun _ => .done _ rfl
  cases acquired with
  | error e => exact report (.error e)
  | ok =>
    refine (keeps_openWriter purpose fire m).bind fun opened => ?_
    cases opened with
    | error e =>
      refine (Locks.keeps_unlockStream List.mem_cons_self).bind fun _ => ?_
      simpa [withOpened] using report (.error e)
    | ok output => exact report (.ok output)

theorem calm_present : Calm h.present := by
  unfold present
  split
  · exact calm_inspect _
  · refine (calm_note _).bind fun _ => ?_
    split
    · exact .pure _
    · exact calm_inspect _

theorem keeps_copyFrom (source : Handle S R W) :
    Keeps t .guards (fun _ => own) own (h.copyFrom t source) := by
  refine Locks.keeps_awaitFree.bind fun _ => Locks.keeps_acquire.bind fun acquired => ?_
  cases acquired with
  | error e => exact .done _ rfl
  | ok =>
    have giveBack (result : Except Failure Unit) :
        Keeps t .guards (fun _ => own) (h.resource.address :: own)
          (do let _ ← Locks.unlockStream h.resource; return result : Action S _) :=
      (Locks.keeps_unlockStream List.mem_cons_self).bind fun _ => .done _ (by simp)
    refine .after (calm_consult _ _ _ _) fun answer => ?_
    cases answer with
    | error e => exact giveBack (.error e)
    | ok => exact .after (calm_alter _) giveBack

theorem calm_deleted (fire : Bool) (m : Metadata) (result : Except Failure Bool) :
    Calm (do
      match result with
      | .ok true => if fire then h.fire (.deletion h.resource m)
      | _ => h.reportFailure fire m result
      return result) := by
  obtain e | _ | _ := result
  · exact (calm_reportFailure fire m _).bind fun _ => .pure _
  · exact (calm_reportFailure fire m _).bind fun _ => .pure _
  · cases fire
    · exact .pure _
    · exact (calm_fire _).bind fun _ => .pure _

theorem keeps_delete (fire : Bool) (m : Metadata) :
    Keeps t .guards (fun _ => own) own (h.delete t fire m) := by
  refine Locks.keeps_awaitFree.bind fun _ => .after (calm_consult _ _ _ _) fun answer => ?_
  cases answer with
  | error e => exact (calm_deleted fire m (.error e)).keeps _
  | ok => exact .after (calm_alter _) fun result => (calm_deleted fire m result).keeps _

theorem calm_list : Calm h.list := by
  refine (calm_inspect _).bind fun names => ?_
  cases names with
  | error e => exact .pure _
  | ok names => exact calm_consult _ _ _ _

theorem calm_mkdirs : Calm h.mkdirs := by
  refine (calm_consult _ _ _ _).bind fun answer => ?_
  cases answer with
  | error e => exact .pure _
  | ok => exact calm_alter _

theorem keeps_createFile : Keeps t .guards (fun _ => own) own (h.createFile t) := by
  refine Locks.keeps_awaitFree.bind fun _ => .after (calm_consult _ _ _ _) fun answer => ?_
  cases answer with
  | error e => exact .done _ rfl
  | ok => exact (calm_alter _).keeps _

theorem calm_read (c : Cache S R W) (input : Input R) (limit : Option Nat) :
    Calm (input.read c limit) := (calm_inspect _).bind fun _ => .pure _

theorem calm_closeInput (c : Cache S R W) (input : Input R) : Calm (input.close c) := by
  unfold Input.close
  split
  · exact .pure _
  · exact calm_fire _

namespace Output
variable {c : Cache S R W} {output : Output W}

/-- What a thread has beside the writer that it goes on with. -/
def carried (own : List Address) (result : Except Fault α × Output W) : List Address :=
  result.2.resource.address :: own

theorem keeps_call (call : StreamCall) : Keeps t .guards (carried own)
    (output.resource.address :: own) (output.call c call) :=
  .after (calm_alter _) fun _ => .done _ rfl

theorem keeps_put (bytes : Bytes) : Keeps t .guards (carried own)
    (output.resource.address :: own) (output.put c bytes) := keeps_call _

theorem keeps_write (bytes : Bytes) : Keeps t .guards (carried own)
    (output.resource.address :: own) (output.write c bytes) := by
  unfold write
  split
  · exact .done _ rfl
  · exact keeps_put bytes

theorem keeps_close : Keeps t .guards (fun _ => own) (output.resource.address :: own)
    (output.close c) := by
  refine (keeps_call .flush).bind fun flushed => .after (calm_alter _) fun _ => ?_
  refine (Locks.keeps_unlockStream List.mem_cons_self).bind fun _ => ?_
  rw [List.erase_cons_head]
  split
  · exact .done _ rfl
  · exact .after (calm_fire _) fun _ => .done _ rfl

theorem keeps_drop : Keeps t .guards (fun _ => own) (output.resource.address :: own)
    (output.drop c) := by
  refine keeps_close.bind fun flushed => ?_
  cases flushed with
  | ok => exact .done _ rfl
  | error fault => exact (calm_say _ _ _).keeps _

theorem keeps_writeRuns (runs : List Bytes) : Keeps t .guards (carried own)
    (output.resource.address :: own) (output.writeRuns c runs) := by
  induction runs generalizing output with
  | nil => exact .done _ rfl
  | cons run rest ih =>
    refine (keeps_write run).bind fun written => ?_
    obtain ⟨_ | _, next⟩ := written
    · exact .done _ rfl
    · exact ih

theorem keeps_pour (source : Source S) : Keeps t .guards (fun _ => own)
    (output.resource.address :: own) (output.pour c source) := by
  refine .after (calm_inspect _) fun content => (keeps_writeRuns _).bind fun written => ?_
  have giveUp (next : Output W) (fault : Fault) :
      Keeps t .guards (fun _ => own) (next.resource.address :: own)
        (do next.drop c; return .error fault : Action S (Except Fault Nat)) :=
    keeps_drop.bind fun _ => .done _ rfl
  obtain ⟨_ | _, next⟩ := written
  · exact giveUp next _
  cases content.fault? with
  | some fault => exact giveUp next fault
  | none => exact keeps_close.bind fun _ => .done _ rfl

end Output
end Handle

/-! ## The operations of a cache -/

namespace Cache
variable {S R W : Type} {t : Thread} {c : Cache S R W} {own : List Address}

theorem calm_sayAll (lines : List Line) : Calm (sayAll lines : Action S Unit) := by
  induction lines with
  | nil => exact .pure _
  | cons line rest ih => exact (calm_note _).bind fun _ => ih

theorem calm_fetch (endpoint : Endpoint S) (r : Resource) : Calm (fetch endpoint r) :=
  (calm_note _).bind fun _ => (calm_inspect _).bind fun _ => (calm_sayAll _).bind fun _ => .pure _

theorem keeps_download (endpoint : Endpoint S) (h : Handle S R W) (m : Metadata) :
    Keeps t .guards (fun _ => own) own (c.download t endpoint h m) := by
  refine .after (calm_fetch _ _) fun fetched => ?_
  obtain e | _ | source := fetched
  · exact .done _ rfl
  · exact .done _ rfl
  refine (Handle.keeps_openOutput _ _ _).bind fun opened => ?_
  cases opened with
  | error e => exact .done _ rfl
  | ok output =>
    refine (Handle.Output.keeps_pour source).bind fun poured => ?_
    cases poured with
    | ok n => exact .after (calm_say _ _ _) fun _ => .done _ rfl
    | error fault =>
      refine (Handle.keeps_delete _ _).bind fun deleted => ?_
      cases deleted with
      | ok => exact .done _ rfl
      | error e => exact .after (calm_say _ _ _) fun _ => .done _ rfl

theorem keeps_retrieve (r : Resource) (m : Metadata) :
    Keeps t .guards (fun _ => own) own (c.retrieve t r m) := by
  refine .after Handle.calm_present fun there => ?_
  split
  · exact .done _ rfl
  split
  · exact .done _ rfl
  split
  · exact .done _ rfl
  · refine (keeps_download _ _ _).bind fun fetched => ?_
    cases fetched <;> exact .done _ rfl

theorem keeps_store (r : Resource) (source : Source S) (m : Metadata) :
    Keeps t .guards (fun _ => own) own (c.store t r source m) := by
  refine (Handle.keeps_openOutput _ _ _).bind fun opened => ?_
  cases opened with
  | error e => exact .done _ rfl
  | ok output =>
    refine (Handle.Output.keeps_pour source).bind fun poured => ?_
    cases poured with
    | error fault => exact .done _ rfl
    | ok n => exact .after (calm_say _ _ _) fun _ => .done _ rfl

theorem calm_publish (r : Resource) (source : Source S) (length : Nat) (contentType : String) :
    Calm (c.publish r source length contentType) := by
  unfold publish
  split
  · exact .pure _
  · exact (calm_inspect _).bind fun _ => (calm_note _).bind fun _ =>
      (calm_alter _).bind fun _ => (calm_sayAll _).bind fun _ => .pure _

theorem calm_createAlias (source target : Resource) : Calm (c.createAlias source target) :=
  (calm_alter _).bind fun _ => (calm_sayAll _).bind fun _ => .pure _

end Cache

/-! ## The operations on several locations -/

namespace Search
variable {S R W : Type} {t : Thread} {c : Cache S R W} {own : List Address}

theorem keeps_retrieveFirst (spread : Spread) (m : Metadata) :
    Keeps t .guards (fun _ => own) own (retrieveFirst (c.supplier t) spread m) := by
  have visit (first? : Option Failure) (rs : List Resource) : Keeps t .guards (fun _ => own) own
      (retrieveFirst.visit (c.supplier t) m first? rs) := by
    induction rs generalizing first? with
    | nil => exact .done _ rfl
    | cons r rest ih =>
      refine (Cache.keeps_retrieve r m).bind fun found => ?_
      obtain e | _ | handle := found
      · exact .after (calm_say _ _ _) fun _ => ih _
      · exact ih _
      · exact .done _ rfl
  exact visit none spread.resources

theorem keeps_retrieveAll (spread : Spread) (m : Metadata) :
    Keeps t .guards (fun _ => own) own (retrieveAll (c.supplier t) spread m) := by
  have visit (rs : List Resource) :
      Keeps t .guards (fun _ => own) own (retrieveAll.visit (c.supplier t) m rs) := by
    induction rs with
    | nil => exact .done _ rfl
    | cons r rest ih =>
      refine (Cache.keeps_retrieve r m).bind fun found => ?_
      cases found with
      | error e => exact .done _ rfl
      | ok found => exact ih.bind fun _ => .done _ rfl
  exact visit spread.resources

theorem keeps_deleteAll (spread : Spread) (m : Metadata) :
    Keeps t .guards (fun _ => own) own (deleteAll (c.supplier t) spread m) := by
  have visit (rs : List Resource) :
      Keeps t .guards (fun _ => own) own (deleteAll.visit (c.supplier t) m rs) := by
    induction rs with
    | nil => exact .done _ rfl
    | cons r rest ih =>
      refine (Handle.keeps_delete true m).bind fun result => ?_
      obtain e | _ | _ := result
      · exact .after (calm_say _ _ _) fun _ => ih.bind fun _ => .done _ rfl
      · exact ih.bind fun _ => .done _ rfl
      · exact ih.bind fun _ => .done _ rfl
  refine (visit spread.resources).bind fun outcomes => ?_
  dsimp only
  split
  · exact .after (calm_say _ _ _) fun _ => .done _ rfl
  · exact .done _ rfl

theorem keeps_store (spread : Spread) (source : Source S) (m : Metadata) :
    Keeps t .guards (fun _ => own) own (store (c.supplier t) spread source m) := by
  unfold store
  split
  · exact Cache.keeps_store _ source m
  · exact .after (calm_say _ _ _) fun _ => .done _ rfl

end Search
end ArtifactCache
