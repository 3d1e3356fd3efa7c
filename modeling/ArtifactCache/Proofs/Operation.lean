import ArtifactCache.Proofs.CallLog

/-!
What a thread can ask of a cache, in one type, and the programs that answer.
No discipline is assumed: a lock may be released that was never taken, a guard
dropped twice, and a writer closed that another thread opened.
-/
namespace ArtifactCache

/-- An operation with the type of its answer. -/
inductive Operation (S R W : Type) : Type → Type 1
  | lock (r : Resource) : Operation S R W Unit
  | unlock (r : Resource) : Operation S R W Bool
  | lockStream (r : Resource) : Operation S R W Bool
  | unlockStream (r : Resource) : Operation S R W Bool
  | awaitFree (r : Resource) : Operation S R W Unit
  | isLocked (r : Resource) : Operation S R W Bool
  | touch (h : Handle S R W) (m : Metadata) : Operation S R W Unit
  | openInput (h : Handle S R W) (fire : Bool) (m : Metadata) :
      Operation S R W (Except Failure (Option (Handle.Input R)))
  | read (c : Cache S R W) (input : Handle.Input R) (limit : Option Nat) :
      Operation S R W (Except Fault Bytes × Handle.Input R)
  | closeInput (c : Cache S R W) (input : Handle.Input R) : Operation S R W Unit
  | openOutput (h : Handle S R W) (purpose : Purpose) (fire : Bool) (m : Metadata) :
      Operation S R W (Except Failure (Handle.Output W))
  | write (c : Cache S R W) (output : Handle.Output W) (bytes : Bytes) :
      Operation S R W (Except Fault Unit × Handle.Output W)
  /-- One call for the bytes, be there any or not. -/
  | put (c : Cache S R W) (output : Handle.Output W) (bytes : Bytes) :
      Operation S R W (Except Fault Unit × Handle.Output W)
  | flush (c : Cache S R W) (output : Handle.Output W) :
      Operation S R W (Except Fault Unit × Handle.Output W)
  | close (c : Cache S R W) (output : Handle.Output W) : Operation S R W (Except Fault Unit)
  | drop (c : Cache S R W) (output : Handle.Output W) : Operation S R W Unit
  | present (h : Handle S R W) : Operation S R W Bool
  | copyFrom (h source : Handle S R W) : Operation S R W (Except Failure Unit)
  | delete (h : Handle S R W) (fire : Bool) (m : Metadata) : Operation S R W (Except Failure Bool)
  | list (h : Handle S R W) : Operation S R W (Except Failure (List String))
  | mkdirs (h : Handle S R W) : Operation S R W (Except Failure Unit)
  | createFile (h : Handle S R W) : Operation S R W (Except Failure Unit)
  | retrieve (c : Cache S R W) (r : Resource) (m : Metadata) :
      Operation S R W (Except Failure (Option (Handle S R W)))
  | store (c : Cache S R W) (r : Resource) (source : Source S) (m : Metadata) :
      Operation S R W (Except Failure (Handle S R W))
  | publish (c : Cache S R W) (r : Resource) (source : Source S) (length : Nat)
      (contentType : String) : Operation S R W (Except Failure Bool)
  | remove (c : Cache S R W) (r : Resource) (m : Metadata) : Operation S R W (Except Failure Bool)
  | createAlias (c : Cache S R W) (source target : Resource) : Operation S R W (Except Failure Unit)
  | metaSibling (h : Handle S R W) (suffix : String) : Operation S R W (Option (Handle S R W))
  /-- Reads what the store knows, such as the length of a resource. -/
  | inspect {α : Type} (view : S → α) : Operation S R W α
  | retrieveFirst (c : Cache S R W) (spread : Spread) (m : Metadata) :
      Operation S R W (Except Failure (Option (Handle S R W)))
  | retrieveAll (c : Cache S R W) (spread : Spread) (m : Metadata) :
      Operation S R W (Except Failure (List (Handle S R W)))
  | removeAll (c : Cache S R W) (spread : Spread) (m : Metadata) : Operation S R W DeleteReport
  | storeOne (c : Cache S R W) (spread : Spread) (source : Source S) (m : Metadata) :
      Operation S R W (Except Failure (Handle S R W))

namespace Operation
variable {S R W α : Type} {t : Thread}

/-- The program that answers, when `t` asks. -/
def program (t : Thread) : Operation S R W α → Action S α
  | lock r => Locks.lock t r
  | unlock r => Locks.unlock r
  | lockStream r => Locks.lockStream t r
  | unlockStream r => Locks.unlockStream r
  | awaitFree r => Locks.awaitFree t r
  | isLocked r => Locks.isLocked r
  | touch h m => h.touch m
  | openInput h fire m => h.openInput t fire m
  | read c input limit => input.read c limit
  | closeInput c input => input.close c
  | openOutput h purpose fire m => h.openOutput t purpose fire m
  | write c output bytes => output.write c bytes
  | put c output bytes => output.put c bytes
  | flush c output => output.flush c
  | close c output => output.close c
  | drop c output => output.drop c
  | present h => h.present
  | copyFrom h source => h.copyFrom t source
  | delete h fire m => h.delete t fire m
  | list h => h.list
  | mkdirs h => h.mkdirs
  | createFile h => h.createFile t
  | retrieve c r m => c.retrieve t r m
  | store c r source m => c.store t r source m
  | publish c r source length contentType => c.publish r source length contentType
  | remove c r m => c.delete t r m
  | createAlias c source target => c.createAlias source target
  | metaSibling h suffix => h.metaSibling suffix
  | inspect view => Action.inspect view
  | retrieveFirst c spread m => Search.retrieveFirst (c.supplier t) spread m
  | retrieveAll c spread m => Search.retrieveAll (c.supplier t) spread m
  | removeAll c spread m => Search.deleteAll (c.supplier t) spread m
  | storeOne c spread source m => Search.store (c.supplier t) spread source m

/-- All that an operation does to the locks is to make calls on their table. -/
theorem keeps (operation : Operation S R W α) :
    Keeps t .free (fun _ => ()) () (operation.program t) := by
  cases operation with
  | lock => exact Locks.keeps_lock
  | unlock => exact Locks.keeps_unlock
  | lockStream => exact .free (o := []) Locks.keeps_lockStream
  | unlockStream => exact .free (o := [_]) (Locks.keeps_unlockStream List.mem_cons_self)
  | awaitFree => exact .free (o := []) Locks.keeps_awaitFree
  | isLocked => exact Locks.calm_isLocked.keeps ()
  | touch _ m => exact (Handle.calm_touch m).keeps ()
  | openInput _ fire m => exact .free (o := []) (Handle.keeps_openInput fire m)
  | read c input limit => exact (Handle.calm_read c input limit).keeps ()
  | closeInput c input => exact (Handle.calm_closeInput c input).keeps ()
  | openOutput _ purpose fire m => exact .free (o := []) (Handle.keeps_openOutput purpose fire m)
  | write _ _ bytes => exact .free (o := [_]) (Handle.Output.keeps_write bytes)
  | put _ _ bytes => exact .free (o := [_]) (Handle.Output.keeps_put bytes)
  | flush => exact .free (o := [_]) (Handle.Output.keeps_call .flush)
  | close => exact .free (o := [_]) Handle.Output.keeps_close
  | drop => exact .free (o := [_]) Handle.Output.keeps_drop
  | present => exact Handle.calm_present.keeps ()
  | copyFrom _ source => exact .free (o := []) (Handle.keeps_copyFrom source)
  | delete _ fire m => exact .free (o := []) (Handle.keeps_delete fire m)
  | list => exact Handle.calm_list.keeps ()
  | mkdirs => exact Handle.calm_mkdirs.keeps ()
  | createFile => exact .free (o := []) Handle.keeps_createFile
  | retrieve _ r m => exact .free (o := []) (Cache.keeps_retrieve r m)
  | store _ r source m => exact .free (o := []) (Cache.keeps_store r source m)
  | publish _ r source length contentType =>
    exact (Cache.calm_publish r source length contentType).keeps ()
  | remove _ r m => exact .free (o := []) (Handle.keeps_delete true m)
  | createAlias _ source target => exact (Cache.calm_createAlias source target).keeps ()
  | metaSibling _ suffix => exact (Handle.calm_metaSibling suffix).keeps ()
  | inspect view => exact (calm_inspect view).keeps ()
  | retrieveFirst _ spread m => exact .free (o := []) (Search.keeps_retrieveFirst spread m)
  | retrieveAll _ spread m => exact .free (o := []) (Search.keeps_retrieveAll spread m)
  | removeAll _ spread m => exact .free (o := []) (Search.keeps_deleteAll spread m)
  | storeOne _ spread source m => exact .free (o := []) (Search.keeps_store spread source m)

end Operation

/-- What a thread asks for. Each question may depend on the answers before it,
as a write does on the writer that was opened. -/
inductive Session (S R W : Type) : Type 1
  | stop
  | ask {α : Type} (operation : Operation S R W α) (next : α → Session S R W)

namespace Session
variable {S R W : Type} {t : Thread}

def program (t : Thread) : Session S R W → Action S Unit
  | stop => return ()
  | ask operation next => do
    let answer ← operation.program t
    (next answer).program t

theorem keeps (session : Session S R W) :
    Keeps t .free (fun _ => ()) () (session.program t) := by
  induction session with
  | stop => exact .done _ rfl
  | ask operation next ih => exact operation.keeps.bind ih

end Session

/-! ## Every interleaving is a run -/

namespace Crew
variable {S R W : Type} {tasks left : Thread → Action S Unit} {s : S} {w : World S}

/-- Threads that take turns in any order, and what is left of their tasks; no
account is given of what they do. -/
inductive Interleaved (tasks : Thread → Action S Unit) (s : S) :
    World S → (Thread → Action S Unit) → Prop
  | start : Interleaved tasks s { storage := s } tasks
  | step {w w' : World S} {left : Thread → Action S Unit} {t : Thread} {β : Type} {b : β}
      {act : World S → Option (β × World S)} {next : β → Action S Unit} :
      Interleaved tasks s w left → left t = .step act next → act w = some (b, w') →
      Interleaved tasks s w' fun u => if u = t then next b else left u

/-- What is left of a task follows the discipline that the task follows. -/
theorem exists_run (lawful : ∀ t, Follows t .free (fun _ => ()) () (tasks t))
    (interleaved : Interleaved tasks s w left) :
    ∃ h c, Run tasks s h c ∧ c.world = w ∧ c.tasks = left ∧
      ∀ t, Follows t .free (fun _ => ()) () (left t) := by
  induction interleaved with
  | start => exact ⟨[], _, .start, rfl, rfl, lawful⟩
  | @step w w' left t β b act next _ task admits ih =>
    obtain ⟨h, c, run, rfl, rfl, lawful⟩ := ih
    have awake : (c.stir t).asleep t = none := by simp [stir]
    have rest (u : Thread) (after : Follows t .free (fun _ => ()) () (next b)) :
        Follows u .free (fun _ => ()) () (if u = t then next b else c.tasks u) := by
      split
      · next eq => exact eq ▸ after
      · exact lawful u
    have mine := lawful t
    rw [task] at mine
    cases mine with
    | quiet quiet after =>
      exact ⟨h, _, .quiet (run.stir t) awake task quiet admits, rfl, rfl,
        fun u => rest u (after b)⟩
    | deed performs _ after =>
      obtain ⟨m, move, _, _⟩ := performs.move admits
      exact ⟨_, _, (run.stir t).deed (.deed awake task performs admits move), rfl, rfl,
        fun u => rest u (after b)⟩

/-- The log of a thread that asks what a cache can answer tells exactly which
calls on the table of locks its operations made. -/
theorem Run.tells_session {h : Locks.Log} {c : Crew S} {t : Thread} {session : Session S R W}
    (run : Run tasks s h c) (asks : tasks t = session.program t) :
    h.Tells t (tasks t) (c.tasks t) :=
  run.tells (asks ▸ session.keeps)

/-- Whatever the threads ask for, and in whatever order they get on, the log of
a run accounts for it, with all calls on the table of locks and nothing else. -/
theorem exists_run_of_sessions (sessions : Thread → Session S R W)
    (interleaved : Interleaved (fun t => (sessions t).program t) s w left) :
    ∃ h c, Run (fun t => (sessions t).program t) s h c ∧ c.world = w ∧ c.tasks = left ∧
      ∀ t, h.Tells t ((sessions t).program t) (left t) := by
  obtain ⟨h, c, run, world, tasks, _⟩ :=
    exists_run (fun t => (sessions t).keeps.follows) interleaved
  exact ⟨h, c, run, world, tasks, fun t => tasks ▸ run.tells_session rfl⟩

end Crew
end ArtifactCache
