import ArtifactCache.Handle.Operations
import ArtifactCache.Proofs.Accord
import ArtifactCache.Proofs.Numbering

/-!
Threads that replace the content of one resource: each opens a writer, makes
any number of calls on it and ends it, or copies a file, and then begins again.
The steps of all calls are interleaved in any order (`Shift.Run`), and anything
may happen elsewhere in between. Two records are kept of a run: who has given a
hold back, and whose calls have answered. `Shift.IsSerial` says that they tell of
the same writers and copies, each thread's in its order, and that the resource
holds what one of them has written, and not a mixture.
-/
namespace ArtifactCache

open Handle (Output)

/-- A call with the type of its answer. A call on a writer has the bytes that
the writer was given until then, those of the call included. -/
inductive Job (W : Type) : Type → Type 1
  | opening : Job W (Except Failure (Output W))
  /-- A write or a flush. -/
  | writing (given : Bytes) : Job W (Except Fault Unit × Output W)
  | closing (given : Bytes) : Job W (Except Fault Unit)
  | dropping (given : Bytes) : Job W Unit
  | copying (source : Address) (bytes : Bytes) : Job W (Except Failure Unit)

/-- Where a thread is: it has nothing open, or a writer, or is in a call. -/
inductive Stage (S W : Type) : Type 1
  | idle
  | opened (given : Bytes) (output : Output W)
  | busy {α : Type} (job : Job W α) (rest : Action S α)

variable {S R W α : Type}

namespace Job

/-- What the call brings to the resource, with the calls before it. -/
def bytes : Job W α → Bytes
  | opening => []
  | writing given | closing given | dropping given => given
  | copying _ bytes => bytes

/-- What the call brings for good, if it ends a writer or copies. -/
def brings? : Job W α → Option Bytes
  | closing given | dropping given => some given
  | copying _ bytes => some bytes
  | opening | writing _ => none

/-- What has been brought, according to the answer. -/
def brought? : Job W α → α → Option Bytes
  | closing given, _ | dropping given, _ => some given
  | copying _ bytes, .ok () => some bytes
  | _, _ => none

/-- The answer reports an error of the store. -/
def Fails : Job W α → α → Prop
  | opening, .error (.storage ..) | copying _ _, .error (.storage ..) => True
  | _, _ => False

/-- The answer is that all is well. -/
def Succeeds : Job W α → α → Prop
  | opening, .ok _ | writing _, (.ok _, _) | closing _, .ok _ | dropping _, _
  | copying _ _, .ok _ => True
  | _, _ => False

/-- Where the thread is with the answer. -/
def after : Job W α → α → Stage S W
  | opening, .ok output => .opened [] output
  | writing given, (_, output) => .opened given output
  | _, _ => .idle

end Job

namespace Stage

/-- The bytes of an open writer, until the call that ends it has returned. -/
def given? : Stage S W → Option Bytes
  | opened given _ => some given
  | busy (.writing given) _ | busy (.closing given) _ | busy (.dropping given) _ => some given
  | _ => none

/-- A writer is open, and nobody ends it. -/
def isOpen : Stage S W → Bool
  | opened _ _ | busy (.writing _) _ => true
  | _ => false

/-- The bytes that the thread brings to the resource. -/
def bytes? : Stage S W → Option Bytes
  | idle => none
  | opened given _ => some given
  | busy job _ => some job.bytes

/-- What the call brings for good in which the thread is, if it ends a writer or copies. -/
def brings? : Stage S W → Option Bytes
  | busy job _ => job.brings?
  | _ => none

end Stage

/-- The calls that a thread can begin. What is copied is a file that is not
linked to that of the resource. -/
inductive Begins (b : Backend S R W) (N : Numbering S W) (r : Resource) (t : Thread) (s : S) :
    Stage S W → Stage S W → Prop
  | openOutput {h : Handle S R W} (purpose : Purpose) (fire : Bool) (m : Metadata) :
      h.cache.backend = b → h.cache.hooks? = none → h.resource.address = r.address →
      Begins b N r t s .idle (.busy .opening (h.openOutput t purpose fire m))
  | copyFrom {h source : Handle S R W} {bytes : Bytes} :
      h.cache.backend = b → h.cache.hooks? = none → h.resource.address = r.address →
      N.Source r.address source.resource.address bytes s →
      Begins b N r t s .idle
        (.busy (.copying source.resource.address bytes) (h.copyFrom t source))
  | write {c : Cache S R W} {given : Bytes} {output : Output W} (bytes : Bytes) :
      c.backend = b → Begins b N r t s (.opened given output)
        (.busy (.writing (given ++ bytes)) (output.write c bytes))
  | put {c : Cache S R W} {given : Bytes} {output : Output W} (bytes : Bytes) :
      c.backend = b → Begins b N r t s (.opened given output)
        (.busy (.writing (given ++ bytes)) (output.put c bytes))
  | flush {c : Cache S R W} {given : Bytes} {output : Output W} :
      c.backend = b → Begins b N r t s (.opened given output)
        (.busy (.writing given) (output.flush c))
  | close {c : Cache S R W} {given : Bytes} {output : Output W} :
      c.backend = b → Begins b N r t s (.opened given output)
        (.busy (.closing given) (output.close c))
  | drop {c : Cache S R W} {given : Bytes} {output : Output W} :
      c.backend = b → Begins b N r t s (.opened given output)
        (.busy (.dropping given) (output.drop c))

structure Shift (S W : Type) where
  world : World S
  stages : Thread → Stage S W := fun _ => .idle
  /-- What was there at first. -/
  first : Option Bytes
  /-- Who has brought what, in the order in which the holds were given back. -/
  brought : List (Thread × Bytes) := []
  /-- Who has ended a writer or has copied, and what that has brought, in the order of the
  answers. -/
  ended : List (Thread × Bytes) := []

namespace Shift

def put (c : Shift S W) (t : Thread) (stage : Stage S W) : Shift S W :=
  { c with stages := fun u => if u = t then stage else c.stages u }

/-- What a record tells of one thread, in order. -/
def broughtBy (t : Thread) (record : List (Thread × Bytes)) : List Bytes :=
  (record.filter (·.1 = t)).map (·.2)

/-- What was brought last; before that, what was there at first. -/
def last (c : Shift S W) : Option Bytes := (c.brought.getLast?.map (·.2)).or c.first

/-- The hold of the resource is given back. -/
def frees (a : Address) (w w' : World S) : Bool := w.locks.isHeld a && !w'.locks.isHeld a

/-- Who has brought what, after a step in which `t` brings `bytes`. -/
def broughtAfter (a : Address) (t : Thread) (bytes : Bytes) (w w' : World S)
    (brought : List (Thread × Bytes)) : List (Thread × Bytes) :=
  if frees a w w' then brought ++ [(t, bytes)] else brought

/-- Nothing has happened to the resource, to its lock, or to what is copied to it. -/
structure Leaves (N : Numbering S W) (r : Resource) (c : Shift S W) (w : World S) : Prop where
  lock : w.locks.lockAt r.address = c.world.locks.lockAt r.address
  stays : N.Stays r.address c.world.storage w.storage
  sources (t : Thread) (source : Address) (bytes : Bytes) (rest : Action S (Except Failure Unit)) :
    c.stages t = .busy (.copying source bytes) rest →
    N.Source r.address source bytes w.storage

/-- The states that the threads can reach, if no call of theirs is bound to
report an error of the store. -/
inductive Run (b : Backend S R W) (N : Numbering S W) (r : Resource) : Shift S W → Prop
  | start {w : World S} : N.sound w.storage → w.locks.lockAt r.address = {} →
      Run b N r { world := w, first := b.content? r w.storage }
  | call {c : Shift S W} {t : Thread} {stage : Stage S W} :
      Run b N r c → Begins b N r t c.world.storage (c.stages t) stage → Run b N r (c.put t stage)
  | step {c : Shift S W} {t : Thread} {α β : Type} {job : Job W α} {answer : β} {w : World S}
      {act : World S → Option (β × World S)} {next : β → Action S α} :
      Run b N r c → c.stages t = .busy job (.step act next) → act c.world = some (answer, w) →
      ¬ (next answer).EndsIn job.Fails →
      Run b N r { c.put t (.busy job (next answer)) with
        world := w, brought := broughtAfter r.address t job.bytes c.world w c.brought }
  | answer {c : Shift S W} {t : Thread} {α : Type} {job : Job W α} {v : α} :
      Run b N r c → c.stages t = .busy job (.done v) →
      Run b N r { c.put t (job.after v) with
        ended := c.ended ++ (job.brought? v).toList.map (t, ·) }
  | elsewhere {c : Shift S W} {w : World S} :
      Run b N r c → c.Leaves N r w → Run b N r { c with world := w }

/-- The resource holds what was brought last, or what one thread is bringing. -/
structure IsSerial (b : Backend S R W) (r : Resource) (c : Shift S W) : Prop where
  /-- Without a hold the last one is finished. -/
  settled : c.world.locks.isHeld r.address = false → b.content? r c.world.storage = c.last
  /-- Every call is answered well. -/
  succeeds {t : Thread} {α : Type} {job : Job W α} {v : α} :
    c.stages t = .busy job (.done v) → job.Succeeds v
  /-- A thread has brought what its answers say, each once and in that order; only the call in
  which it is may have brought its bytes already. -/
  told (t : Thread) : broughtBy t c.brought = broughtBy t c.ended ∨
    ∃ bytes, (c.stages t).brings? = some bytes ∧
      broughtBy t c.brought = broughtBy t c.ended ++ [bytes]
  /-- An open writer has the hold. -/
  held (t : Thread) : (c.stages t).isOpen = true →
    (c.world.locks.lockAt r.address).owner = some t
  /-- As long as it has, the resource holds a part of what it was given. -/
  part (t : Thread) (given : Bytes) : (c.stages t).given? = some given →
    (c.world.locks.lockAt r.address).owner = some t →
    ∃ bytes, b.content? r c.world.storage = some bytes ∧ bytes <+: given
  unmixed : b.content? r c.world.storage = c.last ∨
    ∃ t brought bytes, (c.world.locks.lockAt r.address).owner = some t ∧
      (c.stages t).bytes? = some brought ∧ b.content? r c.world.storage = some bytes ∧
      bytes <+: brought

/-- A thread that is in no call was told all that it has brought. -/
theorem IsSerial.told_of_idle {b : Backend S R W} {r : Resource} {c : Shift S W} {t : Thread}
    (serial : c.IsSerial b r) (idle : c.stages t = .idle) :
    broughtBy t c.brought = broughtBy t c.ended := by
  obtain told | ⟨bytes, brings, _⟩ := serial.told t
  · exact told
  · rw [idle] at brings
    cases brings

/-! ## Undisturbed calls -/

variable {b : Backend S R W} {N : Numbering S W} {r : Resource} {c c' c'' : Shift S W} {t : Thread}

/-- Thread `t` alone has moved: it is in the stage, and was told what it has brought. -/
structure Advances (t : Thread) (stage : Stage S W) (told : List Bytes) (c c' : Shift S W) :
    Prop where
  stage : c'.stages t = stage
  others (u : Thread) : u ≠ t → c'.stages u = c.stages u
  ended : c'.ended = c.ended ++ told.map (t, ·)

theorem Advances.trans {stage stage' : Stage S W} {told told' : List Bytes}
    (first : Advances t stage told c c') (second : Advances t stage' told' c' c'') :
    Advances t stage' (told ++ told') c c'' where
  stage := second.stage
  others u other := (second.others u other).trans (first.others u other)
  ended := by rw [second.ended, first.ended, List.map_append, List.append_assoc]

theorem Run.finishes {α : Type} {job : Job W α} {p : Action S α} {v : α} {e : World S}
    (run : Run b N r c) (stage : c.stages t = .busy job p) (ends : p.run c.world = .finished v e)
    (fine : ¬ job.Fails v) :
    ∃ c', Run b N r c' ∧ c'.world = e ∧ Advances t (.busy job (.done v)) [] c c' := by
  induction p generalizing c with
  | done v' =>
    obtain ⟨rfl, rfl⟩ := Program.Progress.finished.inj ends
    exact ⟨c, run, rfl, stage, fun _ _ => rfl, (List.append_nil _).symm⟩
  | step act next ih =>
    rw [Program.run] at ends
    split at ends
    · cases ends
    next answer w admits =>
    have spared : ¬ (next answer).EndsIn job.Fails := fun fails => fine (fails.of_run ends)
    obtain ⟨c', run, world, moved⟩ := ih answer (run.step stage admits spared) (if_pos rfl) ends
    exact ⟨c', run, world, moved.stage,
      fun u other => (moved.others u other).trans (if_neg other), moved.ended⟩

/-- A call that nobody disturbs is a part of a run, if it goes well. -/
theorem Run.complete {α : Type} {job : Job W α} {p : Action S α} {v : α} {e : World S}
    {stage : Stage S W} (run : Run b N r c) (here : c.stages t = stage)
    (begins : Begins b N r t c.world.storage stage (.busy job p))
    (ends : p.run c.world = .finished v e) (fine : ¬ job.Fails v) :
    ∃ c', Run b N r c' ∧ c'.world = e ∧ Advances t (job.after v) (job.brought? v).toList c c' := by
  subst here
  obtain ⟨c', run, world, moved⟩ := (run.call begins).finishes (t := t) (if_pos rfl) ends fine
  refine ⟨_, run.answer moved.stage, world, if_pos rfl, fun u other => ?_, ?_⟩
  · exact (if_neg other).trans ((moved.others u other).trans (if_neg other))
  · change c'.ended ++ _ = _
    rw [moved.ended]
    simp [put]

/-- Opens a writer, writes all bytes at once and closes it. -/
def writeOnce (h : Handle S R W) (t : Thread) (bytes : Bytes) : Action S Bool := do
  match ← h.openOutput t .upload false ∅ with
  | .error _ => return false
  | .ok output =>
    let (_, output) ← output.write h.cache bytes
    let _ ← output.close h.cache
    return true

/-- So is the life of a writer. -/
theorem Run.writeOnce {h : Handle S R W} {bytes : Bytes} {such : World S → Bool}
    (run : Run b N r c) (idle : c.stages t = .idle) (backend : h.cache.backend = b)
    (plain : h.cache.hooks? = none) (here : h.resource.address = r.address)
    (goes : ((writeOnce h t bytes).run c.world).passes (fun done w => done && such w) = true) :
    ∃ c', Run b N r c' ∧ such c'.world = true ∧ Advances t .idle [bytes] c c' := by
  obtain ⟨done, e, ends, goes⟩ := Program.Progress.exists_of_passes goes
  obtain ⟨rfl, fits⟩ := Bool.and_eq_true_iff.1 goes
  obtain ⟨opened, w, opens, ends⟩ := Program.finished_of_bind ends
  cases opened with
  | error => cases ends
  | ok output =>
    obtain ⟨⟨answer, output'⟩, w', writes, ends⟩ := Program.finished_of_bind ends
    obtain ⟨closed, w'', closes, ends⟩ := Program.finished_of_bind ends
    obtain ⟨-, rfl⟩ := Program.Progress.finished.inj ends
    obtain ⟨c₁, run, rfl, opening⟩ :=
      run.complete idle (.openOutput .upload false ∅ backend plain here) opens id
    obtain ⟨c₂, run, rfl, writing⟩ := run.complete opening.stage (.write bytes backend) writes id
    obtain ⟨c₃, run, rfl, closing⟩ := run.complete writing.stage (.close backend) closes id
    exact ⟨c₃, run, fits, (opening.trans writing).trans closing⟩

/-- So is a copy. -/
theorem Run.copyOnce {h source : Handle S R W} {bytes : Bytes} {such : World S → Bool}
    (run : Run b N r c) (idle : c.stages t = .idle) (backend : h.cache.backend = b)
    (plain : h.cache.hooks? = none) (here : h.resource.address = r.address)
    (given : N.Source r.address source.resource.address bytes c.world.storage)
    (goes : ((h.copyFrom t source).run c.world).passes
      (fun result w => result.isOk && such w) = true) :
    ∃ c', Run b N r c' ∧ such c'.world = true ∧ Advances t .idle [bytes] c c' := by
  obtain ⟨result, e, ends, goes⟩ := Program.Progress.exists_of_passes goes
  obtain ⟨good, fits⟩ := Bool.and_eq_true_iff.1 goes
  cases result with
  | error => cases good
  | ok =>
    obtain ⟨c', run, rfl, copying⟩ := run.complete idle (.copyFrom backend plain here given) ends id
    exact ⟨c', run, fits, copying⟩

end Shift
end ArtifactCache
