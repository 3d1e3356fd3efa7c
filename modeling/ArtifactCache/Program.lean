/-!
Programs of one thread over a shared state. A program ends with a value, or
takes one indivisible step and goes on; a step that the state does not admit
leaves it alone, and the thread waits. `run` follows one thread while it can
move; any number of threads are interleaved step by step.
-/
namespace ArtifactCache

inductive Program (σ : Type) (α : Type) : Type 1 where
  | done (value : α)
  /-- `none` means that the state does not admit the step: wait, and try again. -/
  | step {β : Type} (act : σ → Option (β × σ)) (next : β → Program σ α)

namespace Program
variable {σ τ α β : Type}

protected def bind : Program σ α → (α → Program σ β) → Program σ β
  | done value, k => k value
  | step act next, k => step act fun answer => (next answer).bind k

instance : Monad (Program σ) where
  pure := done
  bind := Program.bind

theorem bind_done (p : Program σ α) : p.bind done = p := by
  induction p with
  | done => rfl
  | step act next ih => exact congrArg _ (funext ih)

theorem bind_assoc {γ : Type} (p : Program σ α) (f : α → Program σ β) (g : β → Program σ γ) :
    (p.bind f).bind g = p.bind fun a => (f a).bind g := by
  induction p with
  | done => rfl
  | step act next ih => exact congrArg _ (funext ih)

instance : LawfulMonad (Program σ) := LawfulMonad.mk' _ bind_done (fun _ _ => rfl) bind_assoc

/-- One step that the state may not admit. -/
def attempt (act : σ → Option (α × σ)) : Program σ α := step act done

/-- One step that every state admits. -/
def change (act : σ → α × σ) : Program σ α := attempt fun s => some (act s)

/-- Reads the state. -/
def look (view : σ → α) : Program σ α := change fun s => (view s, s)

/-- Waits for a state that passes the test. -/
def await (ready : σ → Bool) : Program σ Unit :=
  attempt fun s => if ready s then some ((), s) else none

/-- How far a thread comes on its own. -/
inductive Progress (σ α : Type) : Type 1 where
  | finished (value : α) (state : σ)
  /-- The state does not admit the next step of `rest`. -/
  | waiting (rest : Program σ α) (state : σ)

/-- Runs until the end, or until a step has to wait. -/
def run : Program σ α → σ → Progress σ α
  | done value, s => .finished value s
  | step act next, s =>
    match act s with
    | none => .waiting (step act next) s
    | some (answer, s') => (next answer).run s'

theorem run_step {β : Type} {act : σ → Option (β × σ)} {next : β → Program σ α} {s s' : σ} {b : β}
    (admits : act s = some (b, s')) : (step act next).run s = (next b).run s' := by
  simp [run, admits]

/-- The same program over a state of which `σ` is a part. -/
def within (get : τ → σ) (set : σ → τ → τ) : Program σ α → Program τ α
  | done value => done value
  | step act next =>
    step (fun t => (act (get t)).map fun (answer, s) => (answer, set s t))
      fun answer => (next answer).within get set

/-- Calls `f` for one element after the other. -/
def forEach (f : α → Program σ β) : List α → Program σ (List β)
  | [] => pure []
  | x :: rest => do
    let y ← f x
    let ys ← forEach f rest
    return y :: ys

end Program
end ArtifactCache
