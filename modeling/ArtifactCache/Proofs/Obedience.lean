import ArtifactCache.Proofs.Conduct
import ArtifactCache.Proofs.Outcomes
import ArtifactCache.Proofs.Seen

/-!
# Operations obey their hooks

An operation asks at most one hook, and where that refuses, it goes no further. It fails
with the failure of the hook, all locks are held as before, and the store is as it was.
Only the hook for writing is asked late: it is to put its filter around a writer that is
open, and the content is gone by then (`Cache.Spared`).
-/
namespace ArtifactCache

/-! ## How far programs come -/

namespace Program
variable {σ α β : Type} {p : Program σ α} {s : σ} {ends : α → σ → Prop} {waits : σ → Prop}

/-- Without others in between, the program comes to such an end, or to a step that has to
wait in such a state. -/
def Comes (p : Program σ α) (s : σ) (ends : α → σ → Prop) (waits : σ → Prop) : Prop :=
  match p.run s with
  | .finished v e => ends v e
  | .waiting _ e => waits e

/-- No step waits. -/
def Prompt : Program σ α → Prop
  | done _ => True
  | step act next => ∀ s, ∃ b s', act s = some (b, s') ∧ Prompt (next b)

theorem Comes.bind {k : α → Program σ β} {such : β → σ → Prop} (first : p.Comes s ends waits)
    (rest : ∀ v e, ends v e → (k v).Comes e such waits) : (p >>= k).Comes s such waits := by
  induction p generalizing s with
  | done v => exact rest v s first
  | step act next ih =>
    change (step act fun b => next b >>= k).Comes s such waits
    unfold Comes run at first ⊢
    generalize act s = moved at first ⊢
    cases moved with
    | none => exact first
    | some moved => exact ih moved.1 first

theorem Comes.mono {ends' : α → σ → Prop} {waits' : σ → Prop} (comes : p.Comes s ends waits)
    (ends_le : ∀ v e, ends v e → ends' v e) (waits_le : ∀ e, waits e → waits' e) :
    p.Comes s ends' waits' := by
  unfold Comes at comes ⊢
  split at comes
  · exact ends_le _ _ comes
  · exact waits_le _ comes

theorem Comes.and {also : α → σ → Prop} (comes : p.Comes s ends waits) (leads : p.Leads s also) :
    p.Comes s (fun v e => ends v e ∧ also v e) waits := by
  unfold Comes at comes ⊢
  split at comes
  · next ended => exact ⟨comes, leads _ _ ended⟩
  · exact comes

theorem prompt_change (act : σ → α × σ) : (change act).Prompt :=
  fun s => ⟨(act s).1, (act s).2, rfl, trivial⟩

theorem Prompt.comes (prompt : p.Prompt) (leads : p.Leads s ends) : p.Comes s ends waits := by
  induction p generalizing s with
  | done v => exact leads v s rfl
  | step act next ih =>
    obtain ⟨b, s', admits, prompt⟩ := prompt s
    have comes := ih b prompt fun v e ended => leads v e ((run_step admits).trans ended)
    unfold Comes at comes ⊢
    rwa [run_step admits]

theorem Unseen.comes {S δ : Type} {pick : Occurrence → Option δ} {such : α → Prop}
    {p : Action S α} (unseen : p.Unseen pick such) (w : World S) :
    p.Comes w (fun v e => such v ∧ e.seen pick = w.seen pick)
      fun e => e.seen pick = w.seen pick := by
  induction p generalizing w with
  | done v => exact ⟨unseen, rfl⟩
  | step act next ih =>
    unfold Comes run
    cases admits : act w with
    | none => exact rfl
    | some moved =>
      obtain ⟨b, w₁⟩ := moved
      obtain ⟨same, unseen⟩ := unseen w b w₁ admits
      exact (ih b unseen w₁).mono (fun _ _ ends => ⟨ends.1, ends.2.trans same⟩)
        fun _ same' => same'.trans same

theorem Prompt.comes_unseen {S δ : Type} {pick : Occurrence → Option δ} {such : α → Prop}
    {p : Action S α} {w : World S} {ends : α → World S → Prop} {waits : World S → Prop}
    (prompt : p.Prompt) (unseen : p.Unseen pick such) (leads : p.Leads w ends) :
    p.Comes w (fun v e => ends v e ∧ e.seen pick = w.seen pick) waits :=
  prompt.comes fun v e ended => ⟨leads v e ended, (unseen.of_run ended).1⟩

end Program

open Program (Leads Prompt leads_pure prompt_change)

theorem Calm.prompt {S α : Type} {p : Action S α} (calm : Calm p) : p.Prompt := by
  induction calm with
  | done v => trivial
  | step quiet _ ih =>
    intro w
    obtain ⟨b, w', admits, _⟩ := quiet w
    exact ⟨b, w', admits, ih b⟩

/-! ## What hooks were asked -/

def Occurrence.call? : Occurrence → Option HookCall
  | hooked call => some call
  | _ => none

instance : Occurrence.Sifts Occurrence.call? := ⟨fun _ => rfl⟩

/-- The calls on hooks, in order. -/
abbrev World.asked {S : Type} (w : World S) : List HookCall := w.seen Occurrence.call?

/-- The resource that is to be operated on; of a copy, the target. -/
def HookCall.resource : HookCall → Resource
  | touch r _ | read r _ | write _ r _ | present r _ | copyFrom _ r _ | delete r _
  | listing r _ _ | mkdirs r _ | createFile r _ => r

namespace Hooks
variable {S α : Type} {hooks : Hooks} {w w₁ w' : World S}

def fault? (hook : Hook) : Except Fault α → Option (Hook × Fault)
  | .ok _ => none
  | .error fault => some (hook, fault)

/-- The calls on the stream of a new writer with which the hook for writing answers. -/
def heading (hooks : Hooks) : HookCall → List StreamCall
  | .write purpose r m => hooks.header purpose r m
  | _ => []

/-- The hook that refuses, and why. -/
def veto? (hooks : Hooks) : HookCall → Option (Hook × Fault)
  | .touch _ _ | .present _ _ => none
  | .read r m => fault? .read (hooks.read r m)
  | .write purpose r m => fault? .write (hooks.write purpose r m)
  | .copyFrom source target m => fault? .copyFrom (hooks.copyFrom source target m)
  | .delete r m => fault? .delete (hooks.delete r m)
  | .listing r names m => fault? .listing (hooks.listing r names m)
  | .mkdirs r m => fault? .mkdirs (hooks.mkdirs r m)
  | .createFile r m => fault? .createFile (hooks.createFile r m)

/-- No hook has refused on the way. -/
def Granted (hooks : Hooks) (w w' : World S) : Prop :=
  ∃ calls, w'.asked = w.asked ++ calls ∧ ∀ call ∈ calls, hooks.veto? call = none

theorem Granted.of_same (same : w'.asked = w.asked) : hooks.Granted w w' :=
  ⟨[], by rw [same, List.append_nil], nofun⟩

theorem Granted.trans (first : hooks.Granted w w₁) (second : hooks.Granted w₁ w') :
    hooks.Granted w w' := by
  obtain ⟨calls, asked, pass⟩ := first
  obtain ⟨calls', asked', pass'⟩ := second
  refine ⟨calls ++ calls', by rw [asked', asked, List.append_assoc], fun call mem => ?_⟩
  exact (List.mem_append.1 mem).elim (pass call) (pass' call)

/-- It stays so where no hook is asked any more. -/
theorem Granted.comes {p : Action S α} (granted : hooks.Granted w w₁)
    (unasked : p.Unseen Occurrence.call? fun _ => True) :
    p.Comes w₁ (fun _ w' => hooks.Granted w w') (hooks.Granted w) :=
  (unasked.comes w₁).mono (fun _ _ ends => granted.trans (.of_same ends.2))
    fun _ same => granted.trans (.of_same same)

end Hooks

/-! ## Obedience -/

namespace Cache
variable {S R W α β : Type} (c : Cache S R W)

/-- The failure of an operation that a hook refuses. -/
def refusal (call : HookCall) (hook : Hook) (fault : Fault) : Failure :=
  .storage (.hook hook) (c.backend.place call.resource) fault

/-- A writer was opened and closed again, and was given in between what the hook wrote. -/
def Headed (hooks : Hooks) (call : HookCall) (s s' : S) : Prop :=
  ∃ stream s₁, c.backend.openWriter call.resource s = (.ok stream, s₁) ∧
    s' = c.backend.pour stream ((hooks.heading call).map StreamCall.part) s₁

/-- All locks are held as before, and nothing has changed; unless it was the hook for
writing that was asked. -/
structure Spared (headed : HookCall → S → S → Prop) (call : HookCall) (hook : Hook)
    (w w' : World S) : Prop where
  holds : Locks.SameHolds w.locks w'.locks
  storage : if hook = .write then headed call w.storage w'.storage
    else w'.storage = w.storage

/-- No hook has refused, or the one that was asked, and that is how it `failed`. -/
def Obeyed (hooks : Hooks) (failed : Failure → Prop) (w w' : World S) : Prop :=
  hooks.Granted w w' ∨ ∃ call hook fault, w'.asked = w.asked ++ [call] ∧
    hooks.veto? call = some (hook, fault) ∧ failed (c.refusal call hook fault) ∧
    Spared (c.Headed hooks) call hook w w'

/-- The program obeys the hook that it asks, and does not wait any more. -/
def Obeys (hooks : Hooks) (failed : α → Failure → Prop) (p : Action S α) : Prop :=
  ∀ w, p.Comes w (fun v w' => c.Obeyed hooks (failed v) w w') (hooks.Granted w)

variable {c} {hooks : Hooks} {failed : α → Failure → Prop} {p : Action S α}

theorem Spared.of_still {headed : HookCall → S → S → Prop} {call : HookCall} {hook : Hook}
    {w w' : World S} (still : w.Still w') (other : hook ≠ .write) :
    Spared headed call hook w w' where
  holds _ := by rw [still.locks]
  storage := by rw [if_neg other, still.storage]

theorem Obeys.of_unseen (unasked : p.Unseen Occurrence.call? fun _ => True) :
    c.Obeys hooks failed p := by
  intro w
  exact (Hooks.Granted.comes (.of_same rfl) unasked).mono (fun _ _ => .inl) fun _ => id

/-- What is made of the value tells of the same failure. -/
theorem Obeys.map {failed' : β → Failure → Prop} (obeys : c.Obeys hooks failed p) (k : α → β)
    (told : ∀ v e, failed v e → failed' (k v) e) :
    c.Obeys hooks failed' (do return k (← p)) := by
  intro w
  apply (obeys w).bind
  intro v w' obeyed
  obtain granted | ⟨call, hook, fault, asked, refuses, fails, spared⟩ := obeyed
  · exact .inl granted
  · exact .inr ⟨call, hook, fault, asked, refuses, told _ _ fails, spared⟩

/-- A hook that cannot refuse is asked first, and no other. -/
theorem Obeys.noted {call : HookCall} (pass : hooks.veto? call = none) {p : Action S α}
    (unasked : p.Unseen Occurrence.call? fun _ => True) :
    c.Obeys hooks failed (do Action.note (.hooked call); p) := by
  intro w
  have granted : hooks.Granted w (w.note (.hooked call)) :=
    ⟨[call], by simp [World.seen, World.note, Occurrence.call?], by simpa using pass⟩
  exact (granted.comes unasked).mono (fun _ _ => .inl) fun _ => id

/-- Nothing is asked while a thread waits for others. -/
theorem Obeys.awaitFree (obeys : c.Obeys hooks failed p) (t : Thread) (r : Resource) :
    c.Obeys hooks failed (do Locks.awaitFree t r; p) := by
  intro w
  have unseen : (Locks.awaitFree t r : Action S Unit).Unseen Occurrence.call? fun _ => True :=
    Locks.unseen_awaitFree
  have comes : (Locks.awaitFree t r).Comes w (fun _ w' => w' = w) (hooks.Granted w) := by
    refine ((unseen.comes w).and (Locks.leads_awaitFree t r w)).mono (fun _ _ ends => ends.2) ?_
    intro w' same
    exact .of_same same
  refine comes.bind ?_
  rintro _ _ rfl
  exact obeys _

end Cache

/-! ## The operations on one resource -/

section
variable {S : Type}

theorem comes_alter {β : Type} (act : S → β × S) (w : World S) (waits : World S → Prop) :
    (Action.alter act).Comes w (fun v w' => (v = (act w.storage).1 ∧
      w'.storage = (act w.storage).2 ∧ w'.locks = w.locks) ∧ w'.asked = w.asked) waits :=
  (prompt_change _).comes_unseen (unseen_alter act) (leads_alter act w)

theorem comes_inspect {β : Type} (view : S → β) (w : World S) (waits : World S → Prop) :
    (Action.inspect view).Comes w (fun _ w' => w' = w) waits :=
  (prompt_change _).comes fun v w' ends => (leads_inspect view w v w' ends).2

namespace Locks

theorem comes_acquire (t : Thread) (r : Resource) (w : World S) (hooks : Hooks) :
    (acquire t r).Comes w (fun result w' => w'.asked = w.asked ∧
      (result = .ok () → w'.storage = w.storage ∧ Streams t r.address w.locks w'.locks))
      (hooks.Granted w) := by
  have unseen : (acquire t r : Action S _).Unseen Occurrence.call? fun _ => True :=
    unseen_acquire
  refine ((unseen.comes w).and (leads_acquire t r w)).mono ?_ fun _ same => .of_same same
  rintro (_ | _) w' ⟨⟨_, same⟩, storage, taken⟩
  · exact ⟨same, nofun⟩
  · exact ⟨same, fun _ => ⟨storage, taken.2⟩⟩

theorem comes_unlockStream {t : Thread} {r : Resource} {ls : Locks} {w : World S}
    (streams : Streams t r.address ls w.locks) (waits : World S → Prop) :
    (unlockStream r).Comes w (fun _ w' => (w'.storage = w.storage ∧ SameHolds ls w'.locks) ∧
      w'.asked = w.asked) waits :=
  (prompt_change _).comes_unseen unseen_unlockStream (leads_unlockStream streams)

end Locks
end

namespace Handle
variable {S R W α β : Type} (h : Handle S R W) {hooks : Hooks} {result : Except Failure α}

theorem unasked_fire (event : Event) :
    (h.fire event).Unseen Occurrence.call? fun _ => True := by
  apply (unseen_note rfl).seq
  intro _
  split
  · exact unseen_say _ _ _
  · exact trivial

theorem unasked_reportFailure (fire : Bool) (m : Metadata) :
    (h.reportFailure fire m result).Unseen Occurrence.call? fun _ => True := by
  unfold reportFailure
  split
  · exact trivial
  · split
    · exact h.unasked_fire _
    · exact trivial

/-- Reporting asks nothing and changes nothing. -/
theorem comes_reported (fire : Bool) (m : Metadata) (result : Except Failure α) (w : World S)
    (waits : World S → Prop) : (do h.reportFailure fire m result; return result).Comes w
      (fun answer w' => answer = result ∧ w.Still w' ∧ w'.asked = w.asked) waits := by
  have reported : (h.reportFailure fire m result).Comes w
      (fun _ w' => w.Still w' ∧ w'.asked = w.asked) waits :=
    (calm_reportFailure fire m result).prompt.comes_unseen (h.unasked_reportFailure fire m)
      (h.leads_reportFailure fire m result w)
  exact reported.bind fun _ _ ⟨still, same⟩ => ⟨rfl, still, same⟩

theorem unasked_reported (fire : Bool) (m : Metadata) (result : Except Failure α) :
    (do h.reportFailure fire m result; return result : Action S _).Unseen Occurrence.call?
      fun _ => True :=
  (h.unasked_reportFailure fire m).seq fun _ => trivial

/-- Where hooks are, one is asked, and its answer is the answer. -/
theorem comes_consult (given : h.cache.hooks? = some hooks) (hook : Hook) (call : HookCall)
    (ask : Hooks → Except Fault α) (pass : α)
    (told : hooks.veto? call = Hooks.fault? hook (ask hooks)) {β : Type}
    {k : Except Failure α → Action S (Except Failure β)}
    {post : Fault → Except Failure β → World S → Prop} {w₀ : World S} (w : World S)
    (before : w.asked = w₀.asked)
    (goes : ∀ a, (k (.ok a)).Unseen Occurrence.call? fun _ => True)
    (stops : ∀ fault w₁, w.Still w₁ →
      (k (.error (.storage (.hook hook) h.place fault))).Comes w₁
        (fun result w' => post fault result w' ∧ w'.asked = w₁.asked) (hooks.Granted w₀)) :
    (h.consult hook call ask pass >>= k).Comes w
      (fun result w' => hooks.Granted w₀ w' ∨ ∃ fault, w'.asked = w₀.asked ++ [call] ∧
        hooks.veto? call = some (hook, fault) ∧ post fault result w')
      (hooks.Granted w₀) := by
  have noted : (Action.note (.hooked call)).Comes w
      (fun _ w₁ => w.Still w₁ ∧ w₁.asked = w₀.asked ++ [call]) (hooks.Granted w₀) := by
    refine (prompt_change _).comes (Program.leads_change ⟨⟨rfl, rfl⟩, ?_⟩)
    rw [← before]
    simp [World.seen, World.note, Occurrence.call?]
  unfold consult
  rw [given, bind_assoc]
  apply noted.bind
  intro _ w₁ seen
  cases answer : ask hooks with
  | ok =>
    have pass : hooks.veto? call = none := by rw [told, answer]; rfl
    have granted : hooks.Granted w₀ w₁ := ⟨[call], seen.2, by simpa using pass⟩
    exact (granted.comes (goes _)).mono (fun _ _ => .inl) fun _ => id
  | error fault =>
    refine (stops fault w₁ seen.1).mono (fun result w' ends => ?_) fun _ => id
    exact .inr ⟨fault, ends.2.trans seen.2, by rw [told, answer]; rfl, ends.1⟩

/-- The hook is obeyed by what is done where it has refused. -/
theorem obeys_consult (given : h.cache.hooks? = some hooks) (hook : Hook) (call : HookCall)
    (ask : Hooks → Except Fault α) (pass : α)
    (told : hooks.veto? call = Hooks.fault? hook (ask hooks)) (about : call.resource = h.resource)
    {k : Except Failure α → Action S (Except Failure β)} {w₀ : World S} (w : World S)
    (before : w.asked = w₀.asked)
    (goes : ∀ a, (k (.ok a)).Unseen Occurrence.call? fun _ => True)
    (stops : ∀ e w₁, w.Still w₁ → (k (.error e)).Comes w₁
      (fun result w' => (result = .error e ∧ Cache.Spared (h.cache.Headed hooks) call hook w₀ w') ∧
        w'.asked = w₁.asked) (hooks.Granted w₀)) :
    (h.consult hook call ask pass >>= k).Comes w
      (fun result w' => h.cache.Obeyed hooks (result = .error ·) w₀ w') (hooks.Granted w₀) := by
  have comes := h.comes_consult given hook call ask pass told w before goes
    fun fault w₁ still => stops (.storage (.hook hook) h.place fault) w₁ still
  refine comes.mono ?_ fun _ => id
  rintro result w' (granted | ⟨fault, asked, refuses, failure, spared⟩)
  · exact .inl granted
  · refine .inr ⟨call, hook, fault, asked, refuses, ?_, spared⟩
    rw [Cache.refusal, about]
    exact failure

variable (t : Thread) (fire : Bool) (m : Metadata)

/-- The result of the hook is reported, and that is all. -/
theorem comes_stopped {call : HookCall} {hook : Hook} (other : hook ≠ .write) {e : Failure}
    {w w₁ : World S} (still : w.Still w₁) (waits : World S → Prop) :
    (do
      h.reportFailure fire m (.error e : Except Failure β)
      return .error e : Action S (Except Failure β)).Comes w₁
      (fun result w' => (result = .error e ∧
        Cache.Spared (h.cache.Headed hooks) call hook w w') ∧ w'.asked = w₁.asked) waits := by
  refine (h.comes_reported fire m _ w₁ _).mono ?_ fun _ => id
  rintro _ w' ⟨rfl, still', same⟩
  exact ⟨⟨rfl, .of_still (still.trans still') other⟩, same⟩

theorem obeys_openInput (given : h.cache.hooks? = some hooks) :
    h.cache.Obeys hooks (· = .error ·) (h.openInput t fire m) := by
  refine Cache.Obeys.awaitFree (fun w => ?_) t _
  unfold openReader
  rw [bind_assoc]
  apply (comes_inspect (h.cache.backend.openReader h.resource) w _).bind
  rintro (e | _ | stream) _ rfl
  case error | ok.none => exact Cache.Obeys.of_unseen (h.unasked_reported fire m _) _
  dsimp only
  rw [bind_assoc]
  refine h.obeys_consult given _ _ _ _ (by rfl) (by rfl) _ rfl
    (fun _ => h.unasked_reported fire m _) ?_
  intro e w₁ still
  exact h.comes_stopped fire m (by nofun) still _

theorem obeys_delete (given : h.cache.hooks? = some hooks) :
    h.cache.Obeys hooks (· = .error ·) (h.delete t fire m) := by
  refine Cache.Obeys.awaitFree (fun w => ?_) t _
  refine h.obeys_consult given _ _ _ _ (by rfl) (by rfl) _ rfl (fun _ => ?_) ?_
  · apply (unseen_alter _).seq
    intro result
    obtain e | _ | _ := result
    · exact h.unasked_reported fire m _
    · exact h.unasked_reported fire m _
    · cases fire
      · exact trivial
      · exact (h.unasked_fire _).seq fun _ => trivial
  · intro e w₁ still
    exact h.comes_stopped fire m (by nofun) still _

theorem obeys_copyFrom (given : h.cache.hooks? = some hooks) (source : Handle S R W) :
    h.cache.Obeys hooks (· = .error ·) (h.copyFrom t source) := by
  refine Cache.Obeys.awaitFree (fun w => ?_) t _
  apply (Locks.comes_acquire t h.resource w hooks).bind
  rintro (e | _) w₁ ⟨same, taken⟩
  · exact .inl (.of_same same)
  obtain ⟨storage, streams⟩ := taken rfl
  refine h.obeys_consult given _ _ _ _ (by rfl) (by rfl) w₁ same (fun _ => ?_) ?_
  · exact (unseen_alter _).seq fun result => Locks.unseen_unlockStream.seq fun _ => trivial
  · intro e w₂ still
    rw [← still.locks] at streams
    apply (Locks.comes_unlockStream streams _).bind
    rintro _ w' ⟨⟨storage', holds⟩, same'⟩
    refine ⟨⟨rfl, holds, ?_⟩, same'⟩
    rw [if_neg nofun, storage', still.storage, storage]

theorem comes_begin (purpose : Purpose) (stream : W) (w : World S) (waits : World S → Prop) :
    (h.begin purpose m stream).Comes w (fun stream' w' =>
      ((stream', w'.storage) = h.begun purpose m stream w.storage ∧ w'.locks = w.locks) ∧
        w'.asked = w.asked) waits :=
  (calm_begin purpose m stream).prompt.comes_unseen (h.unseen_begin purpose m stream)
    (h.leads_begin purpose m stream w)

/-- Opening the writer comes before the hook, and closing it after a refusal. -/
theorem comes_openWriter (given : h.cache.hooks? = some hooks) (purpose : Purpose)
    (w : World S) : (h.openWriter purpose fire m).Comes w
      (fun result w' => hooks.Granted w w' ∨ ∃ fault,
        w'.asked = w.asked ++ [.write purpose h.resource m] ∧
        hooks.veto? (.write purpose h.resource m) = some (.write, fault) ∧
        result = .error (.storage (.hook .write) h.place fault) ∧
        w'.locks = w.locks ∧
        h.cache.Headed hooks (.write purpose h.resource m) w.storage w'.storage)
      (hooks.Granted w) := by
  apply (comes_alter (h.cache.backend.openWriter h.resource) w _).bind
  intro opened w₁ ⟨⟨answer, storage, locks⟩, same⟩
  cases opened with
  | error e => exact .inl (.of_same same)
  | ok stream =>
    refine h.comes_consult given .write _ _ _ (by rfl) w₁ same (fun filter => ?_) ?_
    · apply (h.unseen_begin purpose m stream).seq
      intro stream
      cases fire
      all_goals exact (unseen_say _ _ _).seq fun _ => trivial
    · intro fault w₂ still
      apply (h.comes_begin m purpose stream w₂ _).bind
      rintro stream' w₃ ⟨⟨begun, locks₃⟩, same₃⟩
      apply (comes_alter _ w₃ _).bind
      rintro _ w' ⟨⟨_, storage', locks'⟩, same'⟩
      have closed := pour_begun (h := h) purpose m stream [] w₂.storage
      rw [← begun, List.append_nil, header_of_hooks given, still.storage] at closed
      refine ⟨⟨rfl, ?_, stream, w₁.storage, ?_, ?_⟩, same'.trans same₃⟩
      · rw [locks', locks₃, still.locks, locks]
      · exact Prod.ext answer.symm storage.symm
      · exact storage'.trans closed

theorem obeys_openOutput (given : h.cache.hooks? = some hooks) (purpose : Purpose) :
    h.cache.Obeys hooks (· = .error ·) (h.openOutput t purpose fire m) := by
  refine Cache.Obeys.awaitFree (fun w => ?_) t _
  apply (Locks.comes_acquire t h.resource w hooks).bind
  rintro (e | _) w₁ ⟨same, taken⟩
  · refine (h.comes_reported fire m _ _ _).mono (fun _ _ ⟨_, _, same'⟩ => ?_) fun _ => id
    exact .inl (.of_same (same'.trans same))
  obtain ⟨storage, streams⟩ := taken rfl
  have granted {w' : World S} (passed : hooks.Granted w₁ w') : hooks.Granted w w' :=
    .trans (.of_same same) passed
  refine ((h.comes_openWriter fire m given purpose w₁).mono (fun _ _ => id) fun _ =>
    granted).bind ?_
  rintro (e | output) w₂ (passed | ⟨fault, asked, refuses, failure, locks, emptied⟩)
  · refine ((granted passed).comes ?_).mono (fun _ _ => .inl) fun _ => id
    exact Locks.unseen_unlockStream.seq fun _ => h.unasked_reported fire m _
  · cases failure
    rw [← locks] at streams
    apply (Locks.comes_unlockStream streams _).bind
    rintro _ w₃ ⟨⟨storage', holds⟩, same'⟩
    refine (h.comes_reported fire m _ w₃ _).mono ?_ fun _ => id
    rintro _ w' ⟨rfl, still, same''⟩
    refine .inr ⟨_, _, fault, by rw [same'', same', asked, same], refuses, rfl, ?_, ?_⟩
    · rw [still.locks]; exact holds
    · rw [if_pos rfl, still.storage, storage', ← storage]; exact emptied
  · refine ((granted passed).comes ?_).mono (fun _ _ => .inl) fun _ => id
    exact h.unasked_reported fire m _
  · cases failure

theorem obeys_list (given : h.cache.hooks? = some hooks) :
    h.cache.Obeys hooks (· = .error ·) h.list := by
  intro w
  refine (comes_inspect (h.cache.backend.list h.resource) w _).bind ?_
  rintro (e | names) _ rfl
  · exact .inl (.of_same rfl)
  dsimp only
  rw [← bind_pure (h.consult _ _ _ _)]
  refine h.obeys_consult given _ _ _ _ (by rfl) (by rfl) _ rfl (fun _ => trivial) ?_
  intro e w₁ still
  exact ⟨⟨rfl, .of_still still nofun⟩, rfl⟩

theorem obeys_mkdirs (given : h.cache.hooks? = some hooks) :
    h.cache.Obeys hooks (· = .error ·) h.mkdirs := by
  intro w
  refine h.obeys_consult given _ _ _ _ (by rfl) (by rfl) w rfl (fun _ => unseen_alter _) ?_
  intro e w₁ still
  exact ⟨⟨rfl, .of_still still nofun⟩, rfl⟩

theorem obeys_createFile (given : h.cache.hooks? = some hooks) :
    h.cache.Obeys hooks (· = .error ·) (h.createFile t) := by
  refine Cache.Obeys.awaitFree (fun w => ?_) t _
  refine h.obeys_consult given _ _ _ _ (by rfl) (by rfl) w rfl (fun _ => unseen_alter _) ?_
  intro e w₁ still
  exact ⟨⟨rfl, .of_still still nofun⟩, rfl⟩

theorem obeys_touch (given : h.cache.hooks? = some hooks) (m : Metadata)
    (failed : Unit → Failure → Prop) : h.cache.Obeys hooks failed (h.touch m) := by
  unfold touch
  rw [given]
  exact .noted rfl (h.unasked_fire _)

theorem obeys_present (given : h.cache.hooks? = some hooks) (failed : Bool → Failure → Prop) :
    h.cache.Obeys hooks failed h.present := by
  unfold present
  rw [given]
  refine .noted rfl ?_
  split
  · exact trivial
  · exact unseen_inspect _

/-! Open streams ask nothing. -/

variable (c : Cache S R W)

theorem Output.unasked_close (output : Output W) :
    (output.close c).Unseen Occurrence.call? fun _ => True := by
  apply (output.unseen_call c .flush).seq
  rintro ⟨flushed, output'⟩
  refine (unseen_alter _).seq fun _ => Locks.unseen_unlockStream.seq fun _ => ?_
  dsimp only
  cases output'.onClose? with
  | none => exact trivial
  | some event => exact (unasked_fire _ event).seq fun _ => trivial

theorem Output.unasked_drop (output : Output W) :
    (output.drop c).Unseen Occurrence.call? fun _ => True := by
  apply (output.unasked_close c).seq
  intro result
  cases result with
  | ok => exact trivial
  | error fault => exact unseen_say _ _ _

theorem Input.unasked_close (input : Input R) :
    (input.close c : Action S Unit).Unseen Occurrence.call? fun _ => True := by
  unfold close
  cases input.onClose? with
  | none => exact trivial
  | some event => exact unasked_fire _ event

end Handle
end ArtifactCache
