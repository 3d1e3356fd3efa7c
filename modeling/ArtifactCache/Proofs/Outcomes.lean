import ArtifactCache.Proofs.Deals
import ArtifactCache.Proofs.Undisturbed

/-!
What storing and retrieving have done to the store when they end undisturbed. A writer
that is opened, written through its filter and closed does what the store does with its
own writer (`Handle.Output.leads_pour`), and every lock has as many holds as before. So
the outcome is told by the calls of the store alone: `Cache.Stored` for storing,
`Cache.Retrieved` for retrieving.
-/
namespace ArtifactCache

open Program (Leads leads_pure)

/-! ## Writing through a filter -/

/-- What the call is for the writer below. -/
def StreamCall.part : StreamCall → Part
  | .write bytes => .write bytes
  | .flush => .flush

theorem Part.written_append (parts more : List Part) :
    written (parts ++ more) = written parts ++ written more := by
  induction parts with
  | nil => rfl
  | cons part rest ih => cases part <;> simp [written, ih]

/-- The bytes of calls on a stream. -/
def StreamCall.bytes (calls : List StreamCall) : Bytes := Part.written (calls.map part)

theorem StreamCall.bytes_append (calls more : List StreamCall) :
    bytes (calls ++ more) = bytes calls ++ bytes more := by
  simp [bytes, Part.written_append]

namespace WriteFilter
variable (filter : WriteFilter)

/-- The calls below when the writer is closed. -/
def ending (past : List StreamCall) : List StreamCall :=
  (filter.react past .flush).passes ++ filter.leave (past ++ [.flush])

/-- The calls below when the runs are written, as far as the filter takes them,
and the writer is closed then. -/
def delivers (past : List StreamCall) : List Bytes → List StreamCall
  | [] => filter.ending past
  | run :: rest =>
    if run = [] then delivers past rest
    else (filter.react past (.write run)).passes ++
      match (filter.react past (.write run)).answer with
      | .error _ => filter.ending (past ++ [.write run])
      | .ok () => delivers (past ++ [.write run]) rest

/-- A filter that lets everything pass delivers what is written. -/
theorem written_passing (past : List StreamCall) (runs : List Bytes) :
    Part.written ((passing.delivers past runs).map StreamCall.part) = runs.flatten := by
  induction runs generalizing past with
  | nil => rfl
  | cons run rest ih =>
    unfold delivers
    split
    · next none_given => rw [ih, none_given, List.flatten_cons, List.nil_append]
    · exact congrArg (run ++ ·) (ih _)

end WriteFilter

namespace Handle.Output
variable {S R W : Type} {c : Cache S R W} {output : Output W} {w : World S}

/-- What a filter passes on comes before what follows. -/
theorem pour_pass (calls : List StreamCall) (stream : W) (parts : List Part) (s : S) :
    c.backend.pour (pass c calls stream s).1 parts (pass c calls stream s).2 =
      c.backend.pour stream (calls.map StreamCall.part ++ parts) s := by
  induction calls generalizing stream s with
  | nil => rfl
  | cons call rest ih => cases call <;> exact ih _ _

/-- What the store will be, if the calls are made and the writer is closed then. -/
def future (c : Cache S R W) (output : Output W) (calls : List StreamCall) (s : S) : S :=
  c.backend.pour output.stream (calls.map StreamCall.part) s

/-- The same writer, further on. -/
structure Continues (output output' : Output W) : Prop where
  resource : output'.resource = output.resource
  filter : output'.filter = output.filter

theorem Continues.trans {output' output'' : Output W} (first : output.Continues output')
    (second : output'.Continues output'') : output.Continues output'' :=
  ⟨second.resource.trans first.resource, second.filter.trans first.filter⟩

theorem leads_call (call : StreamCall) (w : World S) :
    (output.call c call).Leads w fun (answer, output') w' =>
      answer = (output.filter.react output.past call).answer ∧ output.Continues output' ∧
      output'.past = output.past ++ [call] ∧ w'.locks = w.locks ∧
      ∀ calls, output'.future c calls w'.storage =
        output.future c ((output.filter.react output.past call).passes ++ calls) w.storage := by
  refine (leads_alter _ w).bind fun stream w' ⟨same, storage, locks⟩ => leads_pure ?_
  refine ⟨rfl, ⟨rfl, rfl⟩, rfl, locks, fun calls => ?_⟩
  dsimp only [future]
  rw [same, storage, pour_pass, List.map_append]

/-- The runs are on their way once they are written. -/
theorem leads_writeRuns (runs : List Bytes) (w : World S) :
    (output.writeRuns c runs).Leads w fun (_, output') w' =>
      output.Continues output' ∧ w'.locks = w.locks ∧
      output'.future c (output'.filter.ending output'.past) w'.storage =
        output.future c (output.filter.delivers output.past runs) w.storage := by
  induction runs generalizing output w with
  | nil => exact leads_pure ⟨⟨rfl, rfl⟩, rfl, rfl⟩
  | cons run rest ih =>
    unfold writeRuns write
    by_cases none_given : run = []
    · rw [if_pos none_given]
      refine (ih w).mono fun v w' ⟨same, locks, delivered⟩ => ⟨same, locks, ?_⟩
      rw [delivered, WriteFilter.delivers, if_pos none_given]
    rw [if_neg none_given]
    unfold WriteFilter.delivers
    rw [if_neg none_given]
    refine (leads_call (.write run) w).bind ?_
    rintro ⟨answer, output'⟩ w₁ ⟨answered, same, past, locks, delivered⟩
    rw [← answered]
    cases answer with
    | error fault =>
      refine leads_pure ⟨same, locks, ?_⟩
      rw [delivered, past, same.filter]
    | ok =>
      refine (ih w₁).mono fun v w' ⟨same', locks', delivered'⟩ =>
        ⟨same.trans same', locks'.trans locks, ?_⟩
      rw [delivered', delivered, past, same.filter]

variable {t : Thread} {ls : Locks}

/-- Closing the writer gives its hold back. -/
theorem leads_close (streams : Locks.Streams t output.resource.address ls w.locks) :
    (output.close c).Leads w fun _ w' =>
      w'.storage = output.future c (output.filter.ending output.past) w.storage ∧
      Locks.SameHolds ls w'.locks := by
  refine (leads_call .flush w).bind ?_
  rintro ⟨answer, output'⟩ w₁ ⟨_, same, past, locks, delivered⟩
  refine (leads_alter _ w₁).bind fun _ w₂ ⟨_, storage, locks₂⟩ => ?_
  rw [← locks, ← locks₂, ← same.resource] at streams
  refine (Locks.leads_unlockStream streams).bind fun _ w₃ ⟨storage₃, back⟩ => ?_
  have closed : w₃.storage = output.future c (output.filter.ending output.past) w.storage := by
    rw [storage₃, storage, WriteFilter.ending, ← delivered, past, same.filter]
    exact (pour_pass _ _ [] _).trans (by rw [List.append_nil]; rfl)
  cases output'.onClose? with
  | none => exact leads_pure ⟨closed, back⟩
  | some event =>
    refine (Handle.leads_fire _ _ w₃).after fun _ w' still => leads_pure ?_
    rw [still.storage, still.locks]
    exact ⟨closed, back⟩

theorem leads_drop (streams : Locks.Streams t output.resource.address ls w.locks) :
    (output.drop c).Leads w fun _ w' =>
      w'.storage = output.future c (output.filter.ending output.past) w.storage ∧
      Locks.SameHolds ls w'.locks := by
  refine (leads_close streams).bind fun result w₁ ⟨storage, back⟩ => ?_
  cases result with
  | ok => exact leads_pure ⟨storage, back⟩
  | error fault =>
    refine (leads_say _ _ _ w₁).mono fun _ w' still => ?_
    rw [still.storage, still.locks]
    exact ⟨storage, back⟩

theorem runLength_pos : 0 < runLength := by decide

/-- What was read of a source has gone through the filter, and the writer is closed. -/
structure Poured (c : Cache S R W) (output : Output W) (content : Content) (ls : Locks)
    (s : S) (result : Except Fault Nat) (w' : World S) : Prop where
  storage : w'.storage = output.future c
    (output.filter.delivers output.past (content.bytes.runs runLength runLength_pos)) s
  holds : Locks.SameHolds ls w'.locks
  broken : content.fault? ≠ none → ∃ fault, result = .error fault

theorem leads_pour (source : Source S)
    (streams : Locks.Streams t output.resource.address ls w.locks) :
    (output.pour c source).Leads w
      (output.Poured c (source w.storage) ls w.storage) := by
  refine (leads_inspect source w).bind fun content w₁ ⟨same_content, unmoved⟩ => ?_
  subst same_content unmoved
  refine (leads_writeRuns _ w₁).bind ?_
  rintro ⟨written, output'⟩ w₂ ⟨same, locks, delivered⟩
  rw [← locks, ← same.resource] at streams
  have dropped (fault : Fault) : (do output'.drop c; pure (.error fault) :
      Action S (Except Fault Nat)).Leads w₂
        (output.Poured c (source w₁.storage) ls w₁.storage) :=
    (leads_drop streams).bind fun _ _ ⟨storage, back⟩ =>
      leads_pure ⟨storage.trans delivered, back, fun _ => ⟨fault, rfl⟩⟩
  cases written with
  | error fault => exact dropped fault
  | ok =>
    cases broken : (source w₁.storage).fault? with
    | some fault => exact dropped fault
    | none =>
      refine (leads_close streams).bind fun closed w₃ ⟨storage, back⟩ => leads_pure ?_
      exact ⟨storage.trans delivered, back, absurd broken⟩

end Handle.Output

/-! ## The operations -/

namespace Handle
variable {S R W α : Type} (h : Handle S R W) {t : Thread} {w : World S}

/-- The answer of a hook; without hooks, the one that lets everything pass. -/
def answerOf (ask : Hooks → Except Fault α) (passing : α) : Except Fault α :=
  match h.cache.hooks? with
  | none => .ok passing
  | some hooks => ask hooks

/-- The filter that a writer gets. -/
def writeFilter (purpose : Purpose) (m : Metadata) : Except Fault WriteFilter :=
  h.answerOf (·.write purpose h.resource m) .passing

/-- What the filter hands to the writer of the store when bytes are written. There is no
filter if the hook refuses. -/
def handed (purpose : Purpose) (m : Metadata) (bytes : Bytes) : List Part :=
  let delivered := (h.writeFilter purpose m).map fun filter =>
    (filter.delivers [] (bytes.runs Output.runLength Output.runLength_pos)).map StreamCall.part
  delivered.toOption.getD []

/-- What reaches the writer of the store: first that of the hook, then that of the filter. -/
def parts (purpose : Purpose) (m : Metadata) (bytes : Bytes) : List Part :=
  (h.header purpose m).map StreamCall.part ++ h.handed purpose m bytes

/-- The stream that the hook has used, and the store then. -/
def begun (purpose : Purpose) (m : Metadata) (stream : W) (s : S) : W × S :=
  Output.pass h.cache (h.header purpose m) stream s

variable {h}

theorem handed_of_filter {purpose : Purpose} {m : Metadata} {filter : WriteFilter}
    (granted : h.writeFilter purpose m = .ok filter) (bytes : Bytes) :
    h.handed purpose m bytes = (filter.delivers []
      (bytes.runs Output.runLength Output.runLength_pos)).map StreamCall.part := by
  rw [handed, granted]
  rfl

theorem parts_of_refusal {purpose : Purpose} {m : Metadata} {fault : Fault}
    (refuses : h.writeFilter purpose m = .error fault) (bytes : Bytes) :
    h.parts purpose m bytes = (h.header purpose m).map StreamCall.part := by
  rw [parts, handed, refuses]
  exact List.append_nil _

theorem header_of_plain (plain : h.cache.hooks? = none) (purpose : Purpose) (m : Metadata) :
    h.header purpose m = [] := by
  simp [header, plain]

theorem header_of_hooks {hooks : Hooks} (given : h.cache.hooks? = some hooks) (purpose : Purpose)
    (m : Metadata) : h.header purpose m = hooks.header purpose h.resource m := by
  simp [header, given]

theorem begun_of_plain (plain : h.cache.hooks? = none) (purpose : Purpose) (m : Metadata)
    (stream : W) (s : S) : h.begun purpose m stream s = (stream, s) := by
  rw [begun, header_of_plain plain]
  rfl

/-- What the hook passes on comes before what the filter does. -/
theorem pour_begun (purpose : Purpose) (m : Metadata) (stream : W) (parts : List Part) (s : S) :
    h.cache.backend.pour (h.begun purpose m stream s).1 parts (h.begun purpose m stream s).2 =
      h.cache.backend.pour stream ((h.header purpose m).map StreamCall.part ++ parts) s :=
  Output.pour_pass (h.header purpose m) stream parts s

theorem writeFilter_of_plain (plain : h.cache.hooks? = none) (purpose : Purpose) (m : Metadata) :
    h.writeFilter purpose m = .ok .passing := by
  simp [writeFilter, answerOf, plain]

/-- Without hooks all of it does. -/
theorem written_handed (plain : h.cache.hooks? = none) (purpose : Purpose) (m : Metadata)
    (bytes : Bytes) : Part.written (h.handed purpose m bytes) = bytes := by
  rw [handed_of_filter (writeFilter_of_plain plain purpose m), WriteFilter.written_passing,
    Bytes.flatten_runs]

theorem written_parts (plain : h.cache.hooks? = none) (purpose : Purpose) (m : Metadata)
    (bytes : Bytes) : Part.written (h.parts purpose m bytes) = bytes := by
  rw [parts, header_of_plain plain]
  exact written_handed plain purpose m bytes

theorem leads_begin (purpose : Purpose) (m : Metadata) (stream : W) (w : World S) :
    (h.begin purpose m stream).Leads w fun stream' w' =>
      (stream', w'.storage) = h.begun purpose m stream w.storage ∧ w'.locks = w.locks := by
  unfold begin
  split
  · next nothing =>
    rw [begun, nothing]
    exact leads_pure ⟨rfl, rfl⟩
  · refine (leads_alter _ w).mono fun stream' w' ⟨same, storage, locks⟩ => ⟨?_, locks⟩
    rw [same, storage]
    rfl

theorem leads_consult (hook : Hook) (call : HookCall) (ask : Hooks → Except Fault α) (passing : α)
    (w : World S) : (h.consult hook call ask passing).Leads w fun result w' => w.Still w' ∧
      match result with
      | .ok answer => h.answerOf ask passing = .ok answer
      | .error _ => ∃ fault, h.answerOf ask passing = .error fault := by
  unfold consult answerOf
  cases h.cache.hooks? with
  | none => exact leads_pure ⟨.refl w, rfl⟩
  | some hooks =>
    refine (leads_note _ w).after fun _ w₁ still => leads_pure ⟨still, ?_⟩
    dsimp only
    cases ask hooks with
    | ok => rfl
    | error fault => exact ⟨fault, rfl⟩

variable (h)

/-- How opening for writing ends, and what it makes of the store. -/
inductive Opened (purpose : Purpose) (m : Metadata) (streaming : Bool) (s : S) :
    Except Failure (Output W) → S → Prop
  /-- This thread has a write in flight. -/
  | busy {e : Failure} {s' : S} : streaming = true → s' = s →
    Opened purpose m streaming s (.error e) s'
  | refused {e e' : Failure} {s' : S} : streaming = false →
    h.cache.backend.openWriter h.resource s = (.error e', s') →
    Opened purpose m streaming s (.error e) s'
  /-- The hook refuses, and the writer is closed again. -/
  | shut {e : Failure} {fault : Fault} {stream : W} {s₁ s' : S} : streaming = false →
    h.cache.backend.openWriter h.resource s = (.ok stream, s₁) →
    h.writeFilter purpose m = .error fault →
    s' = h.cache.backend.pour stream ((h.header purpose m).map StreamCall.part) s₁ →
    Opened purpose m streaming s (.error e) s'
  | granted {stream : W} {output : Output W} {s₁ s' : S} : streaming = false →
    h.cache.backend.openWriter h.resource s = (.ok stream, s₁) →
    (output.stream, s') = h.begun purpose m stream s₁ →
    h.writeFilter purpose m = .ok output.filter → output.resource = h.resource →
    output.past = [] → Opened purpose m streaming s (.ok output) s'

theorem leads_openWriter (purpose : Purpose) (fire : Bool) (m : Metadata) {streaming : Bool}
    (idle : streaming = false) (w : World S) :
    (h.openWriter purpose fire m).Leads w fun result w' =>
      h.Opened purpose m streaming w.storage result w'.storage ∧ w'.locks = w.locks := by
  refine (leads_alter _ w).bind fun opened w₁ ⟨same, storage, locks⟩ => ?_
  have outcome : h.cache.backend.openWriter h.resource w.storage = (opened, w₁.storage) :=
    Prod.ext same.symm storage.symm
  cases opened with
  | error e => exact leads_pure ⟨.refused idle outcome, locks⟩
  | ok stream =>
    refine (leads_consult _ _ _ _ w₁).bind fun asked w₂ ⟨still, answer⟩ => ?_
    rw [← still.storage] at outcome
    rw [← locks, ← still.locks]
    refine (leads_begin purpose m stream w₂).bind fun stream' w₃ ⟨begun, locks₃⟩ => ?_
    rw [← locks₃]
    cases asked with
    | error e =>
      obtain ⟨fault, refuses⟩ := answer
      refine (leads_alter _ w₃).bind fun _ w₄ ⟨_, storage, locks⟩ => leads_pure ⟨?_, locks⟩
      refine .shut idle outcome refuses ?_
      have poured := pour_begun (h := h) purpose m stream [] w₂.storage
      rw [← begun, List.append_nil] at poured
      exact storage.trans poured
    | ok filter =>
      cases fire
      all_goals
        refine (leads_say _ _ _ w₃).after fun _ w₄ still => leads_pure ⟨?_, still.locks⟩
        rw [← still.storage] at begun
        exact .granted idle outcome begun answer rfl rfl

/-- A writer that is granted comes with the hold of a streamed write. -/
def Holding (t : Thread) (ls : Locks) : Except Failure (Output W) → Locks → Prop
  | .ok _, ls' => Locks.Streams t h.resource.address ls ls'
  | .error _, ls' => Locks.SameHolds ls ls'

theorem leads_openOutput (t : Thread) (purpose : Purpose) (fire : Bool) (m : Metadata)
    (w : World S) : (h.openOutput t purpose fire m).Leads w fun result w' =>
      h.Opened purpose m (w.locks.lockAt h.resource.address).streaming w.storage result
        w'.storage ∧ h.Holding t w.locks result w'.locks := by
  have reported (result : Except Failure (Output W)) (w₁ : World S) (opened : h.Opened purpose m
        (w.locks.lockAt h.resource.address).streaming w.storage result w₁.storage)
      (holding : h.Holding t w.locks result w₁.locks) :
      (do h.reportFailure fire m result; pure result : Action S _).Leads w₁ fun result w' =>
        h.Opened purpose m (w.locks.lockAt h.resource.address).streaming w.storage result
          w'.storage ∧ h.Holding t w.locks result w'.locks := by
    refine (leads_reportFailure h fire m result w₁).after fun _ w₂ still => leads_pure ?_
    rw [still.storage, still.locks]
    exact ⟨opened, holding⟩
  unfold openOutput
  refine (Locks.leads_awaitFree t h.resource w).bind fun _ w' same => ?_
  subst same
  refine (Locks.leads_acquire t h.resource w').bind fun granted w₁ ⟨storage, taken⟩ => ?_
  cases granted with
  | error e =>
    exact reported (.error e) w₁ (.busy taken.1 storage) taken.2
  | ok =>
    have writes := leads_openWriter h purpose fire m taken.1 w₁
    refine writes.bind fun result w₂ ⟨opened, locks⟩ => ?_
    rw [storage] at opened
    have streams := taken.2
    rw [← locks] at streams
    cases result with
    | error e =>
      refine (Locks.leads_unlockStream streams).bind fun _ w₃ ⟨same, back⟩ => ?_
      rw [← same] at opened
      exact reported (.error e) w₃ opened back
    | ok output => exact reported (.ok output) w₂ opened streams

/-- What a writer that was granted makes of a source. -/
theorem leads_pour (c : Cache S R W) {purpose : Purpose} {m : Metadata} {output : Output W}
    (filter : h.writeFilter purpose m = .ok output.filter) (same : output.resource = h.resource)
    (past : output.past = []) {ls : Locks}
    (streams : Locks.Streams t h.resource.address ls w.locks) (source : Source S) :
    (output.pour c source).Leads w fun result w' =>
      w'.storage = c.backend.pour output.stream (h.handed purpose m (source w.storage).bytes)
        w.storage ∧ Locks.SameHolds ls w'.locks ∧
      ((source w.storage).fault? ≠ none → ∃ fault, result = .error fault) := by
  rw [← same] at streams
  refine (Output.leads_pour source streams).mono fun result w' poured =>
    ⟨?_, poured.holds, poured.broken⟩
  rw [poured.storage, past, handed_of_filter filter]
  rfl

/-- Without hooks, deleting is a call of the store. -/
theorem leads_delete (plain : h.cache.hooks? = none) (t : Thread) (fire : Bool) (m : Metadata)
    (w : World S) : (h.delete t fire m).Leads w fun result w' =>
      result = (h.cache.backend.delete h.resource w.storage).1 ∧
      w'.storage = (h.cache.backend.delete h.resource w.storage).2 ∧ w'.locks = w.locks := by
  unfold delete
  rw [consult_of_plain plain]
  refine (Locks.leads_awaitFree t h.resource w).bind fun _ w' same => ?_
  subst same
  refine (leads_alter _ w').bind fun result w₁ ⟨answer, storage, locks⟩ => ?_
  have told {p : Action S Unit} (quiet : p.Leads w₁ fun _ w₂ => w₁.Still w₂) :
      (p >>= fun _ => pure result).Leads w₁ fun result w₂ =>
        result = (h.cache.backend.delete h.resource w'.storage).1 ∧
        w₂.storage = (h.cache.backend.delete h.resource w'.storage).2 ∧ w₂.locks = w'.locks :=
    quiet.after fun _ w₂ still =>
      leads_pure ⟨answer, still.storage.trans storage, still.locks.trans locks⟩
  dsimp only
  split
  · split
    · exact told (leads_fire h _ w₁)
    · exact leads_pure ⟨answer, storage, locks⟩
  · exact told (leads_reportFailure h fire m result w₁)

end Handle

namespace Cache
variable {S R W : Type} {c : Cache S R W} {r : Resource} {w : World S}

/-- How storing content ends, and what it makes of the store. -/
inductive Stored (c : Cache S R W) (r : Resource) (source : Source S) (m : Metadata)
    (streaming : Bool) (s : S) : Except Failure (Handle S R W) → S → Prop
  /-- This thread has a write in flight. -/
  | busy {e : Failure} {s' : S} : streaming = true → s' = s →
    Stored c r source m streaming s (.error e) s'
  | refused {e e' : Failure} {s' : S} : streaming = false →
    c.backend.openWriter r s = (.error e', s') → Stored c r source m streaming s (.error e) s'
  | poured {result : Except Failure (Handle S R W)} {stream : W} {s₁ s₂ s' : S} :
    streaming = false → c.backend.openWriter r s = (.ok stream, s₁) →
    ((c.handle r).begun .upload m stream s₁).2 = s₂ →
    s' = c.backend.pour stream ((c.handle r).parts .upload m (source s₂).bytes) s₁ →
    ((source s₂).fault? ≠ none → ∃ e, result = .error e) →
    Stored c r source m streaming s result s'

theorem leads_store (c : Cache S R W) (t : Thread) (r : Resource) (source : Source S)
    (m : Metadata) (w : World S) : (c.store t r source m).Leads w fun result w' =>
      c.Stored r source m (w.locks.lockAt r.address).streaming w.storage result w'.storage ∧
      Locks.SameHolds w.locks w'.locks := by
  refine (Handle.leads_openOutput (c.handle r) t .upload true m w).bind
    fun opened w₁ ⟨outcome, holding⟩ => ?_
  cases opened with
  | error e =>
    refine leads_pure ⟨?_, holding⟩
    cases outcome with
    | busy streaming same => exact .busy streaming same
    | refused idle opens => exact .refused idle opens
    | shut idle opens refuses poured =>
      refine .poured idle opens rfl ?_ fun _ => ⟨e, rfl⟩
      rw [poured, Handle.parts_of_refusal refuses]
      rfl
  | ok output =>
    obtain _ | _ | _ | ⟨idle, opens, begun, filter, resource, past⟩ := outcome
    next stream s₁ =>
    have pours := Handle.leads_pour (c.handle r) c filter resource past holding source
    refine pours.bind fun result w₂ ⟨storage, back, broken⟩ => ?_
    have poured := Handle.pour_begun (h := c.handle r) .upload m stream
      ((c.handle r).handed .upload m (source w₁.storage).bytes) s₁
    rw [← begun] at poured
    replace storage := storage.trans poured
    have reached : ((c.handle r).begun .upload m stream s₁).2 = w₁.storage :=
      (congrArg Prod.snd begun).symm
    cases result with
    | error fault =>
      exact leads_pure ⟨.poured idle opens reached storage fun _ => ⟨_, rfl⟩, back⟩
    | ok n =>
      refine (leads_say _ _ _ w₂).after fun _ w₃ still => leads_pure ⟨?_, still.locks ▸ back⟩
      refine .poured idle opens reached (still.storage.trans storage) fun broke => ?_
      obtain ⟨fault, failed⟩ := broken broke
      cases failed

/-- How retrieving ends what is not there, and what it makes of the store. -/
inductive Retrieved (c : Cache S R W) (r : Resource) (s : S) :
    Except Failure (Option (Handle S R W)) → S → Prop
  /-- Nothing was opened. -/
  | missed {result : Except Failure (Option (Handle S R W))} {s' : S} : s' = s →
    (∀ h, result ≠ .ok (some h)) → Retrieved c r s result s'
  | refused {e e' : Failure} {s' : S} : c.backend.openWriter r s = (.error e', s') →
    Retrieved c r s (.error e) s'
  /-- What was written was deleted. -/
  | broken {e : Failure} {stream : W} {parts : List Part} {s₁ s' : S} :
    c.backend.openWriter r s = (.ok stream, s₁) →
    s' = (c.backend.delete r (c.backend.pour stream parts s₁)).2 → Retrieved c r s (.error e) s'
  | fetched {endpoint : Endpoint S} {source : Source S} {stream : W} {parts : List Part}
      {s₁ s' : S} :
    r.location.downloads = true → c.endpoint? = some endpoint →
    (endpoint.fetch r s).1 = .ok (some source) → c.backend.openWriter r s = (.ok stream, s₁) →
    (source s₁).fault? = none → s' = c.backend.pour stream parts s₁ →
    Part.written parts = (source s₁).bytes → Retrieved c r s (.ok (some (c.handle r))) s'

theorem leads_fetch (endpoint : Endpoint S) (r : Resource) (w : World S) :
    (fetch endpoint r).Leads w fun found w' =>
      w.Still w' ∧ found = (endpoint.fetch r w.storage).1 := by
  refine (leads_note _ w).after fun _ w₁ still => ?_
  refine (leads_inspect (endpoint.fetch r) w₁).bind fun answer w₂ ⟨same, unmoved⟩ => ?_
  subst unmoved
  refine (leads_sayAll _ w₂).after fun _ w₃ still' => leads_pure ⟨still.trans still', ?_⟩
  rw [same, still.storage]

theorem leads_download (plain : c.hooks? = none) (downloads : r.location.downloads = true)
    {endpoint : Endpoint S} (given : c.endpoint? = some endpoint) (t : Thread) (m : Metadata)
    (w : World S) : (c.download t endpoint (c.handle r) m).Leads w fun result w' =>
      c.Retrieved r w.storage
        (result.map fun fetched => if fetched then some (c.handle r) else none) w'.storage ∧
        Locks.SameHolds w.locks w'.locks := by
  refine (leads_fetch endpoint r w).bind fun found w₁ ⟨still, answer⟩ => ?_
  rw [← still.locks, ← still.storage]
  rw [← still.storage] at answer
  obtain e | _ | source := found
  · exact leads_pure ⟨.missed rfl nofun, .refl _⟩
  · exact leads_pure ⟨.missed rfl nofun, .refl _⟩
  refine (Handle.leads_openOutput (c.handle r) t .download true m w₁).bind
    fun opened w₂ ⟨outcome, holding⟩ => ?_
  cases opened with
  | error e =>
    refine leads_pure ⟨?_, holding⟩
    cases outcome with
    | busy _ same => exact .missed same nofun
    | refused _ opens => exact .refused opens
    | shut _ _ refuses => cases refuses.symm.trans (Handle.writeFilter_of_plain plain _ _)
  | ok output =>
    obtain _ | _ | _ | ⟨_, opens, begun, filter, resource, past⟩ := outcome
    rw [Handle.begun_of_plain plain] at begun
    obtain ⟨rfl, rfl⟩ := Prod.mk.inj begun
    have pours := Handle.leads_pour (c.handle r) c filter resource past holding source
    refine pours.bind fun result w₃ ⟨storage, back, broken⟩ => ?_
    cases result with
    | ok n =>
      refine (leads_say _ _ _ w₃).after fun _ w₄ still => leads_pure ⟨?_, still.locks ▸ back⟩
      refine .fetched downloads given answer.symm opens ?_ (still.storage.trans storage)
        (Handle.written_handed (h := c.handle r) plain _ _ _)
      by_contra broke
      obtain ⟨fault, failed⟩ := broken broke
      cases failed
    | error fault =>
      have deletes := Handle.leads_delete (c.handle r) plain t false ∅ w₃
      refine deletes.bind fun result w₄ ⟨_, deleted, same⟩ => ?_
      have left (w₅ : World S) (still : w₄.Still w₅) (e : Failure) :
          c.Retrieved r w₁.storage (.error e) w₅.storage ∧
            Locks.SameHolds w₁.locks w₅.locks := by
        have cleared : w₅.storage = (c.backend.delete r (c.backend.pour output.stream
            ((c.handle r).handed .download m (source w₂.storage).bytes) w₂.storage)).2 := by
          rw [still.storage, deleted, storage]
          rfl
        rw [still.locks, same]
        exact ⟨.broken opens cleared, back⟩
      cases result with
      | ok => exact leads_pure (left w₄ (.refl w₄) _)
      | error e => exact (leads_say _ _ _ w₄).after fun _ w₅ still => leads_pure (left w₅ still _)

/-- Without hooks, the store tells whether something is there. -/
theorem run_present (plain : c.hooks? = none) (r : Resource) (w : World S) :
    (c.handle r).present.run w = .finished (c.backend.present r w.storage) w := by
  unfold Handle.present
  rw [show (c.handle r).cache.hooks? = none from plain]
  rfl

/-- What is there is answered for, and nothing happens. -/
theorem run_retrieve_of_present (plain : c.hooks? = none) (t : Thread) (m : Metadata)
    (there : c.backend.present r w.storage = true) :
    (c.retrieve t r m).run w = .finished (.ok (some (c.handle r))) w := by
  have looked := run_present plain r w
  rw [there] at looked
  exact Program.run_bind_of_finished looked

theorem leads_retrieve (plain : c.hooks? = none) (t : Thread) (m : Metadata)
    (absent : c.backend.present r w.storage = false) :
    (c.retrieve t r m).Leads w fun result w' =>
      c.Retrieved r w.storage result w'.storage ∧ Locks.SameHolds w.locks w'.locks := by
  have looked := run_present plain r w
  rw [absent] at looked
  intro result w' ends
  unfold retrieve at ends
  rw [Program.run_bind_of_finished looked, if_neg Bool.false_ne_true] at ends
  revert result w'
  change Leads _ w _
  cases downloads : r.location.downloads with
  | false => exact leads_pure ⟨.missed rfl nofun, .refl _⟩
  | true =>
    cases given : c.endpoint? with
    | none => exact leads_pure ⟨.missed rfl nofun, .refl _⟩
    | some endpoint =>
      refine (leads_download plain downloads given t m w).bind fun result w' outcome => ?_
      cases result <;> exact leads_pure outcome

end Cache
end ArtifactCache
