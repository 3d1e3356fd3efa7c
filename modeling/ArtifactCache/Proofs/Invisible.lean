import ArtifactCache.Memory
import ArtifactCache.Proofs.Accord
import ArtifactCache.Proofs.Errands
import ArtifactCache.Proofs.Passing

/-!
# Hooks that let everything pass are invisible

The same scripts, with caches without hooks and with caches whose hooks let everything
pass: threads that take turns in any order come to the same answers, the same store, the
same locks and the same events.

* `Errand.echoes_program`, `Script.echoes_program`: what a thread does;
* `Office.passing_hooks_are_invisible`: what all threads come to.
-/
namespace ArtifactCache

open Program (echoes_attempt echoes_change)

/-! ## Chores and streams -/

section
variable {S R W α β H H' : Type} (c : Cache S R W) (t : Thread)

/-- What is answered does not tell the caches apart. -/
theorem echoes_answer {f : α → β} {p : Action S α} {q : Action S β} {answer : α → Reply}
    {answer' : β → Reply} (echoes : Action.Echoes f p q) (same : ∀ v, answer' (f v) = answer v) :
    Action.Echoes id (do return answer (← p)) (do return answer' (← q)) :=
  echoes.bind fun v => by
    rw [same]
    exact .done (answer v)

theorem Chore.echoes_action (job : Chore S) :
    Action.Echoes id (job.action c.bare t) (job.action c.passing t) := by
  have supplies := c.echoes_supplier t
  have found (h? : Except Failure (Option (Handle S R W))) :
      Reply.ofResult (fun h? => .found (h?.map (·.resource)))
          (Except.map (Option.map Handle.passing) h?) =
        Reply.ofResult (fun h? => .found (h?.map (·.resource))) h? := by
    obtain _ | _ | _ := h? <;> rfl
  have stored (h : Except Failure (Handle S R W)) :
      Reply.ofResult (fun h => .found (some h.resource)) (Except.map Handle.passing h) =
        Reply.ofResult (fun h => .found (some h.resource)) h := by
    cases h <;> rfl
  have hits (hs : Except Failure (List (Handle S R W))) :
      Reply.ofResult (fun hs => .hits (hs.map (·.resource)))
          (Except.map (List.map Handle.passing) hs) =
        Reply.ofResult (fun hs => .hits (hs.map (·.resource))) hs := by
    cases hs with
    | error => rfl
    | ok hs => exact congrArg Reply.hits (List.map_map ..)
  cases job with
  | lock r => exact (Locks.oblivious_lock t r).bind fun _ => oblivious_pure _
  | unlock r => exact echoes_answer (Locks.oblivious_unlock r) fun _ => rfl
  | isLocked r => exact echoes_answer (Locks.oblivious_isLocked r) fun _ => rfl
  | isFile r | isDirectory r | length r | isDated r =>
    exact echoes_answer (oblivious_inspect _) fun _ => rfl
  | present r => exact echoes_answer (c.handle r).echoes_present fun _ => rfl
  | metaSibling r suffix =>
    exact echoes_answer ((c.handle r).echoes_metaSibling suffix) fun h? => by cases h? <;> rfl
  | touch r m => exact ((c.handle r).echoes_touch m).bind fun _ => oblivious_pure _
  | copyFrom target source =>
    exact echoes_answer ((c.handle target).echoes_copyFrom t (c.handle source)) fun _ => rfl
  | delete r fire m => exact echoes_answer ((c.handle r).echoes_delete t fire m) fun _ => rfl
  | list r => exact echoes_answer (c.handle r).echoes_list fun _ => rfl
  | mkdirs r => exact echoes_answer (c.handle r).echoes_mkdirs fun _ => rfl
  | createFile r => exact echoes_answer ((c.handle r).echoes_createFile t) fun _ => rfl
  | retrieve r m => exact echoes_answer (supplies.retrieve r m) found
  | store r source m => exact echoes_answer (supplies.store r source m) stored
  | publish r source n contentType =>
    exact echoes_answer (supplies.publish r source n contentType) fun _ => rfl
  | createAlias source target =>
    exact echoes_answer (c.oblivious_createAlias source target) fun _ => rfl
  | retrieveFirst spread m => exact echoes_answer (supplies.retrieveFirst spread m) found
  | retrieveAll spread m => exact echoes_answer (supplies.retrieveAll spread m) hits
  | deleteAll spread m => exact echoes_answer (supplies.deleteAll spread m) fun _ => rfl
  | storeOne spread source m => exact echoes_answer (supplies.storeOne spread source m) stored
  | find e locations path m =>
    exact echoes_answer (Catalog.echoes_retrieveFirst e locations path m supplies) found
  | findAll e locations path m =>
    exact echoes_answer (Catalog.echoes_retrieveAll e locations path m supplies) hits
  | clear e locations path m =>
    exact echoes_answer ((Catalog.echoes_deleteReport e locations path m supplies).bind fun _ =>
      oblivious_pure _) fun _ => rfl
  | report e locations path m =>
    exact echoes_answer (Catalog.echoes_deleteReport e locations path m supplies) fun _ => rfl
  | keep e l path source m =>
    exact echoes_answer (Catalog.echoes_store e path l m supplies source) stored
  | send e l path source n contentType =>
    exact echoes_answer (Catalog.echoes_publish e path l supplies source n contentType) fun _ => rfl
  | listAll e l path => exact echoes_answer (Catalog.echoes_list e path l supplies) fun _ => rfl

namespace OpenStream

theorem oblivious_use (how : StreamUse) (stream : OpenStream R W) :
    Action.Oblivious (stream.use c how) := by
  cases stream with
  | input i =>
    cases how with
    | read limit => exact (Handle.oblivious_readInput c i limit).bind fun _ => oblivious_pure _
    | write | put | flush => exact oblivious_pure _
  | output o =>
    cases how with
    | read => exact oblivious_pure _
    | write bytes => exact (o.oblivious_write c bytes).bind fun _ => oblivious_pure _
    | put bytes => exact (o.oblivious_put c bytes).bind fun _ => oblivious_pure _
    | flush => exact (o.oblivious_call c .flush).bind fun _ => oblivious_pure _

theorem oblivious_finish (dropped : Bool) (stream : OpenStream R W) :
    Action.Oblivious (stream.finish c dropped) := by
  cases stream with
  | input i => exact (Handle.oblivious_closeInput c i).bind fun _ => oblivious_pure _
  | output o =>
    cases dropped
    · exact (o.oblivious_close c).bind fun _ => oblivious_pure _
    · exact (o.oblivious_drop c).bind fun _ => oblivious_pure _

end OpenStream
end

/-! ## Offices -/

section
variable {S R W α β : Type}

/-- The same stream, opened with hooks that let everything pass. -/
def Slot.passing (slot : Slot S R W) : Slot S R W := { slot with cache := slot.cache.passing }

/-- The scripts with other caches. -/
def Script.withCaches (change : Cache S R W → Cache S R W) : Script S R W → Script S R W
  | stop => stop
  | ask c errand next => ask (change c) errand fun answer => (next answer).withCaches change

namespace Office
variable {o o' : Office S R W}

/-- The same has been asked and answered, and the same streams are open, in worlds that
differ in nothing but what hooks were asked. -/
structure Alike (o o' : Office S R W) : Prop where
  world : o.world.Alike o'.world
  streams : o'.streams = o.streams.map Slot.passing
  journal : o'.journal = o.journal

theorem Alike.stream? (alike : o.Alike o') (i : Nat) :
    o'.stream? i = (o.stream? i).map fun (slot, stream) => (slot.passing, stream) := by
  unfold Office.stream?
  rw [alike.streams, List.getElem?_map]
  cases o.streams[i]? with
  | none => rfl
  | some slot =>
    obtain ⟨_, _, _ | _⟩ := slot <;> rfl

theorem Alike.put (alike : o.Alike o') (i : Nat) (slot : Slot S R W)
    (stream? : Option (OpenStream R W)) :
    (o.put i slot stream?).Alike (o'.put i slot.passing stream?) where
  world := alike.world
  streams := by
    unfold Office.put
    rw [alike.streams, List.map_set]
    rfl
  journal := alike.journal

theorem echoes_act {f : α → β} {p : Action S α} {q : Action S β} (echoes : Action.Echoes f p q) :
    Program.Echoes Alike f (Office.act p : Program (Office S R W) α) (Office.act q) := by
  induction echoes with
  | done v => exact .done v
  | @step _ _ act act' _ _ answer acts _ ih =>
    refine .step answer (fun o o' alike => ?_) ih
    have together := acts o.world o'.world alike.world
    generalize act o.world = moved at together
    generalize act' o'.world = moved' at together
    cases together with
    | none => exact .none
    | some both => exact .some ⟨both.1, both.2, alike.streams, alike.journal⟩
  | extra still _ ih =>
    exact .extra (fun o o' alike => ⟨still _ _ alike.world, alike.streams, alike.journal⟩) ih

theorem echoes_use (i : Nat) (how : StreamUse) :
    Program.Echoes Alike id (Office.use i how : Program (Office S R W) Reply)
      (Office.use i how) := by
  apply echoes_attempt
  intro o o' alike
  rw [alike.stream?]
  cases o.stream? i with
  | none => exact .some ⟨rfl, alike⟩
  | some found =>
    obtain ⟨slot, stream⟩ := found
    -- what is done with a stream does not depend on the hooks of its cache
    have same : stream.use slot.passing.cache how = stream.use slot.cache how := by
      cases stream <;> cases how <;> rfl
    dsimp only [Option.map_some]
    rw [same]
    obtain ⟨⟨answer, stream'⟩, w, w', ends, ends', alike'⟩ | ⟨_, _, _, _, waits, waits', _⟩ :=
      (stream.oblivious_use slot.cache how).run alike.world
    · rw [ends, ends']
      have worlds : ({ o with world := w } : Office S R W).Alike { o' with world := w' } :=
        ⟨alike', alike.streams, alike.journal⟩
      exact .some ⟨rfl, worlds.put i slot (some stream')⟩
    · rw [waits, waits']
      exact .none

theorem echoes_take (i : Nat) :
    Program.Echoes Alike (Option.map fun (slot, stream) => (slot.passing, stream))
      (Office.take i : Program (Office S R W) _) (Office.take i) := by
  apply echoes_change
  intro o o' alike
  dsimp only
  rw [alike.stream?]
  cases o.stream? i with
  | none => exact ⟨rfl, alike⟩
  | some found => exact ⟨rfl, alike.put i found.1 none⟩

theorem echoes_settle (c : Cache S R W) (t : Thread) (errand : Errand S)
    (outcome : Outcome S R W) :
    Program.Echoes Alike id (Program.change (Office.settle c.bare t errand outcome))
      (Program.change (Office.settle c.passing t errand outcome)) := by
  apply echoes_change
  intro o o' alike
  have next : o'.streams.length = o.streams.length := by
    rw [alike.streams, List.length_map]
  unfold Office.settle
  rw [next]
  refine ⟨rfl, alike.world, ?_, ?_⟩
  · dsimp only
    rw [alike.streams, List.map_append]
    cases outcome <;> rfl
  · exact congrArg (· ++ _) alike.journal

end Office

theorem Errand.echoes_program (c : Cache S R W) (t : Thread) (errand : Errand S) :
    Program.Echoes Office.Alike id (errand.program c.bare t) (errand.program c.passing t) := by
  cases errand with
  | chore job => exact (Office.echoes_act (job.echoes_action c t)).bind fun _ => .done _
  | openInput r fire m =>
    apply (Office.echoes_act ((c.handle r).echoes_openInput t fire m)).bind
    intro opened
    obtain _ | _ | _ := opened <;> exact .done _
  | openOutput r purpose fire m =>
    refine (Office.echoes_act ((c.handle r).echoes_openOutput t fire m purpose)).bind
      fun opened => ?_
    cases opened <;> exact .done _
  | use i how => exact (Office.echoes_use i how).bind fun _ => .done _
  | finish i dropped =>
    apply (Office.echoes_take i).bind
    intro taken
    obtain _ | ⟨slot, stream⟩ := taken
    · exact .done _
    · have same : stream.finish slot.passing.cache dropped = stream.finish slot.cache dropped := by
        cases stream <;> rfl
      refine (Office.echoes_act ?_).bind fun _ => .done _
      exact same ▸ stream.oblivious_finish slot.cache dropped

theorem Script.echoes_program (script : Script S R W) (t : Thread) :
    Program.Echoes Office.Alike id ((script.withCaches Cache.bare).program t)
      ((script.withCaches Cache.passing).program t) := by
  induction script with
  | stop => exact .done ()
  | ask c errand next ih =>
    exact (errand.echoes_program c t).bind fun outcome =>
      (Office.echoes_settle c t errand outcome).bind ih

/-- Where there is still an errand, the thread has not finished. -/
theorem Script.program_ask_ne_done (c : Cache S R W) (errand : Errand S)
    (next : Reply → Script S R W) (t : Thread) : (ask c errand next).program t ≠ .done () := by
  unfold program
  cases errand.program c t <;> nofun

/-! ## Runs -/

namespace Office
variable {scripts : Thread → Script S R W} {w : World S} {o o' o₁ : Office S R W}
  {left left' : Thread → Program (Office S R W) Unit} {t : Thread}

/-- A thread takes the steps of its own that make no difference, and then the step that
another takes. -/
theorem Reached.follow {p q : Program (Office S R W) Unit} {γ : Type} {b : γ}
    {act : Office S R W → Option (γ × Office S R W)} {next : γ → Program (Office S R W) Unit}
    (echoes : Program.Echoes Alike id p q) (at_step : p = .step act next)
    (admits : act o = some (b, o₁)) (reached : Reached scripts w o' left') (alike : o.Alike o')
    (at_echo : left' t = q) : ∃ o₁' left₁', Reached scripts w o₁' left₁' ∧ o₁.Alike o₁' ∧
      Program.Echoes Alike id (next b) (left₁' t) ∧ ∀ u, u ≠ t → left₁' u = left' u := by
  induction echoes generalizing o' left' with
  | done => cases at_step
  | @step _ _ _ act' _ next' answer acts rest _ =>
    cases at_step
    have together := acts o o' alike
    rw [admits] at together
    generalize moves : act' o' = moved at together
    cases together with
    | @some _ b both =>
      obtain ⟨b', o₁'⟩ := b
      obtain ⟨rfl, alike'⟩ := both
      refine ⟨o₁', _, reached.step at_echo moves, alike', ?_, fun u other => if_neg other⟩
      rw [if_pos rfl]
      exact rest b
  | extra still _ ih =>
    obtain ⟨o₁', left₁', reached', alike', echoes', others⟩ :=
      ih at_step (reached.step at_echo rfl) (still o o' alike) (if_pos rfl)
    exact ⟨o₁', left₁', reached', alike', echoes', fun u other =>
      (others u other).trans (if_neg other)⟩

/-- A thread takes the last of the steps of its own. -/
theorem Reached.finish {p q : Program (Office S R W) Unit}
    (echoes : Program.Echoes Alike id p q) (finished : p = .done ())
    (reached : Reached scripts w o' left') (alike : o.Alike o') (at_echo : left' t = q) :
    ∃ o₁' left₁', Reached scripts w o₁' left₁' ∧ o.Alike o₁' ∧ left₁' t = .done () ∧
      ∀ u, u ≠ t → left₁' u = left' u := by
  induction echoes generalizing o' left' with
  | done => exact ⟨o', left', reached, alike, at_echo, fun _ _ => rfl⟩
  | step => cases finished
  | extra still _ ih =>
    obtain ⟨o₁', left₁', reached', alike', finished', others⟩ :=
      ih finished (reached.step at_echo rfl) (still o o' alike) (if_pos rfl)
    exact ⟨o₁', left₁', reached', alike', finished', fun u other =>
      (others u other).trans (if_neg other)⟩

/-- The step of another, and the steps of its own that are left if it was the last one. -/
theorem Reached.catchUp {q : Program (Office S R W) Unit} {γ : Type} {b : γ}
    {act : Office S R W → Option (γ × Office S R W)} {next : γ → Program (Office S R W) Unit}
    (reached : Reached scripts w o' left') (alike : o.Alike o') (at_echo : left' t = q)
    (echoes : Program.Echoes Alike id (.step act next) q) (admits : act o = some (b, o₁)) :
    ∃ o₁' left₁', Reached scripts w o₁' left₁' ∧ o₁.Alike o₁' ∧
      (Program.Echoes Alike id (next b) (left₁' t) ∧
        (next b = .done () → left₁' t = .done ())) ∧ ∀ u, u ≠ t → left₁' u = left' u := by
  obtain ⟨o₁', left₁', reached₁, alike₁, echoes₁, others⟩ :=
    Reached.follow echoes rfl admits reached alike at_echo
  by_cases finished : next b = .done ()
  · obtain ⟨o₂', left₂', reached₂, alike₂, finished₂, others₂⟩ :=
      Reached.finish echoes₁ finished reached₁ alike₁ rfl
    refine ⟨o₂', left₂', reached₂, alike₂, ?_, fun u other =>
      (others₂ u other).trans (others u other)⟩
    rw [finished, finished₂]
    exact ⟨.done (), id⟩
  · exact ⟨o₁', left₁', reached₁, alike₁, ⟨echoes₁, fun eq => absurd eq finished⟩, others⟩

/-- What threads come to without hooks, they come to with hooks that let everything pass. -/
theorem Reached.passing
    (reached : Reached (fun t => (scripts t).withCaches Cache.bare) w o left) :
    ∃ o' left', Reached (fun t => (scripts t).withCaches Cache.passing) w o' left' ∧
      o.Alike o' ∧ ∀ t, Program.Echoes Alike id (left t) (left' t) ∧
        (left t = .done () → left' t = .done ()) := by
  induction reached with
  | start =>
    refine ⟨_, _, .start, ⟨.refl w, rfl, rfl⟩, fun t => ⟨(scripts t).echoes_program t, ?_⟩⟩
    dsimp only
    cases scripts t with
    | stop => exact fun _ => rfl
    | ask c errand next =>
      exact fun finished => absurd finished (Script.program_ask_ne_done _ _ _ t)
  | @step o o₁ left t γ b act next _ at_step admits ih =>
    obtain ⟨o', left', reached', alike, follows⟩ := ih
    obtain ⟨o₁', left₁', reached₁, alike₁, mine, others⟩ :=
      reached'.catchUp alike rfl (at_step ▸ (follows t).1) admits
    refine ⟨o₁', left₁', reached₁, alike₁, fun u => ?_⟩
    dsimp only
    split
    · next own => exact own ▸ mine
    · next other =>
      rw [others u other]
      exact follows u

/-- And the other way round. -/
theorem Reached.bare
    (reached : Reached (fun t => (scripts t).withCaches Cache.passing) w o' left') :
    ∃ o left, Reached (fun t => (scripts t).withCaches Cache.bare) w o left ∧ o.Alike o' ∧
      ∀ t, Program.Echoes Alike id (left t) (left' t) := by
  induction reached with
  | start =>
    exact ⟨_, _, .start, ⟨.refl w, rfl, rfl⟩, fun t => (scripts t).echoes_program t⟩
  | @step o' o₁' left' t γ' b' act' next' _ at_step admits ih =>
    obtain ⟨o, left, reached, alike, echoes⟩ := ih
    have mine := echoes t
    rw [at_step] at mine
    obtain ⟨alike', echoes'⟩ | ⟨γ, act, next, b, o₁, at_step', moves, alike', echoes'⟩ :=
      mine.of_step alike admits
    · refine ⟨o, left, reached, alike', fun u => ?_⟩
      dsimp only
      split
      · next own => exact own ▸ echoes'
      · exact echoes u
    · refine ⟨o₁, _, reached.step at_step' moves, alike', fun u => ?_⟩
      dsimp only
      split
      · exact echoes'
      · exact echoes u

/-- Hooks that let everything pass are invisible: whatever threads come to that take turns
in any order, they come to the same without hooks. The answers, the store, the locks and
the events are the same, and so is the whole trace but for what hooks were asked. A thread
that runs alone ends with both or waits with both. -/
theorem passing_hooks_are_invisible (scripts : Thread → Script S R W) (w : World S) :
    (∀ o left, Reached (fun t => (scripts t).withCaches Cache.bare) w o left →
      ∃ o' left', Reached (fun t => (scripts t).withCaches Cache.passing) w o' left' ∧
        o.Alike o' ∧ o'.world.events = o.world.events ∧
        ∀ t, left t = .done () → left' t = .done ()) ∧
    (∀ o' left', Reached (fun t => (scripts t).withCaches Cache.passing) w o' left' →
      ∃ o left, Reached (fun t => (scripts t).withCaches Cache.bare) w o left ∧
        o.Alike o' ∧ o'.world.events = o.world.events ∧
        ∀ t, left' t = .done () → left t = .done ()) ∧
    ∀ t, (∃ o o',
        (((scripts t).withCaches Cache.bare).program t).run { world := w } = .finished () o ∧
        (((scripts t).withCaches Cache.passing).program t).run { world := w } = .finished () o' ∧
        o.Alike o' ∧ o'.world.events = o.world.events) ∨
      ∃ rest o rest' o',
        (((scripts t).withCaches Cache.bare).program t).run { world := w } = .waiting rest o ∧
        (((scripts t).withCaches Cache.passing).program t).run { world := w } =
          .waiting rest' o' ∧
        o.Alike o' ∧ o'.world.events = o.world.events := by
  refine ⟨fun o left reached => ?_, fun o' left' reached => ?_, fun t => ?_⟩
  · obtain ⟨o', left', reached', alike, follows⟩ := reached.passing
    exact ⟨o', left', reached', alike, alike.world.events, fun t => (follows t).2⟩
  · obtain ⟨o, left, reached', alike, echoes⟩ := reached.bare
    refine ⟨o, left, reached', alike, alike.world.events, fun t finished => ?_⟩
    have mine := echoes t
    rw [finished] at mine
    generalize left t = p at mine
    cases mine
    rfl
  · have start : ({ world := w } : Office S R W).Alike { world := w } := ⟨.refl w, rfl, rfl⟩
    obtain ⟨_, o, o', ends, ends', alike⟩ | ⟨rest, o, rest', o', waits, waits', alike⟩ :=
      ((scripts t).echoes_program t).run start
    · exact .inl ⟨o, o', ends, ends', alike, alike.world.events⟩
    · exact .inr ⟨rest, o, rest', o', waits, waits', alike, alike.world.events⟩

/-- Content is stored by name, read and deleted. The hooks were asked, but the events are
the same. -/
theorem stored_read_and_deleted_alike :
    let l : Location := { name := "a", uri := "memory:a", acceptsStores := true }
    let r : Resource := .ofText l "r"
    let c : Cache Memory Bytes Memory.Writer := { backend := Memory.backend false }
    let script : Script Memory Bytes Memory.Writer :=
      .ask c (.chore (.keep .identity l "r" (fun _ => { bytes := [120] }) ∅)) fun _ =>
      .ask c (.openInput r true ∅) fun _ => .ask c (.use 0 (.read none)) fun _ =>
      .ask c (.finish 0 false) fun _ => .ask c (.chore (.clear .identity [l] "r" ∅)) fun _ => .stop
    let w : World Memory := { storage := .empty }
    ∃ o o', ((script.withCaches Cache.bare).program 0).run { world := w } = .finished () o ∧
      ((script.withCaches Cache.passing).program 0).run { world := w } = .finished () o' ∧
      o.Alike o' ∧ o.world.events = [.storage r .upload ∅, .access r ∅, .deletion r ∅] ∧
      o'.world.events = [.storage r .upload ∅, .access r ∅, .deletion r ∅] ∧
      o'.world.trace ≠ o.world.trace ∧
      ∃ left left' o'', Reached (fun _ => script.withCaches Cache.bare) w o left ∧
        Reached (fun _ => script.withCaches Cache.passing) w o'' left' ∧ o.Alike o'' ∧
        left 0 = .done () ∧ left' 0 = .done () := by
  intro l r c script w
  obtain ⟨forward, _, alone⟩ := passing_hooks_are_invisible (fun _ => script) w
  have bare : (((script.withCaches Cache.bare).program 0).run { world := w }).passes
      (fun _ o => decide (o.world.events = [.storage r .upload ∅, .access r ∅, .deletion r ∅]) &&
        o.world.trace.all fun seen => !seen.isHooked) = true := by
    decide +kernel
  have passing : (((script.withCaches Cache.passing).program 0).run { world := w }).passes
      (fun _ o => o.world.trace.any Occurrence.isHooked) = true := by
    decide +kernel
  obtain ⟨o, o', ends, ends', alike, same⟩ | ⟨_, _, _, _, waits, _⟩ := alone 0
  · rw [ends] at bare
    rw [ends'] at passing
    obtain ⟨fired, unasked⟩ := Bool.and_eq_true_iff.1 bare
    obtain ⟨left, reached, finished⟩ :=
      Reached.of_run (.start : Reached (fun _ => script.withCaches Cache.bare) w _ _) ends
    obtain ⟨o'', left', reached', alike', _, finished'⟩ := forward o left reached
    refine ⟨o, o', ends, ends', alike, of_decide_eq_true fired,
      same.trans (of_decide_eq_true fired), fun eq => ?_, left, left', o'', reached, reached',
      alike', finished, finished' 0 finished⟩
    obtain ⟨seen, mem, hooked⟩ := List.any_eq_true.1 passing
    have quiet := List.all_eq_true.1 unasked seen (eq ▸ mem)
    rw [hooked] at quiet
    cases quiet
  · rw [waits] at bare
    cases bare

end Office
end
end ArtifactCache
