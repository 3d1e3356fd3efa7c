import ArtifactCache.Proofs.Accord
import ArtifactCache.Proofs.Errands
import ArtifactCache.Proofs.Seen

/-!
# What operations fire

Every event is due to one errand of a handle or of a stream, and no errand fires more
than one: what it fires can be read off its record in the journal (`Record.fires`).

* `Program.Silent`, `Program.Fires`: programs that fire nothing, or what they should;
* `Chore.fires_action`, `OpenStream.fires_finish`: what is done without a stream, and
  the end of a stream.
-/
namespace ArtifactCache

/-! ## What is to be fired -/

def Chore.fires {S : Type} : Chore S → Reply → List Event
  | touch r m, _ => [.access r m]
  | delete r true m, .told true => [.deletion r m]
  | delete r true m, .failed e => [.error r e.message m]
  | _, _ => []

/-- The event that a stream fires when it ends. -/
def Errand.due? {S : Type} : Errand S → Option Event
  | openInput r true m => some (.access r m)
  | openOutput r purpose true m => some (.storage r purpose m)
  | _ => none

/-- The events of an errand. -/
def Record.fires {S : Type} (e : Record S) : List Event :=
  match e.errand, e.answer with
  | .chore job, answer => job.fires answer
  | .openInput r true m, .failed why => [.error r why.message m]
  | .openOutput r _ true m, .failed why => [.error r why.message m]
  | .finish _ _, _ => (e.ended?.bind Errand.due?).toList
  | _, _ => []

/-! ## Programs that fire -/

namespace Program
variable {S α β : Type} {p : Action S α} {begun : List Event} {such : α → Prop} {such' : β → Prop}

/-- The program fires nothing, and ends with such a value if it ends. -/
abbrev Silent (such : α → Prop) (p : Action S α) : Prop := p.Unseen Occurrence.event? such

/-- With those that it has begun with, the program has fired at most one event at any
time, and such events in the end. -/
def Fires (post : α → List Event → Prop) : List Event → Program (World S) α → Prop
  | begun, done v => post v begun
  | begun, step act next => ∀ w b w', act w = some (b, w') → ∃ more,
      w'.events = w.events ++ more ∧ (begun ++ more).length ≤ 1 ∧
      Fires post (begun ++ more) (next b)

theorem Fires.bind {mid : α → List Event → Prop} {post : β → List Event → Prop}
    {k : α → Action S β} (first : p.Fires mid begun)
    (rest : ∀ v b, mid v b → (k v).Fires post b) : (p >>= k).Fires post begun := by
  induction p generalizing begun with
  | done v => exact rest v begun first
  | step act next ih =>
    intro w b w' admits
    obtain ⟨more, events, short, first⟩ := first w b w' admits
    exact ⟨more, events, short, ih b first⟩

theorem Fires.mono {post post' : α → List Event → Prop} (fires : p.Fires post begun)
    (le : ∀ v b, post v b → post' v b) : p.Fires post' begun := by
  rw [← bind_pure p]
  exact fires.bind fun v b fits => le v b fits

theorem Silent.fires (silent : p.Silent such) (short : begun.length ≤ 1) :
    p.Fires (fun v b => such v ∧ b = begun) begun := by
  induction p with
  | done v => exact ⟨silent, rfl⟩
  | step act next ih =>
    intro w b w' admits
    obtain ⟨same, silent⟩ := silent w b w' admits
    refine ⟨[], by rw [List.append_nil]; exact same, ?_, ?_⟩
    · rwa [List.append_nil]
    · rw [List.append_nil]
      exact ih b silent

/-- A silent part in front of one that fires. -/
theorem Fires.after {post : β → List Event → Prop} {k : α → Action S β} (first : p.Silent such)
    (rest : ∀ v, such v → (k v).Fires post []) : (p >>= k).Fires post [] := by
  have quiet : p.Fires (fun v b => such v ∧ b = []) [] := first.fires (Nat.zero_le 1)
  apply quiet.bind
  rintro v _ ⟨fits, rfl⟩
  exact rest v fits

end Program

open Program (Silent Fires unseen_change)

section
variable {S R W α : Type}

theorem fires_say (level : Level) (speaker : Speaker) (text : String) {begun : List Event}
    (short : begun.length ≤ 1) :
    (Action.say level speaker text : Action S Unit).Fires (fun _ b => b = begun) begun := by
  have silent : (Action.say level speaker text : Action S Unit).Silent fun _ => True :=
    unseen_say level speaker text
  exact (silent.fires short).mono fun _ _ same => same.2

namespace Handle
variable (h : Handle S R W) {t : Thread} {fire : Bool} {m : Metadata} {purpose : Purpose}

theorem fires_fire (event : Event) : (h.fire event).Fires (fun _ b => b = [event]) [] := by
  have noted : (Action.note (.fired event) : Action S Unit).Fires (fun _ b => b = [event]) [] := by
    intro w _ w' admits
    obtain ⟨_, rfl⟩ := Prod.mk.inj (Option.some.inj admits)
    refine ⟨[event], ?_, Nat.le_refl 1, rfl⟩
    simp [World.events, World.note, Occurrence.event?]
  refine noted.bind ?_
  rintro _ _ rfl
  split
  · exact fires_say _ _ _ (by simp)
  · exact rfl

theorem silent_consult (hook : Hook) (call : HookCall) (ask : Hooks → Except Fault α)
    (passing : α) : (h.consult hook call ask passing).Silent fun _ => True := by
  unfold consult
  split
  · exact trivial
  · exact (unseen_note rfl).seq fun _ => trivial

/-- What a failed operation reports. -/
def reports (fire : Bool) (m : Metadata) : Except Failure α → List Event
  | .ok _ => []
  | .error e => if fire then [.error h.resource e.message m] else []

theorem fires_reportFailure (result : Except Failure α) :
    (h.reportFailure fire m result).Fires (fun _ b => b = h.reports fire m result) [] := by
  unfold reportFailure reports
  cases result with
  | ok => exact rfl
  | error e =>
    cases fire
    · exact rfl
    · exact h.fires_fire _

theorem fires_touch : (h.touch m).Fires (fun _ b => b = [.access h.resource m]) [] := by
  unfold touch
  split
  · exact .after (unseen_note rfl) fun _ _ => h.fires_fire _
  · exact h.fires_fire _

theorem silent_openReader : (h.openReader fire m).Silent fun result =>
    ∀ input, result = .ok (some input) →
      input.onClose? = (Errand.openInput h.resource fire m : Errand S).due? := by
  apply (unseen_inspect _).seq
  intro opened
  obtain e | _ | stream := opened
  · rintro _ ⟨⟩
  · rintro _ ⟨⟩
  · apply (h.silent_consult _ _ _ _).seq
    intro answer
    cases answer with
    | error => rintro _ ⟨⟩
    | ok filter =>
      rintro input ⟨rfl⟩
      cases fire <;> rfl

/-- Opening for reading fires its failure; a reader has its event before it. -/
theorem fires_openInput : (h.openInput t fire m).Fires (fun result b =>
    b = h.reports fire m result ∧ ∀ input, result = .ok (some input) →
      input.onClose? = (Errand.openInput h.resource fire m : Errand S).due?) [] := by
  refine .after Locks.unseen_awaitFree fun _ _ => .after h.silent_openReader fun result due => ?_
  apply (h.fires_reportFailure result).bind
  rintro _ _ rfl
  exact ⟨rfl, due⟩

theorem silent_openWriter : (h.openWriter purpose fire m).Silent fun result =>
    ∀ output, result = .ok output →
      output.onClose? = (Errand.openOutput h.resource purpose fire m : Errand S).due? := by
  apply (unseen_alter _).seq
  intro opened
  cases opened with
  | error => rintro _ ⟨⟩
  | ok stream =>
    apply (h.silent_consult _ _ _ _).seq
    intro answer
    apply (h.unseen_begin purpose m stream).seq
    intro stream
    cases answer with
    | error => exact (unseen_alter _).seq fun _ => by rintro _ ⟨⟩
    | ok filter =>
      cases fire
      all_goals
        apply (unseen_say _ _ _).seq
        intro _
        rintro output ⟨rfl⟩
        rfl

theorem fires_openOutput : (h.openOutput t purpose fire m).Fires (fun result b =>
    b = h.reports fire m result ∧ ∀ output, result = .ok output →
      output.onClose? = (Errand.openOutput h.resource purpose fire m : Errand S).due?) [] := by
  have reported (result : Except Failure (Output W)) (due : ∀ output, result = .ok output →
      output.onClose? = (Errand.openOutput h.resource purpose fire m : Errand S).due?) :
      (do h.reportFailure fire m result; pure result : Action S _).Fires (fun result b =>
        b = h.reports fire m result ∧ ∀ output, result = .ok output →
          output.onClose? = (Errand.openOutput h.resource purpose fire m : Errand S).due?) [] := by
    apply (h.fires_reportFailure result).bind
    rintro _ _ rfl
    exact ⟨rfl, due⟩
  refine .after Locks.unseen_awaitFree fun _ _ => .after Locks.unseen_acquire fun taken _ => ?_
  cases taken with
  | error e => exact reported (.error e) (by rintro _ ⟨⟩)
  | ok =>
    refine .after h.silent_openWriter fun result due => ?_
    cases result with
    | error e => exact .after Locks.unseen_unlockStream fun _ _ => reported (.error e) (by rintro _ ⟨⟩)
    | ok output => exact reported (.ok output) due

theorem fires_delete : (h.delete t fire m).Fires (fun result b =>
    b = (Chore.delete h.resource fire m : Chore S).fires (.ofResult .told result)) [] := by
  refine .after Locks.unseen_awaitFree fun _ _ => ?_
  refine .after (h.silent_consult _ _ _ _) fun asked _ => ?_
  have failed (e : Failure) : (do
      h.reportFailure fire m (.error e : Except Failure Bool)
      return .error e : Action S (Except Failure Bool)).Fires (fun result b =>
        b = (Chore.delete h.resource fire m : Chore S).fires (.ofResult .told result)) [] := by
    apply (h.fires_reportFailure _).bind
    rintro _ _ rfl
    cases fire <;> rfl
  cases asked with
  | error e => exact failed e
  | ok =>
    refine .after (unseen_alter _) fun deleted _ => ?_
    obtain e | _ | _ := deleted
    · exact failed e
    · cases fire <;> rfl
    · cases fire
      · exact rfl
      · apply (h.fires_fire _).bind
        rintro _ _ rfl
        rfl

theorem silent_present : h.present.Silent fun _ => True := by
  unfold present
  split
  · exact unseen_inspect _
  · refine (unseen_note rfl).seq fun _ => ?_
    split
    · exact trivial
    · exact unseen_inspect _

theorem silent_copyFrom (source : Handle S R W) : (h.copyFrom t source).Silent fun _ => True := by
  refine Locks.unseen_awaitFree.seq fun _ => Locks.unseen_acquire.seq fun taken => ?_
  cases taken with
  | error => exact trivial
  | ok =>
    apply (h.silent_consult _ _ _ _).seq
    intro asked
    cases asked with
    | error => exact Locks.unseen_unlockStream.seq fun _ => trivial
    | ok => exact (unseen_alter _).seq fun _ => Locks.unseen_unlockStream.seq fun _ => trivial

theorem silent_list : h.list.Silent fun _ => True := by
  apply (unseen_inspect _).seq
  intro listed
  cases listed with
  | error => exact trivial
  | ok names => exact h.silent_consult _ _ _ _

theorem silent_mkdirs : h.mkdirs.Silent fun _ => True := by
  refine (h.silent_consult _ _ _ _).seq fun asked => ?_
  cases asked with
  | error => exact trivial
  | ok => exact unseen_alter _

theorem silent_createFile : (h.createFile t).Silent fun _ => True := by
  refine Locks.unseen_awaitFree.seq fun _ => (h.silent_consult _ _ _ _).seq fun asked => ?_
  cases asked with
  | error => exact trivial
  | ok => exact unseen_alter _

theorem fires_closeInput (c : Cache S R W) (input : Input R) :
    (input.close c).Fires (fun _ b => b = input.onClose?.toList) [] := by
  unfold Input.close
  cases input.onClose? with
  | none => exact rfl
  | some event => exact fires_fire _ event

namespace Output
variable (c : Cache S R W) (output : Output W)

theorem fires_close : (output.close c).Fires (fun _ b => b = output.onClose?.toList) [] := by
  refine .after (output.unseen_call c .flush) fun ⟨flushed, output'⟩ same => ?_
  refine .after (unseen_alter _) fun _ _ => .after Locks.unseen_unlockStream fun _ _ => ?_
  rw [← same]
  dsimp only
  cases output'.onClose? with
  | none => exact rfl
  | some event =>
    apply (fires_fire _ event).bind
    rintro _ _ rfl
    exact rfl

theorem fires_drop : (output.drop c).Fires (fun _ b => b = output.onClose?.toList) [] := by
  apply (output.fires_close c).bind
  rintro result _ rfl
  cases result with
  | ok => exact rfl
  | error fault =>
    apply fires_say
    cases output.onClose? <;> simp

end Output
end Handle

/-! ## Errands -/

/-- What is silent answers for a chore that fires nothing. -/
theorem Chore.fires_of_silent {job : Chore S} {p : Action S α} {answer : α → Reply}
    (nothing : ∀ a, job.fires a = []) (silent : p.Silent fun _ => True) :
    (do return answer (← p) : Action S Reply).Fires (fun a b => b = job.fires a) [] :=
  .after silent fun _ _ => (nothing _).symm

theorem Chore.fires_action {job : Chore S} (ofHandle : job.isOfHandle = true) (c : Cache S R W)
    (t : Thread) : (job.action c t).Fires (fun a b => b = job.fires a) [] := by
  cases job with
  | lock r => exact fires_of_silent (fun _ => rfl) Locks.unseen_lock
  | unlock r => exact fires_of_silent (fun _ => rfl) Locks.unseen_unlock
  | isLocked r | isFile r | isDirectory r | length r | isDated r =>
    exact fires_of_silent (fun _ => rfl) (unseen_change fun _ => ⟨rfl, trivial⟩)
  | present r => exact fires_of_silent (fun _ => rfl) (c.handle r).silent_present
  | metaSibling r suffix =>
    exact fires_of_silent (fun _ => rfl) ((c.handle r).unseen_metaSibling suffix)
  | copyFrom target source =>
    exact fires_of_silent (fun _ => rfl) ((c.handle target).silent_copyFrom (c.handle source))
  | list r => exact fires_of_silent (fun _ => rfl) (c.handle r).silent_list
  | mkdirs r => exact fires_of_silent (fun _ => rfl) (c.handle r).silent_mkdirs
  | createFile r => exact fires_of_silent (fun _ => rfl) (c.handle r).silent_createFile
  | touch r m =>
    apply ((c.handle r).fires_touch).bind
    rintro _ _ rfl
    exact rfl
  | delete r fire m =>
    apply ((c.handle r).fires_delete).bind
    rintro _ _ rfl
    exact rfl
  | _ => cases ofHandle

namespace OpenStream
variable (c : Cache S R W)

/-- Using a stream leaves the event that is due as it is. -/
theorem unseen_use {δ : Type} (pick : Occurrence → Option δ) (how : StreamUse)
    (stream : OpenStream R W) :
    (stream.use c how).Unseen pick fun used => used.2.onClose? = stream.onClose? := by
  cases stream with
  | input i =>
    cases how with
    | read limit => exact (i.unseen_read c limit).bind fun _ same => same
    | write | put | flush => exact rfl
  | output o =>
    cases how with
    | read => exact rfl
    | write bytes => exact (o.unseen_write c bytes).bind fun _ same => same
    | put bytes => exact (o.unseen_put c bytes).bind fun _ same => same
    | flush => exact (o.unseen_call c .flush).bind fun _ same => same

theorem fires_finish (dropped : Bool) (stream : OpenStream R W) :
    (stream.finish c dropped).Fires (fun _ b => b = stream.onClose?.toList) [] := by
  cases stream with
  | input i => exact (Handle.fires_closeInput c i).bind fun _ _ fired => fired
  | output o =>
    cases dropped
    · exact (o.fires_close c).bind fun _ _ fired => fired
    · exact (o.fires_drop c).bind fun _ _ fired => fired

end OpenStream
end

end ArtifactCache
