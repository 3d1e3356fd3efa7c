import ArtifactCache.Backend

/-!
A store in use. Its users ask it for changes, and write through the writers
that they were given, in any order and as often as they like.
-/
namespace ArtifactCache

variable {S R W : Type}

/-- What can be asked of a store, beside what only reads it. -/
inductive Request
  | openWriter (r : Resource)
  | copy (source target : Resource)
  | delete (r : Resource)
  | mkdirs (r : Resource)
  | createFile (r : Resource)
  | createAlias (source target : Resource)
  deriving DecidableEq

namespace Request

/-- Of an answer only the writer is kept, if there is one in it. -/
def keeping {α : Type} (writer? : α → Option W) (outcome : Except Failure α × S) :
    Except Failure (Option W) × S :=
  (outcome.1.map writer?, outcome.2)

/-- The answer to a request, and the store after it. -/
def run (b : Backend S R W) (s : S) : Request → Except Failure (Option W) × S
  | openWriter r => keeping some (b.openWriter r s)
  | copy source target => keeping (fun _ => none) (b.copy source target s)
  | delete r => keeping (fun _ => none) (b.delete r s)
  | mkdirs r => keeping (fun _ => none) (b.mkdirs r s)
  | createFile r => keeping (fun _ => none) (b.createFile r s)
  | createAlias source target =>
    let ((result, _), s') := b.createAlias source target s
    keeping (fun _ => none) (result, s')

theorem snd_keeping {α : Type} (writer? : α → Option W) (outcome : Except Failure α × S) :
    (keeping writer? outcome).2 = outcome.2 := rfl

theorem keeping_eq_error_iff {α : Type} {writer? : α → Option W} {outcome : Except Failure α × S}
    {e : Failure} : (keeping writer? outcome).1 = .error e ↔ outcome.1 = .error e := by
  unfold keeping
  cases outcome.1 <;> simp [Except.map]

end Request

/-- What a call does: a request, or the use of one of the open writers. -/
inductive Call
  | ask (q : Request)
  | write (writer : Nat) (bytes : Bytes)
  | flush (writer : Nat)
  /-- The writer is dropped, and is gone. -/
  | close (writer : Nat)
  deriving DecidableEq

/-- A store with the writers that are open on it, the oldest first. -/
structure Usage (S W : Type) where
  store : S
  writers : List W := []

namespace Usage

/-- Calls on a writer that is not there do nothing. -/
def perform (b : Backend S R W) (u : Usage S W) : Call → Usage S W
  | .ask q =>
    match q.run b u.store with
    | (.ok writer?, s) => ⟨s, u.writers ++ writer?.toList⟩
    | (.error _, s) => { u with store := s }
  | .write i bytes =>
    match u.writers[i]? with
    | none => u
    | some w =>
      let (w, s) := b.write w bytes u.store
      ⟨s, u.writers.set i w⟩
  | .flush i =>
    match u.writers[i]? with
    | none => u
    | some w =>
      let (w, s) := b.flush w u.store
      ⟨s, u.writers.set i w⟩
  | .close i =>
    match u.writers[i]? with
    | none => u
    | some w => ⟨b.closeWriter w u.store, u.writers.eraseIdx i⟩

/-- What the calls make of a store, on which no writer was open before. -/
def after (b : Backend S R W) (s : S) (calls : List Call) : Usage S W :=
  calls.foldl (perform b) { store := s }

@[simp] theorem after_append_singleton (b : Backend S R W) (s : S) (calls : List Call)
    (call : Call) : after b s (calls ++ [call]) = (after b s calls).perform b call := by
  simp [after]

/-- What follows a call follows the use of the store so far. -/
theorem after_append_cons (b : Backend S R W) (s : S) (calls later : List Call) (call : Call) :
    after b s (calls ++ call :: later) = later.foldl (perform b) (after b s (calls ++ [call])) := by
  simp [after]

/-- The store after a request, whether or not it is granted. -/
theorem store_perform_ask (b : Backend S R W) (u : Usage S W) (q : Request) :
    (u.perform b (.ask q)).store = (q.run b u.store).2 := by
  rcases outcome : q.run b u.store with ⟨answer, s⟩
  cases answer <;> simp [perform, outcome]

end Usage

/-! ## What a store holds -/

/-- The bytes that are read from a resource now, if it is a file. -/
def Backend.content? (b : Backend S R W) (r : Resource) (s : S) : Option Bytes :=
  match b.openReader r s with
  | .ok (some reader) => some (b.read reader none s).1
  | _ => none

/-- The resource is a file in both stores or in neither, with the same bytes. -/
structure Backend.Keeps (b : Backend S R W) (r : Resource) (s s' : S) : Prop where
  file : b.isFile r s' = b.isFile r s
  content : b.content? r s' = b.content? r s

theorem Backend.Keeps.refl (b : Backend S R W) (r : Resource) (s : S) : b.Keeps r s s :=
  ⟨rfl, rfl⟩

end ArtifactCache
