import ArtifactCache.Proofs.Hits
import Mathlib.Logic.Relation

/-!
Searches follow the order of the locations. Whatever a supplier answers, and whatever others
do to the state in between, a search makes its calls one after the other: `Search.Round` is
such a round of calls with their answers. `FirstHit` and `AllHits` say what the calls of the
two searches come to. Priorities are handed over with the locations and decide nothing.
-/
namespace ArtifactCache

namespace Program
variable {σ α β : Type} {others : σ → σ → Prop} {p : Program σ α} {k : α → Program σ β}
  {s s' : σ} {v : β}

/-- A program in two parts ends as its second part does, begun where the first has ended. -/
theorem Yields.exists_of_bind (yields : (p >>= k).Yields others s v s') :
    ∃ a mid, p.Yields others s a mid ∧ (k a).Yields others mid v s' := by
  generalize both : p >>= k = whole at yields
  induction yields generalizing p with
  | done v s =>
    cases p with
    | done a =>
      change k a = _ at both
      exact ⟨a, s, .done a s, both ▸ .done v s⟩
    | step act next => cases both
  | step admits rest ih =>
    cases p with
    | done a =>
      change k a = _ at both
      exact ⟨a, _, .done a _, both ▸ .step admits rest⟩
    | step act next =>
      cases both
      obtain ⟨a, mid, first, second⟩ := ih rfl
      exact ⟨a, mid, .step admits first, second⟩
  | meanwhile moved _ ih =>
    obtain ⟨a, mid, first, second⟩ := ih both
    exact ⟨a, mid, .meanwhile moved first, second⟩

/-- A program that has come to its end takes no step any more; others may. -/
theorem Yields.of_pure {w : β} (yields : (pure w : Program σ β).Yields others s v s') :
    v = w ∧ Relation.ReflTransGen others s s' := by
  generalize there : (pure w : Program σ β) = whole at yields
  induction yields with
  | done => cases there; exact ⟨rfl, .refl⟩
  | step => cases there
  | meanwhile moved _ ih =>
    obtain ⟨same, later⟩ := ih there
    exact ⟨same, .head moved later⟩

end Program

namespace Search
variable {S H A : Type}

/-- Calls made one after the other, each with its resource and its answer. A remark follows
each failure. -/
inductive Round (others : World S → World S → Prop)
    (call : Resource → Action S (Except Failure A)) (remark : Resource → Failure → Action S Unit) :
    List (Resource × Except Failure A) → World S → World S → Prop
  | nil {w w'} : Relation.ReflTransGen others w w' → Round others call remark [] w w'
  | answered {r a calls w w₁ w'} : (call r).Yields others w (.ok a) w₁ →
      Round others call remark calls w₁ w' →
      Round others call remark ((r, .ok a) :: calls) w w'
  | failed {r e calls w w₁ w₂ w'} : (call r).Yields others w (.error e) w₁ →
      (remark r e).Yields others w₁ () w₂ → Round others call remark calls w₂ w' →
      Round others call remark ((r, .error e) :: calls) w w'

/-- After the last call the others may move on. -/
theorem Round.later {others : World S → World S → Prop}
    {call : Resource → Action S (Except Failure A)} {remark : Resource → Failure → Action S Unit}
    {calls : List (Resource × Except Failure A)} {w w₁ w' : World S}
    (round : Round others call remark calls w w₁) (later : Relation.ReflTransGen others w₁ w') :
    Round others call remark calls w w' := by
  induction round with
  | nil before => exact .nil (before.trans later)
  | answered asked _ ih => exact .answered asked (ih later)
  | failed asked said _ ih => exact .failed asked said (ih later)

/-- No call of these has found anything. -/
def Hitless (calls : List (Resource × Except Failure (Option H))) : Prop :=
  ∀ c ∈ calls, ∀ h, c.2 ≠ .ok (some h)

/-- What the calls of a search for the first hit come to. -/
inductive FirstHit (resources : List Resource) :
    List (Resource × Except Failure (Option H)) → Except Failure (Option H) → Prop
  /-- The search stops behind the first call that finds something, whatever failed before. -/
  | hit {before r h after} : resources = before.map (·.1) ++ r :: after → Hitless before →
      FirstHit resources (before ++ [(r, .ok (some h))]) (.ok (some h))
  /-- All were asked, none has it, and the first failure is told. -/
  | failure {before r e after} : resources = (before ++ (r, .error e) :: after).map (·.1) →
      (∀ c ∈ before, c.2 = .ok none) → Hitless after →
      FirstHit resources (before ++ (r, .error e) :: after) (.error e)
  | nothing {calls} : resources = calls.map (·.1) → (∀ c ∈ calls, c.2 = .ok none) →
      FirstHit resources calls (.ok none)

/-- What the calls of a search for all hits come to. -/
inductive AllHits (resources : List Resource) :
    List (Resource × Except Failure (Option H)) → Except Failure (List H) → Prop
  /-- The search stops behind the first call that fails. -/
  | failure {before r e after} : resources = before.map (·.1) ++ r :: after →
      (∀ c ∈ before, ∃ found, c.2 = .ok found) →
      AllHits resources (before ++ [(r, .error e)]) (.error e)
  | found {calls : List (Resource × Except Failure (Option H))} {found : List (Option H)} :
      resources = calls.map (·.1) → calls.map (·.2) = found.map .ok →
      AllHits resources calls (.ok found.reduceOption)

/-! ## The calls of the two searches -/

section
variable {resources rest : List Resource} {r : Resource} {e : Failure} {h : H}
  {calls : List (Resource × Except Failure (Option H))}

theorem Hitless.cons {a : Except Failure (Option H)} (hitless : Hitless calls)
    (miss : ∀ h, a ≠ .ok (some h)) : Hitless ((r, a) :: calls) := by
  intro c mem
  obtain rfl | mem := List.mem_cons.1 mem
  · exact miss
  · exact hitless c mem

theorem hitless_of_absent (absent : ∀ c ∈ calls, c.2 = .ok none) : Hitless calls := by
  intro c mem h hit
  rw [absent c mem] at hit
  cases hit

/-- What a search that has met a failure makes of what the rest of it has come to. -/
def withFailure (e : Failure) (result : Except Failure (Option H)) : Except Failure (Option H) :=
  if result.toOption.join.isSome then result else .error e

theorem FirstHit.hit_first : FirstHit (r :: rest) [(r, .ok (some h))] (.ok (some h)) :=
  @FirstHit.hit H _ [] r h rest rfl (by simp [Hitless])

theorem FirstHit.missed {result : Except Failure (Option H)} (first : FirstHit rest calls result) :
    FirstHit (r :: rest) ((r, .ok none) :: calls) result := by
  cases first with
  | hit given hitless =>
    rw [← List.cons_append]
    apply FirstHit.hit
    · exact congrArg (r :: ·) given
    · exact hitless.cons (by simp)
  | failure given absent hitless =>
    rw [← List.cons_append]
    apply FirstHit.failure
    · exact congrArg (r :: ·) given
    · exact List.forall_mem_cons.2 ⟨rfl, absent⟩
    · exact hitless
  | nothing given absent =>
    apply FirstHit.nothing
    · exact congrArg (r :: ·) given
    · exact List.forall_mem_cons.2 ⟨rfl, absent⟩

theorem FirstHit.failed_first (given : rest = calls.map (·.1)) (hitless : Hitless calls) :
    FirstHit (r :: rest) ((r, .error e) :: calls) (.error e) :=
  @FirstHit.failure H _ [] r e calls (congrArg (r :: ·) given) (by simp) hitless

theorem FirstHit.failed {result : Except Failure (Option H)} (first : FirstHit rest calls result) :
    FirstHit (r :: rest) ((r, .error e) :: calls) (withFailure e result) := by
  cases first with
  | hit given hitless =>
    rw [← List.cons_append]
    apply FirstHit.hit
    · exact congrArg (r :: ·) given
    · exact hitless.cons (by simp)
  | failure given absent hitless =>
    apply FirstHit.failed_first given
    intro c mem
    obtain mem | mem := List.mem_append.1 mem
    · exact hitless_of_absent absent c mem
    · exact hitless.cons (by simp) c mem
  | nothing given absent =>
    exact .failed_first given (hitless_of_absent absent)

theorem AllHits.failed_first : @AllHits H (r :: rest) [(r, .error e)] (.error e) :=
  @AllHits.failure H _ [] r e rest rfl (by simp)

theorem AllHits.found_cons {found? : Option H} {result : Except Failure (List H)}
    (all : AllHits rest calls result) :
    AllHits (r :: rest) ((r, .ok found?) :: calls) (result.map (found?.toList ++ ·)) := by
  cases all with
  | failure given found =>
    rw [← List.cons_append]
    apply AllHits.failure
    · exact congrArg (r :: ·) given
    · exact List.forall_mem_cons.2 ⟨⟨found?, rfl⟩, found⟩
  | @found _ found given answers =>
    have both : (.ok found.reduceOption : Except Failure (List H)).map (found?.toList ++ ·) =
        .ok (found? :: found).reduceOption := by
      cases found? <;> rfl
    rw [both]
    apply AllHits.found
    · exact congrArg (r :: ·) given
    · exact congrArg (.ok found? :: ·) answers

/-- The resources asked are the first of those given, each as often as it is given. -/
theorem FirstHit.asked {result : Except Failure (Option H)}
    (first : FirstHit resources calls result) : calls.map (·.1) <+: resources := by
  cases first with
  | hit given => simp [given]
  | failure given => exact given ▸ List.prefix_rfl
  | nothing given => exact given ▸ List.prefix_rfl

theorem AllHits.asked {result : Except Failure (List H)} (all : AllHits resources calls result) :
    calls.map (·.1) <+: resources := by
  cases all with
  | failure given => simp [given]
  | found given => exact given ▸ List.prefix_rfl

end

section
variable {supplier : Supplier S H} {m : Metadata} {others : World S → World S → Prop}

theorem withFailure_withFailure (e e' : Failure) (result : Except Failure (Option H)) :
    withFailure e (withFailure e' result) = withFailure e result := by
  obtain _ | _ | _ := result <;> rfl

/-- The failure that a search brings along is told in the end, unless there is a hit. -/
theorem visit_some (e : Failure) (resources : List Resource) :
    retrieveFirst.visit supplier m (some e) resources =
      withFailure e <$> retrieveFirst.visit supplier m none resources := by
  induction resources generalizing e with
  | nil => rfl
  | cons r rest ih =>
    simp only [retrieveFirst.visit, map_bind]
    congr 1
    funext answer
    obtain e' | _ | h := answer
    · simp only [Option.some_or, Option.none_or, map_bind]
      rw [ih, ih e']
      simp [withFailure_withFailure]
    · exact ih e
    · rfl

/-- What a search for the first hit says of a location that it passes by. -/
def passing (r : Resource) (e : Failure) : Action S Unit :=
  Action.say .warn .search
    ("Failed to retrieve " ++ r.display ++ ", trying next location: " ++ e.message)

theorem round_of_visitFirst {resources : List Resource} {result : Except Failure (Option H)}
    {w w' : World S}
    (yields : (retrieveFirst.visit supplier m none resources).Yields others w result w') :
    ∃ calls, Round others (supplier.retrieve · m) passing calls w w' ∧
      FirstHit resources calls result := by
  induction resources generalizing w result w' with
  | nil =>
    obtain ⟨rfl, later⟩ := yields.of_pure
    exact ⟨[], .nil later, .nothing rfl (by simp)⟩
  | cons r rest ih =>
    obtain ⟨answer, w₁, asked, going⟩ := yields.exists_of_bind
    obtain e | _ | h := answer
    · obtain ⟨_, w₂, said, going⟩ := going.exists_of_bind
      rw [Option.none_or, visit_some] at going
      obtain ⟨_, w₃, searched, ended⟩ := Program.Yields.exists_of_bind going
      obtain ⟨rfl, later⟩ := ended.of_pure
      obtain ⟨calls, round, first⟩ := ih searched
      exact ⟨_, .failed asked said (round.later later), first.failed⟩
    · obtain ⟨calls, round, first⟩ := ih going
      exact ⟨_, .answered asked round, first.missed⟩
    · obtain ⟨rfl, later⟩ := going.of_pure
      exact ⟨_, .answered asked (.nil later), .hit_first⟩

theorem round_of_visitAll {resources : List Resource} {result : Except Failure (List H)}
    {w w' : World S} (yields : (retrieveAll.visit supplier m resources).Yields others w result w') :
    ∃ calls, Round others (supplier.retrieve · m) (fun _ _ => pure ()) calls w w' ∧
      AllHits resources calls result := by
  induction resources generalizing w result w' with
  | nil =>
    obtain ⟨rfl, later⟩ := yields.of_pure
    exact ⟨[], .nil later, @AllHits.found H _ [] [] rfl rfl⟩
  | cons r rest ih =>
    obtain ⟨answer, w₁, asked, going⟩ := yields.exists_of_bind
    cases answer with
    | error e =>
      obtain ⟨rfl, later⟩ := going.of_pure
      exact ⟨_, .failed asked (.done () w₁) (.nil later), .failed_first⟩
    | ok found? =>
      obtain ⟨_, w₂, searched, ended⟩ := going.exists_of_bind
      obtain ⟨rfl, later⟩ := ended.of_pure
      obtain ⟨calls, round, all⟩ := ih searched
      exact ⟨_, .answered asked (round.later later), all.found_cons⟩

/-- A search ends if each of its calls does. -/
theorem finishes_visitFirst {resources : List Resource} (first? : Option Failure)
    (answers : ∀ r ∈ resources, ∀ w, (supplier.retrieve r m).Finishes w fun _ _ => True)
    (w : World S) :
    (retrieveFirst.visit supplier m first? resources).Finishes w fun _ _ => True := by
  induction resources generalizing first? w with
  | nil => exact Program.finishes_pure trivial
  | cons r rest ih =>
    obtain ⟨here, there⟩ := List.forall_mem_cons.1 answers
    apply (here w).bind
    intro answer w₁ _
    obtain e | _ | h := answer
    · have said : (passing r e : Action S Unit).Finishes w₁ fun _ _ => True := ⟨_, _, rfl, trivial⟩
      exact said.bind fun _ w₂ _ => ih _ there w₂
    · exact ih _ there w₁
    · exact Program.finishes_pure trivial

theorem finishes_visitAll {resources : List Resource}
    (answers : ∀ r ∈ resources, ∀ w, (supplier.retrieve r m).Finishes w fun _ _ => True)
    (w : World S) : (retrieveAll.visit supplier m resources).Finishes w fun _ _ => True := by
  induction resources generalizing w with
  | nil => exact Program.finishes_pure trivial
  | cons r rest ih =>
    obtain ⟨here, there⟩ := List.forall_mem_cons.1 answers
    apply (here w).bind
    intro answer w₁ _
    cases answer with
    | error => exact Program.finishes_pure trivial
    | ok => exact (ih there w₁).bind fun _ _ _ => Program.finishes_pure trivial


end
end Search

/-! ## Other priorities -/

/-- The location with another priority. -/
def Location.ranked (priority : Location → Int) (l : Location) : Location :=
  { l with priority := priority l }

def Resource.ranked (priority : Location → Int) (r : Resource) : Resource :=
  { r with location := r.location.ranked priority }

def Spread.ranked (priority : Location → Int) (spread : Spread) : Spread where
  locations := spread.locations.map (·.ranked priority)
  path := spread.path
  inhabited := by simp [spread.inhabited]

/-- The supplier as it answers for locations with other priorities. -/
def Supplier.ranked {S H : Type} (priority : Location → Int) (supplier : Supplier S H) :
    Supplier S H :=
  { supplier with retrieve := fun r => supplier.retrieve (r.ranked priority) }

namespace Search
variable {S H : Type} (supplier : Supplier S H) (m : Metadata) (priority : Location → Int)

theorem resources_ranked (spread : Spread) :
    (spread.ranked priority).resources = spread.resources.map (·.ranked priority) := by
  simp [Spread.resources, Spread.ranked, Resource.ranked, Function.comp_def]

theorem visitFirst_ranked (first? : Option Failure) (resources : List Resource) :
    retrieveFirst.visit supplier m first? (resources.map (·.ranked priority)) =
      retrieveFirst.visit (supplier.ranked priority) m first? resources := by
  induction resources generalizing first? with
  | nil => rfl
  | cons r rest ih =>
    simp only [List.map_cons, retrieveFirst.visit, ih]
    rfl

theorem visitAll_ranked (resources : List Resource) :
    retrieveAll.visit supplier m (resources.map (·.ranked priority)) =
      retrieveAll.visit (supplier.ranked priority) m resources := by
  induction resources with
  | nil => rfl
  | cons r rest ih =>
    simp only [List.map_cons, retrieveAll.visit, ih]
    rfl

/-- **Searches follow the order of the caller.** -/
theorem searches_follow_the_order (spread : Spread) (others : World S → World S → Prop) :
    (∀ w result w', (retrieveFirst supplier spread m).Yields others w result w' →
      ∃ calls, Round others (supplier.retrieve · m) passing calls w w' ∧
        FirstHit spread.resources calls result ∧ calls.map (·.1) <+: spread.resources) ∧
    (∀ w result w', (retrieveAll supplier spread m).Yields others w result w' →
      ∃ calls, Round others (supplier.retrieve · m) (fun _ _ => pure ()) calls w w' ∧
        AllHits spread.resources calls result ∧ calls.map (·.1) <+: spread.resources) ∧
    ((∀ r ∈ spread.resources, ∀ w, (supplier.retrieve r m).Finishes w fun _ _ => True) →
      ∀ w, (retrieveFirst supplier spread m).Finishes w (fun _ _ => True) ∧
        (retrieveAll supplier spread m).Finishes w fun _ _ => True) ∧
    retrieveFirst supplier (spread.ranked priority) m =
      retrieveFirst (supplier.ranked priority) spread m ∧
    retrieveAll supplier (spread.ranked priority) m =
      retrieveAll (supplier.ranked priority) spread m := by
  refine ⟨fun w result w' yields => ?_, fun w result w' yields => ?_, fun answers w => ?_, ?_, ?_⟩
  · obtain ⟨calls, round, first⟩ := round_of_visitFirst yields
    exact ⟨calls, round, first, first.asked⟩
  · obtain ⟨calls, round, all⟩ := round_of_visitAll yields
    exact ⟨calls, round, all, all.asked⟩
  · exact ⟨finishes_visitFirst none answers w, finishes_visitAll answers w⟩
  · rw [retrieveFirst, resources_ranked, visitFirst_ranked, retrieveFirst]
  · rw [retrieveAll, resources_ranked, visitAll_ranked, retrieveAll]

/-- A supplier that fails when it is asked first, has nothing when it is asked next, and
whatever is wanted from then on. It hands out the number of the call. -/
def counting : Supplier Nat Nat where
  retrieve _ _ := Program.change fun w =>
    (if w.storage = 0 then .error (.io .notFound)
      else .ok (if w.storage = 1 then none else some w.storage),
      { w with storage := w.storage + 1 })
  store _ _ _ := return .error (.io .notFound)
  publish _ _ _ _ := return .ok false
  delete _ _ := return .ok false
  list _ := return .ok []

/-- Four places in the order, of which the first location has the last one as well. -/
def fourfold : Spread where
  locations := [{ name := "a", uri := "a", priority := 9 }, { name := "b", uri := "b" },
    { name := "c", uri := "c", priority := 5 }, { name := "a", uri := "a", priority := 9 }]
  path := .root
  inhabited := by simp

theorem third_of_four_is_found :
    (∀ w, (retrieveFirst counting fourfold ∅).Finishes w fun _ _ => True) ∧
    ∃ calls w', Round (fun _ _ => False) (counting.retrieve · ∅) passing calls { storage := 0 } w' ∧
      FirstHit fourfold.resources calls (.ok (some 2)) ∧
      calls.map (·.1) <+: fourfold.resources := by
  obtain ⟨first, _, ends, _⟩ :=
    searches_follow_the_order counting ∅ (fun _ => 0) fourfold fun _ _ => False
  have answers : ∀ r ∈ fourfold.resources, ∀ w,
      (counting.retrieve r ∅).Finishes w fun _ _ => True :=
    fun _ _ _ => ⟨_, _, rfl, trivial⟩
  refine ⟨fun w => (ends answers w).1, ?_⟩
  obtain ⟨calls, found⟩ := first { storage := 0 } (.ok (some 2)) _ (.of_run rfl)
  exact ⟨calls, _, found⟩

end Search
end ArtifactCache
