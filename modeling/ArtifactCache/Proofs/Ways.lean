import ArtifactCache.Disk.Basic

/-!
Ways on a disk. Where a place is depends on the directories alone, so what
keeps them (`Disk.Passable`) keeps every way that leads somewhere.
-/
namespace ArtifactCache

/-- The operating system takes the text of the path. -/
structure Place.IsAccepted (p : Place) : Prop where
  noNul : p.path.hasNul = false
  notEmpty : p.path.size ≠ 0
  short : p.path.size ≤ Disk.maxPath

namespace Disk
variable {d d' : Disk} {p : Place} {dir path : List PathText}

/-- Where the way to a place begins. -/
def start (d : Disk) (p : Place) : List PathText :=
  if p.isAbsolute then [] else d.workingDirectory

/-! ## Following steps -/

theorem of_step_eq_error {name : PathText} {fault : Fault} (stops : step dir name = .error fault) :
    fault = .nameTooLong ∧ maxName < name.size := by
  unfold step at stops
  split at stops
  · cases stops
  split at stops
  · cases stops
  split at stops
  · exact ⟨(Except.error.inj stops).symm, ‹_›⟩
  · cases stops

theorem follow_cons_eq_ok_iff {name : PathText} {rest last : List PathText} :
    d.follow dir (name :: rest) = .ok last ↔
      ∃ next, step dir name = .ok next ∧ d.node? next = some .directory ∧
        d.follow next rest = .ok last := by
  rw [follow]
  cases step dir name with
  | error fault => simp
  | ok next =>
    cases node : d.node? next with
    | none => simp [node]
    | some n => cases n <;> simp [node]

theorem follow_append (d : Disk) (dir way more : List PathText) :
    d.follow dir (way ++ more) = (d.follow dir way).bind (d.follow · more) := by
  induction way generalizing dir with
  | nil => rfl
  | cons name rest ih =>
    rw [List.cons_append, follow, follow]
    cases step dir name with
    | error fault => rfl
    | ok next =>
      dsimp only
      cases d.node? next with
      | none => rfl
      | some n =>
        cases n with
        | file body => rfl
        | directory => exact ih next

theorem follow_append_eq_ok_iff {way more last : List PathText} :
    d.follow dir (way ++ more) = .ok last ↔
      ∃ mid, d.follow dir way = .ok mid ∧ d.follow mid more = .ok last := by
  rw [follow_append]
  cases d.follow dir way <;> simp [Except.bind]

/-- Following `way` one meets a file. -/
def MeetsFile (d : Disk) (dir way : List PathText) : Prop :=
  ∃ before name rest mid next n, way = before ++ name :: rest ∧
    d.follow dir before = .ok mid ∧ step mid name = .ok next ∧ d.node? next = some (.file n)

/-- A way ends before its end for want of a directory, at a name that is too
long, or at a file. -/
theorem of_follow_eq_error {way : List PathText} {fault : Fault}
    (stops : d.follow dir way = .error fault) :
    fault = .notFound ∨ fault = .nameTooLong ∧ (∃ name ∈ way, maxName < name.size) ∨
      fault = .notADirectory ∧ d.MeetsFile dir way := by
  induction way generalizing dir with
  | nil => cases stops
  | cons name rest ih =>
    rw [follow] at stops
    cases step : step dir name with
    | error fault' =>
      obtain ⟨rfl, long⟩ := of_step_eq_error step
      rw [step] at stops
      exact .inr (.inl ⟨(Except.error.inj stops).symm, name, List.mem_cons_self, long⟩)
    | ok next =>
      rw [step] at stops
      dsimp only at stops
      cases node : d.node? next with
      | none =>
        rw [node] at stops
        exact .inl (Except.error.inj stops).symm
      | some n =>
        rw [node] at stops
        cases n with
        | file n =>
          exact .inr (.inr ⟨(Except.error.inj stops).symm,
            [], name, rest, dir, next, n, rfl, rfl, step, node⟩)
        | directory =>
          obtain missing | ⟨eq, long, mem, size⟩ | ⟨eq, before, at_, after, mid, last, n, way,
            there, further, file⟩ := ih stops
          · exact .inl missing
          · exact .inr (.inl ⟨eq, long, List.mem_cons_of_mem _ mem, size⟩)
          · exact .inr (.inr ⟨eq, name :: before, at_, after, mid, last, n, by rw [way]; rfl,
              follow_cons_eq_ok_iff.2 ⟨next, step, node, there⟩, further, file⟩)

theorem follow_of_meetsFile {way : List PathText} (meets : d.MeetsFile dir way) :
    d.follow dir way = .error .notADirectory := by
  obtain ⟨before, name, rest, mid, next, n, rfl, there, step, file⟩ := meets
  rw [follow_append, there]
  simp [Except.bind, follow, step, file]

/-- A way leads to a directory, or has not yet left where it begins. -/
theorem node?_of_follow {way last : List PathText} (begins : d.node? dir = some .directory)
    (ends : d.follow dir way = .ok last) : d.node? last = some .directory := by
  induction way generalizing dir with
  | nil => exact Except.ok.inj ends ▸ begins
  | cons name rest ih =>
    obtain ⟨next, _, directory, ends⟩ := follow_cons_eq_ok_iff.1 ends
    exact ih directory ends

/-- A way that has left where it begins leads to a directory. -/
theorem node?_of_follow_cons {name : PathText} {rest last : List PathText}
    (ends : d.follow dir (name :: rest) = .ok last) : d.node? last = some .directory := by
  obtain ⟨next, _, directory, ends⟩ := follow_cons_eq_ok_iff.1 ends
  exact node?_of_follow directory ends

/-- What is a directory on the one disk is one on the other, and relative paths
begin at the same names. -/
structure Passable (d d' : Disk) : Prop where
  directory (path : List PathText) :
    d.node? path = some .directory → d'.node? path = some .directory
  workingDirectory : d'.workingDirectory = d.workingDirectory

theorem Passable.start (passable : Passable d d') (p : Place) : d'.start p = d.start p := by
  simp [Disk.start, passable.workingDirectory]

theorem Passable.follow (passable : Passable d d') {way last : List PathText}
    (ends : d.follow dir way = .ok last) : d'.follow dir way = .ok last := by
  induction way generalizing dir with
  | nil => exact ends
  | cons name rest ih =>
    obtain ⟨next, step, directory, ends⟩ := follow_cons_eq_ok_iff.1 ends
    exact follow_cons_eq_ok_iff.2 ⟨next, step, passable.directory next directory, ih ends⟩

/-! ## Where a place is -/

theorem above_eq_ok_iff :
    d.above p = .ok dir ↔ p.IsAccepted ∧ d.follow (d.start p) p.steps.dropLast = .ok dir := by
  rw [above, ← start]
  constructor
  · intro found
    split at found
    · cases found
    split at found
    · cases found
    split at found
    · cases found
    · exact ⟨⟨by simpa using ‹¬ p.path.hasNul = true›, ‹_›, by omega⟩, found⟩
  · rintro ⟨accepted, found⟩
    rw [if_neg (by simp [accepted.noNul]), if_neg accepted.notEmpty,
      if_neg (Nat.not_lt.2 accepted.short), found]

theorem locate_eq_ok_iff :
    d.locate p = .ok path ↔ p.IsAccepted ∧
      ∃ dir, d.follow (d.start p) p.steps.dropLast = .ok dir ∧
        match p.steps.getLast? with
        | none => path = dir
        | some name => step dir name = .ok path := by
  have split : d.locate p = .ok path ↔ ∃ dir, d.above p = .ok dir ∧
      match p.steps.getLast? with
      | none => path = dir
      | some name => step dir name = .ok path := by
    unfold locate
    cases d.above p with
    | error fault => cases p.steps.getLast? <;> simp
    | ok dir => cases p.steps.getLast? <;> simp [eq_comm]
  simp only [split, above_eq_ok_iff, and_assoc, exists_and_left]

theorem locate_of_long (noNul : p.path.hasNul = false) (notEmpty : p.path.size ≠ 0)
    (long : maxPath < p.path.size) : d.locate p = .error .nameTooLong := by
  have above : d.above p = .error .nameTooLong := by
    rw [above, if_neg (by simp [noNul]), if_neg notEmpty, if_pos long]
  unfold locate
  rw [above]

/-- The last step is taken from where the others lead. -/
theorem locate_of_accepted (accepted : p.IsAccepted) {way : List PathText} {last : PathText}
    (steps : p.steps = way ++ [last]) :
    d.locate p = (d.follow (d.start p) way).bind (step · last) := by
  have above : d.above p = d.follow (d.start p) way := by
    rw [above, if_neg (by simp [accepted.noNul]), if_neg accepted.notEmpty,
      if_neg (Nat.not_lt.2 accepted.short), steps, List.dropLast_concat, start]
  unfold locate
  rw [above, steps, List.getLast?_concat]
  cases d.follow (d.start p) way <;> rfl

theorem Passable.locate (passable : Passable d d') (found : d.locate p = .ok path) :
    d'.locate p = .ok path := by
  obtain ⟨accepted, dir, way, last⟩ := locate_eq_ok_iff.1 found
  exact locate_eq_ok_iff.2 ⟨accepted, dir, passable.start p ▸ passable.follow way, last⟩

/-! ## What is there -/

theorem stat_of_locate (found : d.locate p = .ok path) :
    d.stat p = match d.node? path with
      | none => .error .notFound
      | some (.file n) => if p.wantsDirectory then .error .notADirectory else .ok (.file n)
      | some .directory => .ok .directory := by
  unfold stat
  rw [found]
  rfl

theorem stat_of_error {fault : Fault} (lost : d.locate p = .error fault) :
    d.stat p = .error fault := by
  unfold stat
  rw [lost]
  rfl

theorem stat_eq_file_iff {n : Nat} :
    d.stat p = .ok (.file n) ↔ ∃ path, d.locate p = .ok path ∧
      d.node? path = some (.file n) ∧ p.wantsDirectory = false := by
  cases found : d.locate p with
  | error fault => simp [stat_of_error found]
  | ok path =>
    rw [stat_of_locate found]
    cases node : d.node? path with
    | none => simp [node]
    | some node' => cases node' <;> cases p.wantsDirectory <;> simp [node]

theorem stat_eq_directory_iff :
    d.stat p = .ok .directory ↔ ∃ path, d.locate p = .ok path ∧
      d.node? path = some .directory := by
  cases found : d.locate p with
  | error fault => simp [stat_of_error found]
  | ok path =>
    rw [stat_of_locate found]
    cases node : d.node? path with
    | none => simp [node]
    | some node' => cases node' <;> cases p.wantsDirectory <;> simp [node]

theorem isFile_iff : d.isFile p = true ↔ ∃ n, d.stat p = .ok (.file n) := by
  unfold isFile
  split <;> simp_all

theorem isDirectory_iff : d.isDirectory p = true ↔ d.stat p = .ok .directory := by
  unfold isDirectory
  split <;> simp_all

/-- A directory is found where the place leads. -/
theorem isDirectory_iff_locate : d.isDirectory p = true ↔
    ∃ path, d.locate p = .ok path ∧ d.node? path = some .directory :=
  isDirectory_iff.trans stat_eq_directory_iff

theorem isPresent_iff : d.isPresent p = true ↔ ∃ node, d.stat p = .ok node := by
  unfold isPresent
  cases d.stat p <;> simp [Except.toBool]

/-- A place is found where all its steps lead. -/
theorem locate_of_follow (accepted : p.IsAccepted)
    (ends : d.follow (d.start p) p.steps = .ok dir) : d.locate p = .ok dir := by
  obtain none_left | ⟨way, last, steps⟩ := List.eq_nil_or_concat p.steps
  · rw [none_left] at ends
    exact locate_eq_ok_iff.2 ⟨accepted, dir, by simpa [none_left] using ends, by simp [none_left]⟩
  · rw [List.concat_eq_append] at steps
    rw [locate_of_accepted accepted steps]
    rw [steps, follow_append_eq_ok_iff] at ends
    obtain ⟨mid, way, last⟩ := ends
    obtain ⟨next, stepped, _, here⟩ := follow_cons_eq_ok_iff.1 last
    obtain rfl : next = dir := Except.ok.inj here
    rw [way]
    exact stepped

/-- All the steps to a directory can be followed. -/
theorem follow_of_locate (found : d.locate p = .ok path) (there : d.node? path = some .directory) :
    d.follow (d.start p) p.steps = .ok path := by
  obtain ⟨_, dir, ends, last⟩ := locate_eq_ok_iff.1 found
  obtain none_left | ⟨way, name, steps⟩ := List.eq_nil_or_concat p.steps
  · rw [none_left] at ends last ⊢
    exact last ▸ ends
  · rw [List.concat_eq_append] at steps
    rw [steps, List.dropLast_concat] at ends
    rw [steps, List.getLast?_concat] at last
    rw [steps]
    exact follow_append_eq_ok_iff.2 ⟨dir, ends, follow_cons_eq_ok_iff.2 ⟨path, last, there, rfl⟩⟩

/-- A place is a directory if all its steps lead to one. -/
theorem isDirectory_of_follow (accepted : p.IsAccepted)
    (ends : d.follow (d.start p) p.steps = .ok dir) (there : d.node? dir = some .directory) :
    d.isDirectory p = true :=
  isDirectory_iff_locate.2 ⟨dir, locate_of_follow accepted ends, there⟩

/-- The content of the file at a place. -/
def contentOf (d : Disk) (p : Place) : Option Bytes :=
  match d.stat p with
  | .ok (.file n) => some (d.body n)
  | _ => none

theorem contentOf_of_file {n : Nat} (file : d.stat p = .ok (.file n)) :
    d.contentOf p = some (d.body n) := by simp [contentOf, file]

theorem contentOf_isSome : (d.contentOf p).isSome = d.isFile p := by
  unfold contentOf isFile
  rcases d.stat p with _ | _ | _ <;> rfl

theorem contentOf_eq_none_iff : d.contentOf p = none ↔ d.isFile p = false := by
  rw [← contentOf_isSome]
  simp

end Disk
end ArtifactCache
