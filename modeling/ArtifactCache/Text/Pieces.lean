/-!
Cutting a text at a mark and joining pieces with it. `join_split` and
`split_join` say that the two undo each other, the second for pieces
that are free of the mark.
-/
namespace ArtifactCache.Text
variable {α : Type}

/-- The pieces one after the other, with one mark between two of them. -/
def join (mark : α) : List (List α) → List α
  | [] => []
  | [piece] => piece
  | piece :: next :: rest => piece ++ mark :: join mark (next :: rest)

theorem join_cons (mark : α) (piece : List α) {rest : List (List α)} (h : rest ≠ []) :
    join mark (piece :: rest) = piece ++ mark :: join mark rest := by
  cases rest with
  | nil => exact absurd rfl h
  | cons => rfl

theorem join_cons_cons (mark c : α) (piece : List α) (rest : List (List α)) :
    join mark ((c :: piece) :: rest) = c :: join mark (piece :: rest) := by
  cases rest <;> rfl

variable [DecidableEq α]

/-- The piece before the first mark and the pieces after it. -/
def cut (mark : α) : List α → List α × List (List α)
  | [] => ([], [])
  | c :: rest =>
    let (first, others) := cut mark rest
    if c = mark then ([], first :: others) else (c :: first, others)

/-- The pieces between the marks: `n` marks give `n + 1` pieces, empty ones included. -/
def split (mark : α) (text : List α) : List (List α) :=
  (cut mark text).1 :: (cut mark text).2

/-- Nothing is lost at the cuts. -/
theorem join_split (mark : α) (text : List α) : join mark (split mark text) = text := by
  induction text with
  | nil => rfl
  | cons c rest ih =>
    simp only [split, cut] at ih ⊢
    split
    · next h => rw [join_cons _ _ (by simp), ih, h]; rfl
    · rw [join_cons_cons, ih]

/-- No piece holds the mark. -/
theorem mark_notMem_of_mem_split {mark : α} {text piece : List α}
    (h : piece ∈ split mark text) : mark ∉ piece := by
  induction text generalizing piece with
  | nil => simp_all [split, cut]
  | cons c rest ih =>
    simp only [split, cut, List.mem_cons] at h ih
    split at h
    · rcases h with rfl | h
      · simp
      · exact ih (by simpa using h)
    · next hc =>
      rcases h with rfl | h
      · simp only [List.mem_cons, not_or]
        exact ⟨fun e => hc e.symm, ih (.inl rfl)⟩
      · exact ih (.inr h)

theorem cut_append_mark (mark : α) {piece : List α} (h : mark ∉ piece) (rest : List α) :
    cut mark (piece ++ mark :: rest) = (piece, split mark rest) := by
  induction piece with
  | nil => simp [cut, split]
  | cons c piece ih =>
    simp only [List.mem_cons, not_or] at h
    simp [cut, ih h.2, Ne.symm h.1]

theorem cut_eq_of_notMem (mark : α) {piece : List α} (h : mark ∉ piece) :
    cut mark piece = (piece, []) := by
  induction piece with
  | nil => rfl
  | cons c piece ih =>
    simp only [List.mem_cons, not_or] at h
    simp [cut, ih h.2, Ne.symm h.1]

/-- Pieces free of the mark come back as they were. -/
theorem split_join (mark : α) {pieces : List (List α)} (hne : pieces ≠ [])
    (h : ∀ piece ∈ pieces, mark ∉ piece) : split mark (join mark pieces) = pieces := by
  induction pieces with
  | nil => exact absurd rfl hne
  | cons piece rest ih =>
    have hp := h piece (by simp)
    cases rest with
    | nil => simp [join, split, cut_eq_of_notMem mark hp]
    | cons next rest =>
      rw [join_cons _ _ (by simp), split, cut_append_mark mark hp,
        ih (by simp) fun p hm => h p (by simp [hm])]

end ArtifactCache.Text
