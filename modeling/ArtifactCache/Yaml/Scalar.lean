import ArtifactCache.Text.Digits
import ArtifactCache.Yaml.Cursor

/-!
The text of scalars. Line ends inside plain and quoted scalars are folded; a
block scalar keeps or folds its lines as its header says. Each function
answers the text and the place behind it, or `none` where the scalar is
malformed.
-/
namespace ArtifactCache.Yaml

/-- What a gap between two words adds to a text. One line end becomes a
space; of several, all but the first remain. -/
def foldGap (gap : List Char) : List Char :=
  match gap.filter isBreak with
  | [] => gap
  | ['\n'] => [' ']
  | '\n' :: more => more
  | breaks => breaks

/-! ## Plain scalars -/

def isFlowIndicator (c : Char) : Bool := [',', '[', ']', '\x7b', '\x7d'].contains c

/-- The characters up to the next gap, or to an indicator that ends the scalar. -/
def plainWord (inFlow : Bool) : List Char → Option (List Char)
  | [] => some []
  | c :: rest =>
    if isGap c then some []
    else if c = ':' && inFlow && rest.head?.any (fun d => d = '?' || isFlowIndicator d) then none
    else if c = ':' && endsWord rest || inFlow && isFlowIndicator c then some []
    else (plainWord inFlow rest).map (c :: ·)

/-- A tab stands in the indentation of a line after the first. -/
def indentsByTab (indent : Nat) (column? : Option Nat) : List Char → Bool
  | [] => false
  | c :: rest =>
    if isBreak c then indentsByTab indent (some 0) rest
    else match column? with
      | none => indentsByTab indent none rest
      | some column =>
        c = '\t' && column < indent || indentsByTab indent (some (column + 1)) rest

/-- The further words of a plain scalar, and whether a line ended behind the
last one. The cursor stands behind a word. -/
def plainRest (inFlow : Bool) (indent : Nat) (text : String) (c : Cursor) :
    Option (String × Cursor × Bool) :=
  let gap := c.run isGap
  if gap = [] then some (text, c, false)
  else if indentsByTab indent none gap then none
  else
    let behind := c.skipWhile isGap
    let ended := some (text, behind, gap.any isBreak)
    if !inFlow && behind.column < indent then ended
    else if behind.atDocumentMark || behind.rest.head? = some '#' then ended
    else match plainWord inFlow behind.rest with
      | none => none
      | some [] => ended
      | some word =>
        plainRest inFlow indent (text ++ String.ofList (foldGap gap ++ word))
          (behind.skip word.length)
termination_by c.rest.length
decreasing_by
  exact Nat.lt_of_le_of_lt (Cursor.length_skip_le _ _) (Cursor.length_skipWhile_lt ‹¬_›)

def plain (inFlow : Bool) (indent : Nat) (c : Cursor) : Option (String × Cursor × Bool) := do
  let word ← plainWord inFlow c.rest
  plainRest inFlow indent (String.ofList word) (c.skip word.length)

/-! ## Quoted scalars -/

def escapes : List (Char × Char) :=
  [('0', '\x00'), ('a', '\x07'), ('b', '\x08'), ('t', '\t'), ('\t', '\t'), ('n', '\n'),
    ('v', '\x0b'), ('f', '\x0c'), ('r', '\r'), ('e', '\x1b'), (' ', ' '), ('"', '"'),
    ('/', '/'), ('\\', '\\'), ('N', '\u0085'), ('_', '\u00a0'), ('L', '\u2028'), ('P', '\u2029')]

/-- The character of a number in hexadecimal digits. -/
def charOfHex? (digits : List Char) : Option Char := do
  let n ← Text.digitsIn 16 digits
  if n < 0xD800 || (0xDFFF < n && n < 0x110000) then some (Char.ofNat n) else none

/-- The character that an escape stands for, and how many characters follow
the backslash. -/
def escape? : List Char → Option (Char × Nat)
  | [] => none
  | c :: rest =>
    let byNumber (n : Nat) : Option (Char × Nat) :=
      if (rest.take n).length = n then (charOfHex? (rest.take n)).map (·, n + 1) else none
    if c = 'x' then byNumber 2
    else if c = 'u' then byNumber 4
    else if c = 'U' then byNumber 8
    else (escapes.lookup c).map (·, 1)

/-- What stands next in a quoted scalar: the text that it adds and how many
characters it takes after the first, or the closing quote. -/
inductive QuotedPiece
  | piece (text : List Char) (more : Nat)
  | closing

/-- The piece that begins with a character. -/
def quotedPiece (double : Bool) (c : Char) (rest : List Char) : Option QuotedPiece :=
  if isGap c then
    let gap := rest.takeWhile isGap
    some (.piece (foldGap (c :: gap)) gap.length)
  else if double && c = '"' then some .closing
  else if !double && c = '\'' then
    if rest.head? = some '\'' then some (.piece ['\''] 1) else some .closing
  else if double && c = '\\' then
    if rest.head?.any isBreak then
      let gap := (rest.drop 1).takeWhile isGap
      some (.piece (gap.filter isBreak) (gap.length + 1))
    else (escape? rest).map fun (x, n) => .piece [x] n
  else some (.piece [c] 0)

set_option linter.unusedVariables false in
/-- The text up to the closing quote. The cursor stands behind the opening one. -/
def quoted (double : Bool) (text : String) (c : Cursor) : Option (String × Cursor) :=
  if c.atDocumentMark then none
  else match hrest : c.rest with
    | [] => none
    | x :: rest => match quotedPiece double x rest with
      | none => none
      | some .closing => some (text, c.next)
      | some (.piece added more) =>
        quoted double (text ++ String.ofList added) (c.skip (more + 1))
termination_by c.rest.length
decreasing_by
  exact Nat.lt_of_lt_of_eq (Cursor.length_skip_lt (Nat.succ_ne_zero _) (by simp [hrest])) (by rw [hrest])

/-! ## Block scalars -/

/-- What becomes of the line ends behind the last line. -/
inductive Chomping
  | strip | clip | keep
  deriving DecidableEq, Repr

structure BlockHeader where
  chomping : Chomping := .clip
  /-- The indentation relative to the block around, where it is given. -/
  indentation? : Option Nat := none

/-- Reads the indicators behind the bar, in either order. -/
def BlockHeader.read (cs : List Char) : Option (BlockHeader × Nat) :=
  let chomping? : List Char → Option Chomping
    | '+' :: _ => some .keep
    | '-' :: _ => some .strip
    | _ => none
  let digit? : List Char → Option Nat
    | c :: _ => if c.isDigit then some (c.toNat - 48) else none
    | [] => none
  let made (chomping : Option Chomping) (indentation? : Option Nat) (length : Nat) :=
    if indentation? = some 0 then none
    else some ({ chomping := chomping.getD .clip, indentation? : BlockHeader }, length)
  match chomping?  cs, digit? cs with
  | some chomping, _ =>
    match digit? (cs.drop 1) with
    | some n => made (some chomping) (some n) 2
    | none => made (some chomping) none 1
  | none, some n =>
    match chomping? (cs.drop 1) with
    | some chomping => made (some chomping) (some n) 2
    | none => made none (some n) 1
  | none, none => made none none 0

set_option linter.unusedVariables false in
/-- Skips empty lines and indentation, up to the given column if there is one.
Answers the line ends and the rightmost column that was reached. -/
def blockGap (indent? : Option Nat) (breaks : List Char) (reach : Nat) (c : Cursor) :
    Option (List Char × Nat × Cursor) :=
  let spaces := c.run (· = ' ')
  let width := match indent? with
    | none => spaces.length
    | some indent => min spaces.length (indent - c.column)
  let behind := c.skip width
  let reach := max reach behind.column
  let indenting := match indent? with
    | none => true
    | some indent => behind.column < indent
  match hrest : behind.rest with
  | x :: _ =>
    if indenting && x = '\t' then none
    else if isBreak x then blockGap indent? (breaks ++ [x]) reach behind.next
    else some (breaks, reach, behind)
  | [] => some (breaks, reach, behind)
termination_by c.rest.length
decreasing_by
  exact Nat.lt_of_lt_of_le (Cursor.length_next_lt (by rw [hrest]; simp)) (Cursor.length_skip_le _ _)

theorem length_blockGap_le {indent? : Option Nat} {breaks more : List Char} {reach column : Nat}
    {c next : Cursor} (h : blockGap indent? breaks reach c = some (more, column, next)) :
    next.rest.length ≤ c.rest.length := by
  fun_induction blockGap indent? breaks reach c with
  | case1 => simp at h
  | case2 breaks reach c spaces width behind reach' indenting x rest hrest _ _ ih =>
    exact Nat.le_trans (ih h) (Nat.le_trans (Cursor.length_next_le _) (Cursor.length_skip_le _ _))
  | case3 =>
    obtain ⟨_, _, rfl⟩ : _ ∧ _ ∧ _ := by simpa using h
    exact Cursor.length_skip_le _ _
  | case4 =>
    obtain ⟨_, _, rfl⟩ : _ ∧ _ ∧ _ := by simpa using h
    exact Cursor.length_skip_le _ _

structure BlockLine where
  text : List Char
  /-- The line ends behind it, those of empty lines included. -/
  breaks : List Char

set_option linter.unusedVariables false in
/-- The lines that are indented by `indent`. -/
def blockLines (indent : Nat) (c : Cursor) : Option (List BlockLine × Cursor) :=
  if c.column = indent ∧ c.rest ≠ [] then
    let behind := c.skipWhile fun x => !isBreak x
    match hgap : blockGap (some indent) (behind.rest.take 1) 0 behind.next with
    | none => none
    | some (breaks, _, next) =>
      (blockLines indent next).map fun (lines, last) =>
        ({ text := c.run fun x => !isBreak x, breaks } :: lines, last)
  else some ([], c)
termination_by c.rest.length
decreasing_by
  exact Nat.lt_of_le_of_lt (length_blockGap_le hgap) (Cursor.length_next_skipWhile_lt _ (‹_ ∧ _›).2)

/-- What stands between two lines. Where lines are folded, that is a space or
the ends of the empty lines, unless one of the two begins with a blank. -/
def blockGlue (folded : Bool) (line next : BlockLine) : List Char :=
  if folded && line.breaks.head? = some '\n' && !line.text.head?.any isSpace
      && !next.text.head?.any isSpace then
    if line.breaks.length = 1 then [' '] else line.breaks.drop 1
  else line.breaks

def blockText (folded : Bool) (chomping : Chomping) : List BlockLine → List Char
  | [] => []
  | [line] => line.text ++ match chomping with
    | .strip => []
    | .clip => line.breaks.take 1
    | .keep => line.breaks
  | line :: next :: rest =>
    line.text ++ blockGlue folded line next ++ blockText folded chomping (next :: rest)

/-- A block scalar inside a block whose content is indented by at least `least`. The
cursor stands behind the bar. -/
def block (folded : Bool) (least : Nat) (c : Cursor) : Option (String × Cursor) := do
  let (header, length) ← BlockHeader.read c.rest
  let c := (c.skip length).skipWhile isSpace
  let c := if c.rest.head? = some '#' then c.skipWhile fun x => !isBreak x else c
  if !c.rest.head?.all isBreak then none
  let given := header.indentation?.map (least - 1 + ·)
  let (breaks, reach, c) ← blockGap given [] 0 c.next
  let indent := given.getD (max reach (max least 1))
  let (lines, c) ← blockLines indent c
  let text := match lines with
    | [] => if header.chomping = .keep then breaks else []
    | lines => breaks ++ blockText folded header.chomping lines
  return (String.ofList text, c)

end ArtifactCache.Yaml
