/-!
A place in a text: what follows it, and where it is. Line ends of every kind
count as one character.
-/
namespace ArtifactCache.Yaml

def isBreak (c : Char) : Bool := c = '\n' || c = '\u2028' || c = '\u2029'

def isSpace (c : Char) : Bool := c = ' ' || c = '\t'

/-- What may stand between two words. -/
def isGap (c : Char) : Bool := isSpace c || isBreak c

/-- Here a word would end. -/
def endsWord : List Char → Bool
  | [] => true
  | c :: _ => isGap c

/-- What names of anchors and tags are made of. -/
def isNameChar (c : Char) : Bool := c.isAlphanum || c = '_' || c = '-'

/-- A document holds no controls other than tabs and line ends, and no
characters that are none. -/
def isAllowed (c : Char) : Bool :=
  let n := c.toNat
  n = 0x09 || n = 0x0A || n = 0x0D || (0x20 ≤ n && n ≤ 0x7E) || n = 0x85
    || (0xA0 ≤ n && n ≤ 0xFFFD) || 0x10000 ≤ n

/-- One line feed for each line end, except that the separators of lines and
of paragraphs stay as they are. -/
def normalizeBreaks : List Char → List Char
  | [] => []
  | '\r' :: '\n' :: rest => '\n' :: normalizeBreaks rest
  | c :: rest => (if c = '\r' || c = '\u0085' then '\n' else c) :: normalizeBreaks rest

structure Cursor where
  rest : List Char
  /-- In bytes. -/
  offset : Nat := 0
  line : Nat := 0
  column : Nat := 0

namespace Cursor

def next (c : Cursor) : Cursor :=
  match c.rest with
  | [] => c
  | x :: rest =>
    let offset := c.offset + x.utf8Size
    if isBreak x then { rest, offset, line := c.line + 1, column := 0 }
    else { c with rest, offset, column := c.column + 1 }

def skip : Nat → Cursor → Cursor
  | 0, c => c
  | n + 1, c => skip n c.next

def run (p : Char → Bool) (c : Cursor) : List Char := c.rest.takeWhile p

def skipWhile (p : Char → Bool) (c : Cursor) : Cursor := c.skip (c.run p).length

/-- A line that marks the start or the end of a document begins here. -/
def atMark (mark : List Char) (c : Cursor) : Bool :=
  c.column = 0 && mark.isPrefixOf c.rest && endsWord (c.rest.drop 3)

def startMark : List Char := ['-', '-', '-']

def endMark : List Char := ['.', '.', '.']

def atDocumentMark (c : Cursor) : Bool := c.atMark startMark || c.atMark endMark

theorem length_next_le (c : Cursor) : c.next.rest.length ≤ c.rest.length := by
  unfold next
  split
  · exact Nat.le_refl _
  · next x rest h => simp only; split <;> simp [h]

theorem length_next_lt {c : Cursor} (h : c.rest ≠ []) : c.next.rest.length < c.rest.length := by
  unfold next
  split
  · contradiction
  · next x rest h => simp only; split <;> simp [h]

theorem length_skip_le (n : Nat) (c : Cursor) : (c.skip n).rest.length ≤ c.rest.length := by
  induction n generalizing c with
  | zero => exact Nat.le_refl _
  | succ n ih => exact Nat.le_trans (ih _) (length_next_le c)

theorem length_skip_lt {n : Nat} {c : Cursor} (hn : n ≠ 0) (h : c.rest ≠ []) :
    (c.skip n).rest.length < c.rest.length := by
  match n with
  | 0 => contradiction
  | n + 1 => exact Nat.lt_of_le_of_lt (length_skip_le n _) (length_next_lt h)

theorem length_skipWhile_le (p : Char → Bool) (c : Cursor) :
    (c.skipWhile p).rest.length ≤ c.rest.length := length_skip_le _ c

theorem length_skipWhile_lt {p : Char → Bool} {c : Cursor} (h : c.run p ≠ []) :
    (c.skipWhile p).rest.length < c.rest.length :=
  length_skip_lt (by simpa using h) fun hrest => h (by simp [run, hrest])

/-- One step behind a run there is always less to come. -/
theorem length_next_skipWhile_lt (p : Char → Bool) {c : Cursor} (h : c.rest ≠ []) :
    (c.skipWhile p).next.rest.length < c.rest.length := by
  by_cases hrun : c.run p = []
  · simpa [skipWhile, skip, hrun] using length_next_lt h
  · exact Nat.lt_of_le_of_lt (length_next_le _) (length_skipWhile_lt hrun)

end Cursor
end ArtifactCache.Yaml
