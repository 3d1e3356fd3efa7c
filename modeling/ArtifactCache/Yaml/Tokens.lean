import ArtifactCache.Text.Pieces
import ArtifactCache.Yaml.Scalar
import ArtifactCache.Yaml.Tag
import ArtifactCache.Yaml.Token

/-!
From a text to its tokens. Blocks open and close where the column says so. A
mapping key without an indicator shows only at the colon behind it, so every
place where a key might begin is remembered, and the key token is put there
afterwards.
-/
namespace ArtifactCache.Yaml

/-- A place where a key might begin. -/
structure KeyPlace where
  /-- The number of tokens in front of it. -/
  position : Nat
  offset : Nat
  line : Nat
  column : Nat
  /-- Nothing but a key can stand here. -/
  required : Bool

structure Scanner where
  cursor : Cursor
  tokens : Array Token := #[]
  /-- The columns of the open blocks, the innermost first. -/
  indents : List Nat := []
  /-- The last place of a key in each open flow collection, the innermost
  first, and outside of all. -/
  keys : List (Option KeyPlace) := [none]
  /-- A key may begin here. -/
  keyAllowed : Bool := true

namespace Scanner

def inFlow (s : Scanner) : Bool := !(s.keys.drop 1).isEmpty

def emit (t : Token) (s : Scanner) : Scanner := { s with tokens := s.tokens.push t }

/-- The token of the next `n` characters. -/
def emitMark (n : Nat) (t : Token) (s : Scanner) : Scanner :=
  { s with cursor := s.cursor.skip n, tokens := s.tokens.push t }

/-- The column from which on the content of the innermost block has to begin. -/
def contentColumn (s : Scanner) : Nat := (s.indents.head?.map (· + 1)).getD 0

/-- The longest key that needs no indicator. -/
def maxKey : Nat := 1024

/-- Forgets the last place of a key. Where nothing but a key can stand, it may
not be forgotten. -/
def dropKey (s : Scanner) : Option Scanner :=
  match s.keys with
  | some k :: outer => if k.required then none else some { s with keys := none :: outer }
  | _ => some s

/-- Forgets the last place of a key if it lies in an earlier line or too far
back. The places outside of an open flow collection wait for its end. -/
def dropStaleKey (s : Scanner) : Option Scanner :=
  match s.keys with
  | some k :: _ =>
    if k.line < s.cursor.line || k.offset + maxKey < s.cursor.offset then s.dropKey else some s
  | _ => some s

/-- Remembers this place, if a key may begin here. -/
def markKey (s : Scanner) : Option Scanner :=
  if s.keyAllowed then do
    let s ← s.dropKey
    let place : KeyPlace :=
      { position := s.tokens.size
        offset := s.cursor.offset, line := s.cursor.line, column := s.cursor.column
        required := !s.inFlow && s.indents.head? = some s.cursor.column }
    some { s with keys := some place :: s.keys.drop 1 }
  else some s

/-- Closes the blocks that begin to the right of the column. -/
def closeBlocks (column : Nat) (s : Scanner) : Scanner :=
  if s.inFlow then s
  else
    let closed := s.indents.takeWhile (column < ·)
    { s with
      indents := s.indents.drop closed.length
      tokens := closed.foldl (fun tokens _ => tokens.push .blockEnd) s.tokens }

def closeAllBlocks (s : Scanner) : Scanner :=
  if s.inFlow then s
  else
    { s with
      indents := [], tokens := s.indents.foldl (fun tokens _ => tokens.push .blockEnd) s.tokens }

/-- Opens a block at the column, unless one is open there. Its token goes in
front of those that follow the position. -/
def openBlock (column position : Nat) (t : Token) (s : Scanner) : Scanner :=
  if s.inFlow || s.indents.head?.any (column ≤ ·) then s
  else
    { s with
      indents := column :: s.indents
      tokens := s.tokens.insertIdxIfInBounds position t }

/-- The place behind blanks and a comment. Outside of flow collections a tab is
no blank where a key may begin. -/
def behindBlanks (s : Scanner) : Cursor :=
  let c := s.cursor
  let c := if c.column = 0 && c.rest.head? = some '\ufeff' then c.next else c
  let c := c.skipWhile fun x => x = ' ' || (x = '\t' && (s.inFlow || !s.keyAllowed))
  if c.rest.head? = some '#' then c.skipWhile fun x => !isBreak x else c

theorem length_behindBlanks_le (s : Scanner) :
    s.behindBlanks.rest.length ≤ s.cursor.rest.length := by
  have skipping (p : Char → Bool) (c : Cursor) := Cursor.length_skipWhile_le p c
  simp only [behindBlanks]
  split <;> split
  · exact Nat.le_trans (skipping _ _) (Nat.le_trans (skipping _ _) (Cursor.length_next_le _))
  · exact Nat.le_trans (skipping _ _) (Cursor.length_next_le _)
  · exact Nat.le_trans (skipping _ _) (skipping _ _)
  · exact skipping _ _

set_option linter.unusedVariables false in
/-- Goes to the next token, over blanks, comments and line ends. Outside of
flow collections a key may begin in every new line. -/
def toToken (s : Scanner) : Scanner :=
  let c := s.behindBlanks
  match hrest : c.rest with
  | [] => { s with cursor := c }
  | x :: _ =>
    if isBreak x then toToken { s with cursor := c.next, keyAllowed := s.keyAllowed || !s.inFlow }
    else { s with cursor := c }
termination_by s.cursor.rest.length
decreasing_by
  exact Nat.lt_of_lt_of_le (Cursor.length_next_lt (by rw [hrest]; simp)) (length_behindBlanks_le s)

/-! ## Single tokens -/

def fetchDocumentMark (t : Token) (s : Scanner) : Option Scanner := do
  let s ← s.closeAllBlocks.dropKey
  some { s.emitMark 3 t with keyAllowed := false }

def digits? (cs : List Char) : Option Nat := do
  if cs = [] || 9 < cs.length then none
  Text.digitsIn 10 cs

/-- A version in two numbers. -/
def version? (cs : List Char) : Option Directive := do
  let major := cs.takeWhile Char.isDigit
  if cs[major.length]? ≠ some '.' then none
  some (.version (← digits? major) (← digits? (cs.drop (major.length + 1))))

/-- What a handle stands for in tags. -/
def tagDirective? (handle stem : List Char) : Option Directive := do
  if Tag.handle? handle ≠ some handle then none
  if handle ≠ ['!'] && (handle.length < 2 || handle.getLast? ≠ some '!') then none
  if stem = [] || !stem.all Tag.isWideUriChar then none
  some (.tag (String.ofList handle) (← Tag.decode? stem))

/-- The words between blanks. -/
def wordsOf (line : List Char) : List (List Char) :=
  (Text.split ' ' (line.map fun c => if c = '\t' then ' ' else c)).filter (· ≠ [])

/-- The words in front of a comment. -/
def uncommented (words : List (List Char)) : List (List Char) :=
  words.takeWhile fun word => word.head? ≠ some '#'

/-- The directive of a line, behind its mark. A comment may follow a version at
once. -/
def directive? (line : List Char) : Option Directive :=
  let name := line.takeWhile fun c => !isSpace c
  let value := line.drop name.length
  if name = "YAML".toList then
    match wordsOf (value.takeWhile (· ≠ '#')) with
    | [version] => version? version
    | _ => none
  else if name = "TAG".toList then
    match uncommented (wordsOf value) with
    | [handle, stem] => tagDirective? handle stem
    | _ => none
  else none

/-- A directive takes the end of its line with it. -/
def fetchDirective (s : Scanner) : Option Scanner := do
  let s ← s.closeAllBlocks.dropKey
  let line := s.cursor.run fun x => !isBreak x
  let directive ← directive? (line.drop 1)
  some { s.emitMark (line.length + 1) (.directive directive) with keyAllowed := false }

def openFlow (t : Token) (s : Scanner) : Option Scanner := do
  let s ← s.markKey
  some { s.emitMark 1 t with keys := none :: s.keys, keyAllowed := true }

def closeFlow (t : Token) (s : Scanner) : Option Scanner := do
  let s ← s.dropKey
  let keys := if s.inFlow then s.keys.drop 1 else s.keys
  some { s.emitMark 1 t with keys, keyAllowed := false }

def fetchFlowEntry (s : Scanner) : Option Scanner := do
  let s ← s.dropKey
  some { s.emitMark 1 .flowEntry with keyAllowed := true }

def fetchBlockEntry (s : Scanner) : Option Scanner := do
  if !s.inFlow && !s.keyAllowed then none
  let s := s.openBlock s.cursor.column s.tokens.size .blockSequenceStart
  let s ← s.dropKey
  some { s.emitMark 1 .blockEntry with keyAllowed := true }

def fetchKey (s : Scanner) : Option Scanner := do
  if !s.inFlow && !s.keyAllowed then none
  let s := s.openBlock s.cursor.column s.tokens.size .blockMappingStart
  let s ← s.dropKey
  some { s.emitMark 1 .key with keyAllowed := !s.inFlow }

/-- The colon shows that a key began at the remembered place. -/
def fetchValue (s : Scanner) : Option Scanner :=
  match s.keys with
  | some k :: outer =>
    let s := { s with
      tokens := s.tokens.insertIdxIfInBounds k.position .key, keys := none :: outer }
    let s := s.openBlock k.column k.position .blockMappingStart
    some { s.emitMark 1 .value with keyAllowed := false }
  | _ => do
    if !s.inFlow && !s.keyAllowed then none
    let s := s.openBlock s.cursor.column s.tokens.size .blockMappingStart
    some { s.emitMark 1 .value with keyAllowed := !s.inFlow }

/-- The name of an anchor or alias. -/
def fetchName (token : String → Token) (s : Scanner) : Option Scanner := do
  let s ← s.markKey
  let name := (s.cursor.rest.drop 1).takeWhile isNameChar
  let behind := s.cursor.rest.drop (name.length + 1)
  if name = [] then none
  if !endsWord behind && !behind.head?.any ("?:,]\x7d%@\x60".toList.contains ·) then none
  some { s.emitMark (name.length + 1) (token (String.ofList name)) with keyAllowed := false }

def fetchTag (s : Scanner) : Option Scanner := do
  let s ← s.markKey
  let (handle, suffix, length) ← Tag.read s.cursor.rest
  let behind := s.cursor.rest.drop length
  if !endsWord behind && !(s.inFlow && behind.head? = some ',') then none
  some { s.emitMark length (.tag handle suffix) with keyAllowed := false }

def fetchBlock (folded : Bool) (s : Scanner) : Option Scanner := do
  let s ← s.dropKey
  let (text, cursor) ← block folded s.contentColumn s.cursor.next
  let token := .scalar (if folded then .folded else .literal) text
  some { s.emit token with cursor, keyAllowed := true }

def fetchQuoted (double : Bool) (s : Scanner) : Option Scanner := do
  let s ← s.markKey
  let (text, cursor) ← quoted double "" s.cursor.next
  some { s.emit (.scalar .quoted text) with cursor, keyAllowed := false }

def fetchPlain (s : Scanner) : Option Scanner := do
  let s ← s.markKey
  let (text, cursor, lineEnded) ← plain s.inFlow s.contentColumn s.cursor
  some { s.emit (.scalar .plain text) with cursor, keyAllowed := lineEnded }

/-- Characters that begin something else than a plain scalar. -/
def isIndicator (c : Char) : Bool := "-?:,[]\x7b\x7d#&*!|>'\"%@\x60".toList.contains c

/-- A plain scalar may begin with some indicators if no blank follows. -/
def beginsPlain (inFlow : Bool) (cs : List Char) : Bool :=
  match cs with
  | [] => false
  | c :: rest =>
    !(isGap c || isIndicator c) || (c = '-' && !rest.head?.any isSpace)
      || (!inFlow && (c = '?' || c = ':') && !endsWord rest)

/-- The token at the cursor. -/
def fetch (s : Scanner) : Option Scanner :=
  match s.cursor.rest with
  | [] => none
  | c :: rest =>
    let indicates := s.inFlow || endsWord rest
    if s.cursor.column = 0 && c = '%' then s.fetchDirective
    else if s.cursor.atMark Cursor.startMark then s.fetchDocumentMark .documentStart
    else if s.cursor.atMark Cursor.endMark then s.fetchDocumentMark .documentEnd
    else if c = '[' then s.openFlow .flowSequenceStart
    else if c = '\x7b' then s.openFlow .flowMappingStart
    else if c = ']' then s.closeFlow .flowSequenceEnd
    else if c = '\x7d' then s.closeFlow .flowMappingEnd
    else if c = ',' then s.fetchFlowEntry
    else if c = '-' && endsWord rest then s.fetchBlockEntry
    else if c = '?' && indicates then s.fetchKey
    else if c = ':' && indicates then s.fetchValue
    else if c = '*' then s.fetchName .reference
    else if c = '&' then s.fetchName .anchor
    else if c = '!' then s.fetchTag
    else if c = '|' && !s.inFlow then s.fetchBlock false
    else if c = '>' && !s.inFlow then s.fetchBlock true
    else if c = '\'' then s.fetchQuoted false
    else if c = '"' then s.fetchQuoted true
    else if beginsPlain s.inFlow s.cursor.rest then s.fetchPlain
    else none

/-- All tokens from the cursor on. The first argument bounds their number. -/
def tokensFrom : Nat → Scanner → Option (List Token)
  | 0, _ => none
  | fuel + 1, s => do
    let s ← s.toToken.dropStaleKey
    let s := s.closeBlocks s.cursor.column
    if s.cursor.rest = [] then
      let s ← s.closeAllBlocks.dropKey
      return s.tokens.toList
    else tokensFrom fuel (← s.fetch)

end Scanner

/-- The tokens of a text, if it can be cut into tokens. -/
def tokens? (text : String) : Option (List Token) :=
  if text.toList.all isAllowed then
    let rest := normalizeBreaks text.toList
    Scanner.tokensFrom (rest.length + 1) { cursor := { rest } }
  else none

end ArtifactCache.Yaml
