import LayeredConfig.Document.Yaml.Scalar

/-!
# YAML tokens

Indentation opens and closes blocks. Whether a scalar or a bracket begins a key shows only at the
colon after it, on the same line; until then it is a candidate, and the colon puts the token of the
key before it.
-/

namespace LayeredConfig.Yaml

open Document (Failure)

inductive Token where
  | documentStart
  | documentEnd
  | blockSequence
  | blockMapping
  | blockEnd
  | blockItem
  | flowSequence
  | flowSequenceEnd
  | flowMapping
  | flowMappingEnd
  | flowSeparator
  | key
  | value
  | scalar (plain : Bool) (text : List Char)
  deriving DecidableEq, Repr

/-- A token that may begin a key: its number and place, and whether it has to. -/
structure Candidate where
  number : Nat
  index : Nat
  line : Nat
  column : Nat
  needed : Bool
  deriving Repr

/-- A text that is being read: the tokens so far, the columns of the open blocks, how deep in
brackets it is, whether a key may come next, and the candidates by depth. -/
structure Lexing where
  cursor : Cursor
  tokens : List Token
  blocks : List Nat
  depth : Nat
  keyAllowed : Bool
  candidates : List (Nat × Candidate)

namespace Lexing

def ofText (cs : List Char) : Lexing :=
  ⟨Cursor.ofText cs, [], [], 0, true, []⟩

def push (s : Lexing) (t : Token) : Lexing :=
  { s with tokens := s.tokens ++ [t] }

def insertAt (s : Lexing) (number : Nat) (t : Token) : Lexing :=
  { s with tokens := s.tokens.take number ++ t :: s.tokens.drop number }

/-- Adds a token of so many characters. -/
def pushMark (s : Lexing) (width : Nat) (t : Token) : Lexing :=
  { s with cursor := s.cursor.skip width }.push t

/-- Skips blanks and comments. Outside of brackets a key may begin on a new line. -/
def skipBlanks : (fuel : Nat) → Lexing → Lexing
  | 0, s => s
  | fuel + 1, s =>
    let c := s.cursor.skipWhile (· == ' ')
    let c := if c.rest.head? = some '#' then c.skipWhile (!isBreak ·) else c
    if c.rest.head?.any isBreak then
      skipBlanks fuel { s with cursor := c.next, keyAllowed := s.keyAllowed || s.depth == 0 }
    else { s with cursor := c }

/-- Whether a token can no longer begin a key: its line is over, or it is too long. -/
def isStale (s : Lexing) (k : Candidate) : Bool :=
  k.line ≠ s.cursor.line || 1024 < s.cursor.index - k.index

/-- Drops stale candidates, none of which may be needed. -/
def dropStale? (s : Lexing) : Option Lexing :=
  let (stale, live) := s.candidates.partition fun (_, k) => s.isStale k
  if stale.any (·.2.needed) then none else some { s with candidates := live }

/-- Drops the candidate at this depth, which must not be needed. -/
def dropCandidate? (s : Lexing) : Option Lexing :=
  match s.candidates.lookup s.depth with
  | none => some s
  | some k =>
    if k.needed then none
    else some { s with candidates := s.candidates.filter (·.1 ≠ s.depth) }

/-- The token that comes next may begin a key, if one may come here. At the column of a block it
has to. -/
def addCandidate? (s : Lexing) : Option Lexing :=
  if s.keyAllowed then do
    let s ← s.dropCandidate?
    let c := s.cursor
    let needed := s.depth == 0 && s.blocks.head? == some c.column
    let k : Candidate := ⟨s.tokens.length, c.index, c.line, c.column, needed⟩
    some { s with candidates := (s.depth, k) :: s.candidates }
  else some s

/-- Closes the open blocks that satisfy a condition, from the innermost on. -/
def closeBlocks (s : Lexing) (ends : Nat → Bool) : Lexing :=
  if s.depth = 0 then
    let closed := s.blocks.takeWhile ends
    { s with
      blocks := s.blocks.dropWhile ends
      tokens := s.tokens ++ List.replicate closed.length .blockEnd }
  else s

/-- Opens a block at a column, with its token at a number, if it is deeper than the last. -/
def openBlock (s : Lexing) (column number : Nat) (t : Token) : Lexing :=
  if s.depth = 0 && s.blocks.head?.all (· < column) then
    { s.insertAt number t with blocks := column :: s.blocks }
  else s

/-- A mark between documents closes all blocks. -/
def documentMark? (s : Lexing) (t : Token) : Option Lexing := do
  let s ← (s.closeBlocks fun _ => true).dropCandidate?
  some ({ s with keyAllowed := false }.pushMark 3 t)

def openFlow? (s : Lexing) (t : Token) : Option Lexing := do
  let s ← s.addCandidate?
  some ({ s with depth := s.depth + 1, keyAllowed := true }.pushMark 1 t)

def closeFlow? (s : Lexing) (t : Token) : Option Lexing := do
  let s ← s.dropCandidate?
  if s.depth = 0 then none
  else some ({ s with depth := s.depth - 1, keyAllowed := false }.pushMark 1 t)

def separate? (s : Lexing) : Option Lexing := do
  let s ← s.dropCandidate?
  some ({ s with keyAllowed := true }.pushMark 1 .flowSeparator)

/-- The mark of an item or of an explicit key, which opens a block where a key may begin. -/
def blockMark? (s : Lexing) (block mark : Token) (keyAllowed : Bool) : Option Lexing := do
  if s.depth = 0 && !s.keyAllowed then none
  let s ← (s.openBlock s.cursor.column s.tokens.length block).dropCandidate?
  some ({ s with keyAllowed }.pushMark 1 mark)

/-- A colon turns the candidate at this depth into a key; without one it ends an explicit key. -/
def value? (s : Lexing) : Option Lexing :=
  match s.candidates.lookup s.depth with
  | some k =>
    let s := { s with candidates := s.candidates.filter (·.1 ≠ s.depth), keyAllowed := false }
    some (((s.insertAt k.number .key).openBlock k.column k.number .blockMapping).pushMark 1 .value)
  | none => s.blockMark? .blockMapping .value (s.depth = 0)

def quoted (s : Lexing) (quote : Char) : Except Failure Lexing := do
  let s ← Failure.ofOption s.addCandidate?
  let (text, after) ← takeQuoted quote (s.cursor.rest.length + 1) s.cursor.next
  .ok ({ s with cursor := after, keyAllowed := false }.push (.scalar false text))

def plain? (s : Lexing) : Option Lexing := do
  let s ← s.addCandidate?
  let indent := (s.blocks.head?.map (· + 1)).getD 0
  let (text, after, endsLine) :=
    takePlain (s.depth ≠ 0) indent (s.cursor.rest.length + 1) s.cursor
  some ({ s with cursor := after, keyAllowed := endsLine }.push (.scalar true text))

/-- The marks that no plain scalar begins with, unless a few of them are followed by a text. -/
def isIndicator (c : Char) : Bool :=
  isBlank c || "-?:,[]\x7b\x7d#&*!|>'\"%@\x60".toList.contains c

/-- Whether a plain scalar begins here. -/
def startsPlain (s : Lexing) (c : Char) (rest : List Char) : Bool :=
  !isIndicator c ||
    (!startsBlank rest && (c == '-' || (s.depth == 0 && (c == '?' || c == ':'))))

/-- Reads the token that a character other than a quote begins. -/
def unquoted? (s : Lexing) (c : Char) (rest : List Char) : Option Lexing :=
  let ends := s.depth ≠ 0 || startsBlank rest
  if s.cursor.column = 0 && startsMark '-' (c :: rest) then s.documentMark? .documentStart
  else if s.cursor.column = 0 && startsMark '.' (c :: rest) then s.documentMark? .documentEnd
  else if c = '[' then s.openFlow? .flowSequence
  else if c = '\x7b' then s.openFlow? .flowMapping
  else if c = ']' then s.closeFlow? .flowSequenceEnd
  else if c = '\x7d' then s.closeFlow? .flowMappingEnd
  else if c = ',' then s.separate?
  else if c = '-' && startsBlank rest then s.blockMark? .blockSequence .blockItem true
  else if c = '?' && ends then s.blockMark? .blockMapping .key (s.depth = 0)
  else if c = ':' && ends then s.value?
  else if s.startsPlain c rest then s.plain?
  else none

/-- Reads the token that a character begins. -/
def token (s : Lexing) (c : Char) (rest : List Char) : Except Failure Lexing :=
  if c = '\'' || c = '"' then s.quoted c else Failure.ofOption (s.unquoted? c rest)

/-- Reads tokens up to the end, where all blocks are closed. -/
def run : (fuel : Nat) → Lexing → Except Failure (List Token)
  | 0, _ => .error .malformed
  | fuel + 1, s => do
    let s ← Failure.ofOption (s.skipBlanks (s.cursor.rest.length + 1)).dropStale?
    let s := s.closeBlocks fun block => s.cursor.column < block
    match s.cursor.rest with
    | [] => do
      let s ← Failure.ofOption (s.closeBlocks fun _ => true).dropCandidate?
      .ok s.tokens
    | c :: rest => do
      let s ← s.token c rest
      run fuel s

end Lexing

/-- The tokens of a text. -/
def tokensOf (cs : List Char) : Except Failure (List Token) :=
  (Lexing.ofText cs).run (cs.length + 2)

end LayeredConfig.Yaml
