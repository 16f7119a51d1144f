import LayeredConfig.Document.Parser
import LayeredConfig.Document.Yaml.Cursor
import LayeredConfig.Number.Numeral

/-!
# YAML scalars — quoted and plain texts

Lines of a scalar are folded: a line end becomes a space, and of several line ends in a row the
first is dropped. Blanks around line ends do not count.
-/

namespace LayeredConfig.Yaml

open Document (Failure)

/-- The line ends inside a scalar as text. -/
def folded (first : Char) (others : List Char) : List Char :=
  if first ≠ '\n' then first :: others else if others.isEmpty then [' '] else others

/-! ## Quoted scalars -/

/-- Further line ends with the blanks around them; a mark between documents must not follow. -/
def takeBreaks? : (fuel : Nat) → Cursor → Option (List Char × Cursor)
  | 0, _ => none
  | fuel + 1, c =>
    if startsSeparator c.rest then none
    else
      let c := c.skipWhile isSpace
      match c.rest with
      | [] => some ([], c)
      | ch :: _ =>
        if isBreak ch then
          (takeBreaks? fuel c.next).map fun (others, after) => (ch :: others, after)
        else some ([], c)

/-- What one letter after a backslash stands for. -/
def escaped? (c : Char) : Option Char :=
  List.lookup c
    [('0', '\x00'), ('a', '\x07'), ('b', '\x08'), ('t', '\t'), ('\t', '\t'), ('n', '\n'),
      ('v', '\x0b'), ('f', '\x0c'), ('r', '\r'), ('e', '\x1b'), (' ', ' '), ('"', '"'),
      ('\\', '\\'), ('/', '/'), ('N', '\x85'), ('_', '\xa0'), ('L', '\u2028'), ('P', '\u2029')]

/-- How many hexadecimal digits follow a letter after a backslash. -/
def hexWidth? (c : Char) : Option Nat :=
  List.lookup c [('x', 2), ('u', 4), ('U', 8)]

/-- The number that so many hexadecimal digits write. -/
def hexAt? (width : Nat) (cs : List Char) : Option Nat := do
  if cs.length < width then none
  let digits ← (cs.take width).mapM fun x => (Text.baseDigit? x).filter (· < 16)
  some (Numeral.ofDigits 16 digits)

/-- The character that so many hexadecimal digits name. A number of 32 bits is too large to be
looked for at all. -/
def takeHex (width : Nat) (c : Cursor) : Except Failure (List Char × Cursor) := do
  let code ← Failure.ofOption (hexAt? width c.rest)
  if code < 0x110000 then .ok ([Encoding.charOf code], c.skip width)
  else if code < 0x80000000 then .error .malformed
  else .error (.fault .codeTooLarge)

/-- What an escape stands for, after its backslash. -/
def takeEscape (c : Cursor) : Except Failure (List Char × Cursor) := do
  let ch ← Failure.ofOption c.rest.head?
  if isBreak ch then Failure.ofOption (takeBreaks? (c.rest.length + 1) c.next)
  else
    match escaped? ch, hexWidth? ch with
    | some x, _ => .ok ([x], c.next)
    | none, some width => takeHex width c.next
    | none, none => .error .malformed

/-- Blanks inside a quoted scalar: kept within a line, folded around line ends. -/
def takeBlanks? (c : Cursor) : Option (List Char × Cursor) := do
  let spaces := c.rest.takeWhile isSpace
  let c := c.skip spaces.length
  let ch ← c.rest.head?
  if isBreak ch then
    let (others, after) ← takeBreaks? (c.rest.length + 1) c.next
    some (folded ch others, after)
  else some (spaces, c)

/-- One part of a quoted scalar: a character, an escape, or blanks. -/
def takePart (quote : Char) (c : Cursor) : Except Failure (List Char × Cursor) := do
  let ch ← Failure.ofOption c.rest.head?
  if ch = quote then .ok ([quote], c.skip 2)
  else if quote = '"' && ch = '\\' then takeEscape c.next
  else if isBlank ch then Failure.ofOption (takeBlanks? c)
  else .ok ([ch], c.next)

/-- Whether the closing quote comes next. A single quote that is written twice does not close. -/
def closes (quote : Char) (cs : List Char) : Bool :=
  cs.head? == some quote && !(quote == '\'' && (cs.drop 1).head? == some quote)

/-- A quoted scalar after its opening quote, up to its closing quote. -/
def takeQuoted (quote : Char) : (fuel : Nat) → Cursor → Except Failure (List Char × Cursor)
  | 0, _ => .error .malformed
  | fuel + 1, c =>
    if closes quote c.rest then .ok ([], c.next)
    else do
      let (cs, rest) ← takePart quote c
      let (more, after) ← takeQuoted quote fuel rest
      .ok (cs ++ more, after)

/-! ## Plain scalars -/

/-- Marks of collections that are written in brackets. -/
def isFlowMark (c : Char) : Bool :=
  c == ',' || c == '[' || c == ']' || c == '\x7b' || c == '\x7d'

/-- Whether a plain scalar goes no further than here. -/
def stopsPlain (inFlow : Bool) : List Char → Bool
  | [] => true
  | c :: rest =>
    isBlank c || (c == ':' && (startsBlank rest || (inFlow && rest.head?.any isFlowMark))) ||
      (inFlow && (isFlowMark c || c == '?'))

/-- The word of a plain scalar at the front. -/
def wordAt (inFlow : Bool) : List Char → List Char
  | [] => []
  | c :: rest => if stopsPlain inFlow (c :: rest) then [] else c :: wordAt inFlow rest

/-- What stands between two words of a plain scalar; no text if the scalar ends here. -/
structure Gap where
  text : List Char
  after : Cursor
  endsLine : Bool

/-- Empty lines; no text if a mark between documents follows. -/
def takeEmptyLines : (fuel : Nat) → Cursor → Option (List Char) × Cursor
  | 0, c => (none, c)
  | fuel + 1, c =>
    match c.rest with
    | [] => (some [], c)
    | ch :: _ =>
      if ch = ' ' then takeEmptyLines fuel c.next
      else if isBreak ch then
        if startsSeparator c.next.rest then (none, c.next)
        else
          let (others, after) := takeEmptyLines fuel c.next
          (others.map (ch :: ·), after)
      else (some [], c)

/-- The gap after a word. -/
def takeGap (c : Cursor) : Gap :=
  let spaces := c.rest.takeWhile (· == ' ')
  let c := c.skip spaces.length
  match c.rest with
  | [] => ⟨spaces, c, false⟩
  | ch :: _ =>
    if isBreak ch then
      if startsSeparator c.next.rest then ⟨[], c.next, true⟩
      else
        let (others, after) := takeEmptyLines (c.rest.length + 1) c.next
        ⟨(others.map (folded ch)).getD [], after, true⟩
    else ⟨spaces, c, false⟩

/-- A plain scalar, the place after it, and whether that is on a new line. Outside of brackets its
further lines are indented. -/
def takePlain (inFlow : Bool) (indent : Nat) : (fuel : Nat) → Cursor → List Char × Cursor × Bool
  | 0, c => ([], c, false)
  | fuel + 1, c =>
    let word := wordAt inFlow c.rest
    let gap := takeGap (c.skip word.length)
    if gap.text.isEmpty || gap.after.rest.head? == some '#' ||
        (!inFlow && gap.after.column < indent) || stopsPlain inFlow gap.after.rest then
      (word, gap.after, gap.endsLine)
    else
      let (more, after, endsLine) := takePlain inFlow indent fuel gap.after
      (word ++ gap.text ++ more, after, endsLine)

end LayeredConfig.Yaml
