import LayeredConfig.Document.Encoding

/-!
# Places in a YAML text

Layout carries meaning, so a place knows its line and column. Line ends of all kinds but the two
Unicode separators are line feeds by the time a text is read.
-/

namespace LayeredConfig.Yaml

/-- The marks that end a line. -/
def isBreak (c : Char) : Bool :=
  c == '\n' || c == '\u2028' || c == '\u2029'

def isSpace (c : Char) : Bool :=
  c == ' ' || c == '\t'

def isBlank (c : Char) : Bool :=
  isSpace c || isBreak c

/-- Whether a text is at its end or goes on with a blank. -/
def startsBlank (cs : List Char) : Bool :=
  cs.head?.all isBlank

/-- Whether a mark of three characters stands in front, with a blank or nothing after it. -/
def startsMark (mark : Char) (cs : List Char) : Bool :=
  cs.take 3 == [mark, mark, mark] && startsBlank (cs.drop 3)

/-- Whether a mark between documents stands in front. -/
def startsSeparator (cs : List Char) : Bool :=
  startsMark '-' cs || startsMark '.' cs

/-- What is left of a text, and where it begins. -/
structure Cursor where
  rest : List Char
  index : Nat
  line : Nat
  column : Nat
  deriving Repr

namespace Cursor

def ofText (cs : List Char) : Cursor :=
  ⟨cs, 0, 0, 0⟩

/-- The place after the next character. A byte order mark has no width. -/
def next (c : Cursor) : Cursor :=
  match c.rest with
  | [] => c
  | ch :: rest =>
    if isBreak ch then ⟨rest, c.index + 1, c.line + 1, 0⟩
    else ⟨rest, c.index + 1, c.line, if ch = '\uFEFF' then c.column else c.column + 1⟩

/-- The place after so many characters. -/
def skip : (count : Nat) → Cursor → Cursor
  | 0, c => c
  | count + 1, c => skip count c.next

/-- The place after all characters of a class. -/
def skipWhile (p : Char → Bool) (c : Cursor) : Cursor :=
  c.skip (c.rest.takeWhile p).length

end Cursor

/-! ## Texts of documents -/

/-- Controls, but for tabs and line ends, and the two last code points of the first plane must not
stand in a text. -/
def isAllowed (c : Char) : Bool :=
  let n := c.toNat
  n = 0x09 || n = 0x0A || n = 0x0D || n = 0x85 || (0x20 ≤ n && n ≤ 0x7E) ||
    (0xA0 ≤ n && n ≠ 0xFFFE && n ≠ 0xFFFF)

/-- Line ends become line feeds. -/
def unifyBreaks : List Char → List Char
  | '\r' :: '\n' :: rest => '\n' :: unifyBreaks rest
  | c :: rest => (if c = '\r' || c = '\x85' then '\n' else c) :: unifyBreaks rest
  | [] => []

/-- The text of UTF-16 units whose surrogates all come in pairs. -/
def ofUnits? (units : List Nat) : Option (List Char) :=
  if Encoding.isPaired units then some (Encoding.ofUnits16 units) else none

/-- The characters of a document, its mark included: UTF-16 if it is marked so, UTF-8 otherwise. -/
def decode? (bytes : List UInt8) : Option (List Char) :=
  match bytes with
  | 0xFF :: 0xFE :: _ => (Encoding.units? false 1 bytes).bind ofUnits?
  | 0xFE :: 0xFF :: _ => (Encoding.units? true 1 bytes).bind ofUnits?
  | _ => Utf8.decode? bytes

/-- The text of a document after its mark, if all its characters are allowed. -/
def textOf? (bytes : List UInt8) : Option (List Char) :=
  ((decode? bytes).filter (·.all isAllowed)).map fun cs =>
    match unifyBreaks cs with
    | '\uFEFF' :: rest => rest
    | text => text

end LayeredConfig.Yaml
