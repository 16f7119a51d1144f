import LayeredConfig.Document.Toml.Scalar
import LayeredConfig.Document.Toml.Table
import LayeredConfig.Text.Utf8

/-!
# TOML documents

    document  := line*
    line      := blanks [pair | "[" key "]" | "[[" key "]]"] blanks [comment] line end
    pair      := key "=" value
    key       := part ("." part)*

Pairs belong to the table that was declared last. Tables that dotted keys make are declared once
the next header comes.
-/

namespace LayeredConfig.Toml

/-- Letters, digits, hyphens and underscores need no quotes in a key. -/
def isBare (c : Char) : Bool :=
  Text.isDigit c || ('a' ≤ c && c ≤ 'z') || ('A' ≤ c && c ≤ 'Z') || c == '-' || c == '_'

/-- A part of a key. -/
def takePart? (cs : List Char) : Option (String × List Char) :=
  match cs with
  | [] => none
  | c :: rest =>
    if isBare c then some (String.ofList (cs.takeWhile isBare), cs.dropWhile isBare)
    else if c = '"' || c = '\'' then (takeLine? c rest).map fun (s, after) => (String.ofList s, after)
    else none

/-- A key of one or more parts, with the blanks after it. -/
def takeKey? : (fuel : Nat) → List Char → Option (List String × List Char)
  | 0, _ => none
  | fuel + 1, cs => do
    let (part, rest) ← takePart? cs
    match skipSpaces rest with
    | '.' :: more => do
      let (parts, after) ← takeKey? fuel (skipSpaces more)
      some (part :: parts, after)
    | after => some ([part], after)

/-- The text behind a comment, which holds no controls. -/
def skipComment? : List Char → Option (List Char)
  | '#' :: rest =>
    if (rest.takeWhile (· ≠ '\n')).any (isIllegal false) then none
    else some (rest.dropWhile (· ≠ '\n'))
  | cs => some cs

/-- The text behind blanks, line ends and comments. -/
def skipBetween? : (fuel : Nat) → List Char → Option (List Char)
  | 0, _ => none
  | fuel + 1, cs =>
    match cs.dropWhile isSpaceOrNewline with
    | '#' :: rest => do
      let after ← skipComment? ('#' :: rest)
      skipBetween? fuel after
    | after => some after

/-- The path of the table that holds the last part of a key, and that part. -/
def splitLast (key : List String) : List String × String :=
  (key.dropLast, key.getLast?.getD "")

mutual

/-- A value at the front. -/
def takeValue? : (fuel : Nat) → List Char → Option (Node × List Char)
  | 0, _ => none
  | fuel + 1, cs =>
    match cs with
    | [] => none
    | '[' :: rest => do
      let start ← skipBetween? (rest.length + 1) rest
      match start with
      | ']' :: after => some (.array [], after)
      | _ => do
        let (items, after) ← takeItems? fuel start
        some (.array items, after)
    | '\x7b' :: rest =>
      match skipSpaces rest with
      | '\x7d' :: after => some (.table [], after)
      | start => do
        let (entries, after) ← takePairs? fuel [] [] start
        some (.table entries, after)
    | c :: _ =>
      if c = '"' || c = '\'' then
        (takeString? cs).map fun (s, after) => (.leaf (.text (String.ofList s)), after)
      else
        match "true".toList.isPrefixOf? cs, "false".toList.isPrefixOf? cs with
        | some after, _ => some (.leaf (.bool true), after)
        | _, some after => some (.leaf (.bool false), after)
        | none, none =>
          match takeMoment? cs with
          | some taken => taken.map fun (m, after) => (.leaf (.moment m), after)
          | none => (takeNumber? cs).map fun (v, after) => (.leaf v, after)

/-- The items of an array up to its end; a comma may follow the last one. -/
def takeItems? : (fuel : Nat) → List Char → Option (List Node × List Char)
  | 0, _ => none
  | fuel + 1, cs => do
    let (item, rest) ← takeValue? fuel cs
    let rest ← skipBetween? (rest.length + 1) rest
    match rest with
    | ']' :: after => some ([item], after)
    | ',' :: more => do
      let start ← skipBetween? (more.length + 1) more
      match start with
      | ']' :: after => some ([item], after)
      | _ => do
        let (others, after) ← takeItems? fuel start
        some (item :: others, after)
    | _ => none

/-- The pairs of an inline table up to its end, added to those before. Collections are closed once
the next pair comes. -/
def takePairs? : (fuel : Nat) → List Mark → Table → List Char → Option (Table × List Char)
  | 0, _, _, _ => none
  | fuel + 1, marks, t, cs => do
    let (key, rest) ← takeKey? (cs.length + 1) cs
    match rest with
    | '=' :: more => do
      let (node, rest) ← takeValue? fuel (skipSpaces more)
      if isClosed marks key then none
      let (path, last) := splitLast key
      let t ← changeAt? false (addNew? last node) path t
      match skipSpaces rest with
      | '\x7d' :: after => some (t, after)
      | ',' :: more =>
        let marks := if node.isCollection then .closed key :: marks else marks
        takePairs? fuel marks t (skipSpaces more)
      | _ => none
    | _ => none

end

/-- A document that is being read: its tables, what is remembered about them, what is to be
remembered at the next header, and the table that pairs belong to. -/
structure Progress where
  table : Table
  marks : List Mark
  pending : List Mark
  header : List String

/-- The tables that a dotted key goes through, nearest to the header first. -/
def pathsThrough (header key : List String) : List (List String) :=
  (List.range' 1 (key.length - 1)).map fun n => header ++ key.take n

/-- Adds a pair to the table of the last header. -/
def addPair? (p : Progress) (key : List String) (node : Node) : Option Progress := do
  let through := pathsThrough p.header key
  if through.any (isDeclared p.marks) then none
  let (path, last) := splitLast key
  if isClosed p.marks (p.header ++ path) then none
  let table ← changeAt? true (addNew? last node) (p.header ++ path) p.table
  let closed := if node.isCollection then [Mark.closed (p.header ++ key)] else []
  some { p with
    table
    marks := closed ++ p.marks
    pending := through.map .declared ++ p.pending }

/-- A pair at the front, added to the document. -/
def takePair? (p : Progress) (cs : List Char) : Option (Progress × List Char) := do
  let (key, rest) ← takeKey? (cs.length + 1) cs
  match rest with
  | '=' :: more => do
    let (node, after) ← takeValue? (2 * more.length + 1) (skipSpaces more)
    let p ← addPair? p key node
    some (p, after)
  | _ => none

/-- What was to be remembered at the next header is remembered. -/
def settle (p : Progress) : Progress :=
  { p with marks := p.pending ++ p.marks, pending := [] }

/-- The header of a table, after its opening bracket. -/
def takeTableHeader? (p : Progress) (cs : List Char) : Option (Progress × List Char) := do
  let (key, rest) ← takeKey? (cs.length + 1) (skipSpaces cs)
  if isDeclared p.marks key || isClosed p.marks key then none
  let table ← changeAt? true some key p.table
  match rest with
  | ']' :: after =>
    some ({ p with table, marks := .declared key :: p.marks, header := key }, after)
  | _ => none

/-- The header of a table in an array, after its opening brackets. -/
def takeArrayHeader? (p : Progress) (cs : List Char) : Option (Progress × List Char) := do
  let (key, rest) ← takeKey? (cs.length + 1) (skipSpaces cs)
  if isClosed p.marks key then none
  let (path, last) := splitLast key
  let table ← changeAt? true (addToArray? last) path p.table
  match rest with
  | ']' :: ']' :: after =>
    some ({ p with table, marks := .declared key :: forget p.marks key, header := key }, after)
  | _ => none

/-- What stands on a line before its comment, added to the document. -/
def takeStatement? (p : Progress) (cs : List Char) : Option (Progress × List Char) :=
  match cs with
  | [] => some (p, [])
  | '[' :: '[' :: rest => takeArrayHeader? (settle p) rest
  | '[' :: rest => takeTableHeader? (settle p) rest
  | c :: _ =>
    if isBare c || c = '"' || c = '\'' then takePair? p cs
    else if c = '#' || c = '\n' then some (p, cs)
    else none

/-- Reads lines up to the end. -/
def readLines? : (fuel : Nat) → Progress → List Char → Option Progress
  | 0, _, _ => none
  | fuel + 1, p, cs => do
    let (p, rest) ← takeStatement? p (skipSpaces cs)
    let rest ← skipComment? (skipSpaces rest)
    match rest with
    | [] => some p
    | '\n' :: more => readLines? fuel p more
    | _ => none

/-- Line ends of two characters become line feeds. -/
def unifyLineEnds : List Char → List Char
  | '\r' :: '\n' :: rest => '\n' :: unifyLineEnds rest
  | c :: rest => c :: unifyLineEnds rest
  | [] => []

/-- The table that a text writes. -/
def parse? (cs : List Char) : Option Value := do
  let text := unifyLineEnds cs
  let p ← readLines? (text.length + 1) ⟨[], [], [], []⟩ text
  some (.dict (entryValues p.table))

/-- The table that a document holds. -/
def read? (bytes : List UInt8) : Option Value := do
  let cs ← Utf8.decode? bytes
  parse? cs

end LayeredConfig.Toml
