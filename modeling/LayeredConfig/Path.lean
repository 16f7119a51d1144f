import LayeredConfig.Text.Split

/-!
# Paths — normal form, parents and endings

A path is its anchor and its parts. Empty parts and parts `.` are dropped when it is read, parts
`..` are kept. Exactly two leading slashes are an anchor of their own.
-/

namespace LayeredConfig

/-- `anchor` counts the leading slashes that are kept: 0 for a relative path, else 1 or 2. -/
structure Path where
  anchor : Nat
  parts : List String
  deriving DecidableEq, Repr, Inhabited

namespace Path

/-- The empty relative path. -/
def here : Path := ⟨0, []⟩

/-- The leading slashes that count: one stands for three and more. -/
def anchorOf (cs : List Char) : Nat :=
  match (cs.takeWhile (· == '/')).length with
  | 0 => 0
  | 2 => 2
  | _ => 1

/-- The path that a text names. -/
def ofString (s : String) : Path where
  anchor := anchorOf s.toList
  parts := ((Text.splitOn ['/'] s.toList).map String.ofList).filter fun part =>
    part ≠ "" && part ≠ "."

def isAbsolute (p : Path) : Bool :=
  p.anchor ≠ 0

/-- The text of a path; the empty relative path is `.`. -/
def text (p : Path) : String :=
  if p.anchor = 0 && p.parts.isEmpty then "."
  else String.ofList (List.replicate p.anchor '/') ++ "/".intercalate p.parts

/-- An absolute path replaces the one it is joined to. -/
def join (p q : Path) : Path :=
  if q.isAbsolute then q else { p with parts := p.parts ++ q.parts }

/-- The last part, empty if there is none. -/
def name (p : Path) : String :=
  p.parts.getLast?.getD ""

/-- The path without its last part. -/
def parent (p : Path) : Path :=
  { p with parts := p.parts.dropLast }

/-- The paths above this one, nearest first; parts are cut off without being interpreted. -/
def parents (p : Path) : List Path :=
  (List.range p.parts.length).map fun k =>
    { p with parts := p.parts.take (p.parts.length - 1 - k) }

/-- The ending from the last dot of the name on; a dot at either end of the name begins none. -/
def suffix (p : Path) : String :=
  let chars := p.name.toList
  let tail := (chars.reverse.takeWhile (· ≠ '.')).length
  let dot := chars.length - 1 - tail
  if tail < chars.length && 0 < dot && 0 < tail then String.ofList (chars.drop dot) else ""

end Path

end LayeredConfig
