import LayeredConfig.Text.Character
import LayeredConfig.Text.Case
import LayeredConfig.Text.Split

/-!
# Lines of `.env` files

    line  := blanks | "#" comment | ["export "] name "=" value

Two underscores in a name separate the parts of a dotted key. A value may stand in quotes;
otherwise a comment may follow it. Lines end in a line feed, a carriage return, or both.
-/

namespace LayeredConfig.Dotenv

/-- The dotted key of a variable, in small letters. -/
def dottedKey (name : List Char) : List Char :=
  ['.'].intercalate ((Text.splitOn ['_', '_'] name).map Text.lower)

/-- The quote around a text, if it stands in quotes. -/
def quote? (value : List Char) : Option Char :=
  match value.head?, value.getLast? with
  | some first, some last =>
    if 2 ≤ value.length && first == last && (first == '"' || first == '\'') then some first
    else none
  | _, _ => none

/-- A value without the quotes around it, or without the comment after it. -/
def cleanValue (value : List Char) : List Char :=
  if (quote? value).isSome then value.tail.dropLast
  else if value.head? = some '#' then []
  else
    match Text.cutAt? [' ', '#'] value with
    | some (before, _) => Text.trim before
    | none => value

/-- Why a line is not a setting. -/
inductive LineFault where
  | noEqualsSign
  | noName
  deriving DecidableEq, Repr

/-- The line without the word that exports it. -/
def withoutExport (line : List Char) : List Char :=
  match "export ".toList.isPrefixOf? line with
  | some rest => Text.trimStart rest
  | none => line

/-- The key and the value of a line, nothing for a blank line or a comment. -/
def parseLine (raw : List Char) : Except LineFault (Option (List Char × List Char)) :=
  let line := Text.trim raw
  if line = [] || line.head? = some '#' then .ok none
  else
    match Text.cutAt? ['='] (withoutExport line) with
    | none => .error .noEqualsSign
    | some (before, after) =>
      let name := Text.trim before
      if name = [] then .error .noName
      else .ok (some (dottedKey name, cleanValue (Text.trim after)))

/-- A text cut at the ends of its lines, and the unfinished line after the last one. `line` holds
the characters of the current line so far, last first. -/
def linesFrom (line : List Char) : List Char → List (List Char) × List Char
  | [] => ([], line.reverse)
  | '\r' :: '\n' :: rest =>
    let (lines, last) := linesFrom [] rest
    (line.reverse :: lines, last)
  | c :: rest =>
    if c = '\n' || c = '\r' then
      let (lines, last) := linesFrom [] rest
      (line.reverse :: lines, last)
    else linesFrom (c :: line) rest

/-- The finished lines of a text and what follows the last of them. -/
def lines (cs : List Char) : List (List Char) × List Char :=
  linesFrom [] cs

end LayeredConfig.Dotenv
