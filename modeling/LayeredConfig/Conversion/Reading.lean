import LayeredConfig.Conversion.Fault
import LayeredConfig.Text.Case
import LayeredConfig.Text.Split

/-!
# Reading scalars and lists from texts

The texts of configuration files and variables are read leniently: blanks around them do not
count, Booleans have four spellings each in any letter case, integers may name their base and may
have underscores anywhere, and lists skip blank entries.
-/

namespace LayeredConfig.Conversion

/-- The texts that mean true. -/
def trueWords : List String := ["true", "on", "yes", "1"]

/-- The texts that mean false. -/
def falseWords : List String := ["false", "off", "no", "0"]

/-- The Boolean that a text names; a blank text names none. -/
def readBool (s : String) : Except Fault (Option Bool) :=
  let word := Text.lowerString (Text.trimString s)
  if word = "" then .ok none
  else if word ∈ trueWords then .ok (some true)
  else if word ∈ falseWords then .ok (some false)
  else .error (.invalidBoolean s)

/-- Whether a text names the base of its digits after any signs. -/
def namesBase (cs : List Char) : Bool :=
  match cs.dropWhile fun c => c == '+' || c == '-' with
  | '0' :: mark :: _ => (Numeral.baseOfMark? mark).isSome
  | _ => false

/-- The integer that characters write. -/
def readIntChars (cs : List Char) : Except Fault Int :=
  let body := (Text.trim cs).filter (· ≠ '_')
  let base := if namesBase body then 0 else 10
  (Numeral.read base body).mapError (Fault.ofNumeral base body)

/-- The integer that a text writes, in decimal or in a base of its own. -/
def readInt (s : String) : Except Fault Int :=
  readIntChars s.toList

/-- The trimmed entries between the occurrences of a separator, blank ones left out. -/
def splitChars (separator cs : List Char) : List (List Char) :=
  ((Text.splitOn separator cs).map Text.trim).filter (· ≠ [])

/-- The entries of a delimited text. -/
def splitDelimited (delimiter s : String) : Except Fault (List String) :=
  if delimiter = "" then .error .emptySeparator
  else .ok ((splitChars delimiter.toList s.toList).map String.ofList)

/-- The entries of a text between commas. -/
def splitCommas (s : String) : List String :=
  (splitChars [','] s.toList).map String.ofList

end LayeredConfig.Conversion
