import LayeredConfig.Text.CaseTable

/-!
# Letter case — full capital and small forms

A text is mapped letter by letter; a letter may turn into several. Only the capital sigma depends
on its neighbours: at the end of a word its small form is the final sigma.
-/

namespace LayeredConfig.Text

/-- The first run that covers a code point decides where it goes. -/
def mapRuns (runs : List CaseRun) (code : Nat) : Option Nat :=
  runs.findSome? (·.map? code)

/-- The capital form of one character. -/
def upperChar (c : Char) : List Char :=
  if c.toNat < 128 then [c.toUpper]
  else
    match upperExpansions.find? (·.1 == c.toNat) with
    | some (_, codes) => codes.map Char.ofNat
    | none => [((mapRuns upperRuns c.toNat).map Char.ofNat).getD c]

/-- The small form of one character, apart from its neighbours. -/
def lowerChar (c : Char) : List Char :=
  if c.toNat < 128 then [c.toLower]
  else
    match lowerExpansions.find? (·.1 == c.toNat) with
    | some (_, codes) => codes.map Char.ofNat
    | none => [((mapRuns lowerRuns c.toNat).map Char.ofNat).getD c]

/-- Whether a code point lies in one of the inclusive ranges. -/
def inRanges (ranges : List (Nat × Nat)) (c : Char) : Bool :=
  ranges.any fun (first, last) => first ≤ c.toNat && c.toNat ≤ last

/-- Whether the nearest character that is not passed over has letter case. -/
def meetsCased (cs : List Char) : Bool :=
  match cs.dropWhile (inRanges caseIgnorableRanges) with
  | [] => false
  | c :: _ => inRanges casedRanges c

/-- The capital text. -/
def upper (cs : List Char) : List Char :=
  cs.flatMap upperChar

/-- The small text of the rest of a line whose characters so far stand, last first, in `before`. -/
def lowerAfter (before : List Char) : List Char → List Char
  | [] => []
  | c :: rest =>
    let small :=
      if c == 'Σ' then (if meetsCased before && !meetsCased rest then ['ς'] else ['σ'])
      else lowerChar c
    small ++ lowerAfter (c :: before) rest

/-- The small text. -/
def lower (cs : List Char) : List Char :=
  lowerAfter [] cs

/-- The small ASCII letters that a character counts as where letter case does not; others count as
themselves. -/
def foldAscii (c : Char) : List Char :=
  ((asciiFolds.lookup c.toNat).map String.toList).getD [c.toLower]

/-- Whether a text is a word of small ASCII letters, whatever its letter case. -/
def spells (word text : String) : Bool :=
  text.toList.flatMap foldAscii == word.toList

/-- The capital form of a string. -/
def upperString (s : String) : String :=
  String.ofList (upper s.toList)

/-- The small form of a string. -/
def lowerString (s : String) : String :=
  String.ofList (lower s.toList)

end LayeredConfig.Text
