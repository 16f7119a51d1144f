import LayeredConfig.Text.Character

/-!
# Integer numerals — reading and writing whole numbers

A numeral may have spaces around it, one sign, the decimal digits of any script and single
underscores between digits. In base 0 the numeral names its own base by `0x`, `0o` or `0b` and is
decimal otherwise. Decimal numerals are limited in length, in both directions.
-/

namespace LayeredConfig.Numeral

open Text

/-- Decimal numerals have at most this many digits. -/
def maxDigits : Nat := 4300

/-- Why a text is no numeral. -/
inductive ReadError where
  | malformed
  | tooManyDigits (count : Nat)
  deriving DecidableEq, Repr

/-- Spaces that may stand around a numeral once it is written in ASCII. -/
def isSpace (c : Char) : Bool :=
  (0x09 ≤ c.toNat && c.toNat ≤ 0x0D) || c.toNat == 0x20

/-- ASCII stands for itself, other blanks for a space, other digits for theirs, the rest for `?`. -/
def asciiChar (c : Char) : Char :=
  if c.toNat < 127 then c
  else if isBlank c then ' '
  else
    match digitValue? c with
    | some d => digitChar d
    | none => '?'

/-- The text in ASCII. -/
def asciiForm (cs : List Char) : List Char :=
  cs.map asciiChar

/-- The number that digits of a base write, the first digit weighing most. -/
def ofDigits (base : Nat) (digits : List Nat) : Nat :=
  digits.foldl (fun n d => n * base + d) 0

/-- The value of a digit that is below the base. -/
def digitBelow? (base : Nat) (c : Char) : Option Nat :=
  (baseDigit? c).filter (· < base)

/-- The digits at the front and the rest; `none` if an underscore has no digit after it. -/
def scanDigits (base : Nat) : List Char → Option (List Nat × List Char)
  | [] => some ([], [])
  | c :: rest =>
    if c = '_' then
      if (rest.head?.bind (digitBelow? base)).isSome then scanDigits base rest else none
    else
      match digitBelow? base c with
      | some d => (scanDigits base rest).map fun (ds, after) => (d :: ds, after)
      | none => some ([], c :: rest)

/-- The sign at the front, if any, and the rest. -/
def takeSign : List Char → Bool × List Char
  | '-' :: rest => (true, rest)
  | '+' :: rest => (false, rest)
  | cs => (false, cs)

/-- The base that a mark after a leading zero names. -/
def baseOfMark? (c : Char) : Option Nat :=
  if c = 'x' || c = 'X' then some 16
  else if c = 'o' || c = 'O' then some 8
  else if c = 'b' || c = 'B' then some 2
  else none

/-- The base in force and the digits after its mark; one underscore may follow the mark. -/
def takeBase (base : Nat) (cs : List Char) : Nat × List Char :=
  match cs with
  | '0' :: mark :: rest =>
    match baseOfMark? mark with
    | some named =>
      if base = 0 || base = named then
        (named, match rest with
          | '_' :: more => more
          | _ => rest)
      else (base, cs)
    | none => (if base = 0 then 10 else base, cs)
  | _ => (if base = 0 then 10 else base, cs)

/-- The number that a text writes in a base; base 0 lets the text name its own. -/
def read (base : Nat) (cs : List Char) : Except ReadError Int :=
  let (negative, unsigned) := takeSign ((asciiForm cs).dropWhile isSpace)
  let (inForce, body) := takeBase base unsigned
  if body.head? = some '_' then .error .malformed
  else
    match scanDigits inForce body with
    | none => .error .malformed
    | some (digits, after) =>
      if inForce = 10 && maxDigits < digits.length then .error (.tooManyDigits digits.length)
      else if digits.isEmpty || !after.all isSpace then .error .malformed
      else
        let n := ofDigits inForce digits
        if base = 0 && inForce = 10 && body.head? = some '0' && n ≠ 0 then .error .malformed
        else .ok (if negative then -(n : Int) else n)

/-- The decimal digits of a number. -/
def natChars (n : Nat) : List Char :=
  Nat.toDigits 10 n

/-- The decimal text of a number. -/
def natText (n : Nat) : String :=
  String.ofList (natChars n)

/-- The decimal text of an integer. -/
def intChars (n : Int) : List Char :=
  if n < 0 then '-' :: natChars n.natAbs else natChars n.natAbs

/-- The decimal text of an integer, if it is not too long to be written. -/
def intText? (n : Int) : Option String :=
  if n.natAbs < Nat.pow 10 maxDigits then some (String.ofList (intChars n)) else none

end LayeredConfig.Numeral
