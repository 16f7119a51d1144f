import LayeredConfig.Number.Numeral

/-!
# Double-precision numbers as exact values

A finite double is `± significand · 2 ^ exponent`. It is kept as that pair of integers, so that
rounding, comparison and the choice of its shortest decimal text are integer arithmetic.
-/

namespace LayeredConfig

/-- A double: significands stay below `2 ^ 53` and exponents between -1074 and 971. A NaN is no other
number, but all words for it in documents stand for one and the same, the `written` one. -/
inductive Binary64 where
  | nan (written : Bool)
  | infinite (negative : Bool)
  | finite (negative : Bool) (significand : Nat) (exponent : Int)
  deriving DecidableEq, Repr, Inhabited

namespace Binary64

/-- The exponent of the smallest doubles. -/
def minExponent : Int := -1074

/-- The exponent of the largest doubles. -/
def maxExponent : Int := 971

/-- The least significand that uses all digits, `2 ^ 52`. -/
def leastNormal : Nat := 4503599627370496

def zero (negative : Bool) : Binary64 :=
  .finite negative 0 minExponent

/-- `num / den` rounded to the nearest integer; a tie goes to the even one. -/
def roundDiv (num den : Nat) : Nat :=
  let q := num / den
  let r := num % den
  if 2 * r < den || (2 * r == den && q % 2 == 0) then q else q + 1

/-- `2 ^ e` as a fraction. -/
def pow2 (e : Int) : Nat × Nat :=
  if 0 ≤ e then (Nat.pow 2 e.toNat, 1) else (1, Nat.pow 2 (-e).toNat)

/-- `10 ^ e` as a fraction. -/
def pow10 (e : Int) : Nat × Nat :=
  if 0 ≤ e then (Nat.pow 10 e.toNat, 1) else (1, Nat.pow 10 (-e).toNat)

/-- The double nearest to `num / den`; a tie goes to the even significand. -/
def ofRatio (negative : Bool) (num den : Nat) : Binary64 :=
  if num = 0 then zero negative
  else
    let guess : Int := (Nat.log2 num : Int) - (Nat.log2 den : Int) - 52
    let fits (e : Int) : Bool :=
      let (pn, pd) := pow2 e
      num * pd < 2 * leastNormal * (den * pn)
    let e := if fits (guess - 1) then guess - 1 else guess
    let e := max e minExponent
    let (pn, pd) := pow2 e
    let m := roundDiv (num * pd) (den * pn)
    let (m, e) := if m = 2 * leastNormal then (leastNormal, e + 1) else (m, e)
    if e > maxExponent then .infinite negative else .finite negative m e

/-- The double nearest to `coefficient · 10 ^ exponent`. -/
def ofScientific (negative : Bool) (coefficient : Nat) (exponent : Int) : Binary64 :=
  if coefficient = 0 then zero negative
  else
    let magnitude : Int := (Numeral.natChars coefficient).length + exponent
    if magnitude > 310 then .infinite negative
    else if magnitude < -330 then zero negative
    else
      let (pn, pd) := pow10 exponent
      ofRatio negative (coefficient * pn) pd

/-- The double nearest to an integer, unless it lies beyond the largest. -/
def ofInt? (n : Int) : Option Binary64 :=
  match ofRatio (n < 0) n.natAbs 1 with
  | .finite negative m e => some (.finite negative m e)
  | _ => none

/-- The absolute value of a finite double as a fraction. -/
def ratio (significand : Nat) (exponent : Int) : Nat × Nat :=
  let (pn, pd) := pow2 exponent
  (significand * pn, pd)

/-- The integer that a double equals. -/
def toInt? : Binary64 → Option Int
  | .finite negative m e =>
    let (num, den) := ratio m e
    if num % den = 0 then
      some (if negative then -((num / den : Nat) : Int) else ((num / den : Nat) : Int))
    else none
  | _ => none

/-! ## Reading -/

/-- The digits at the front and the rest. -/
def takeDigits (cs : List Char) : List Char × List Char :=
  (cs.takeWhile Text.isDigit, cs.dropWhile Text.isDigit)

/-- Underscores must stand between digits; the text without them. -/
def dropUnderscores (before : Char) : List Char → Option (List Char)
  | [] => if before = '_' then none else some []
  | c :: rest =>
    if c = '_' then
      if Text.isDigit before then dropUnderscores '_' rest else none
    else if before = '_' && !Text.isDigit c then none
    else (dropUnderscores c rest).map (c :: ·)

/-- An exponent part, empty or `e` with an optional sign and digits, up to the end. -/
def readExponent? : List Char → Option Int
  | [] => some 0
  | c :: rest =>
    if c = 'e' || c = 'E' then
      let (negative, digits) := Numeral.takeSign rest
      if digits.isEmpty || !digits.all Text.isDigit then none
      else
        let n := Numeral.ofDigits 10 (digits.filterMap Text.baseDigit?)
        some (if negative then -(n : Int) else n)
    else none

/-- An unsigned decimal number: coefficient and exponent. -/
def readUnsigned? (cs : List Char) : Option (Nat × Int) := do
  let (whole, rest) := takeDigits cs
  let (fraction, rest) :=
    match rest with
    | '.' :: more => takeDigits more
    | _ => ([], rest)
  if whole.isEmpty && fraction.isEmpty then none
  let exponent ← readExponent? rest
  let coefficient := Numeral.ofDigits 10 ((whole ++ fraction).filterMap Text.baseDigit?)
  some (coefficient, exponent - fraction.length)

/-- The double that a text names: a decimal number, an infinity or NaN, with spaces around it. -/
def read? (text : List Char) : Option Binary64 := do
  let ascii := if text.all (·.toNat < 128) then text else Numeral.asciiForm text
  let trimmed := ((ascii.dropWhile Numeral.isSpace).reverse.dropWhile Numeral.isSpace).reverse
  let body ← dropUnderscores ' ' trimmed
  let (negative, unsigned) := Numeral.takeSign body
  let word := String.ofList (unsigned.map Char.toLower)
  if word = "inf" || word = "infinity" then some (.infinite negative)
  else if word = "nan" then some (.nan false)
  else
    let (coefficient, exponent) ← readUnsigned? unsigned
    some (ofScientific negative coefficient exponent)

end Binary64

end LayeredConfig
