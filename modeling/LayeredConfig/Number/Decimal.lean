import LayeredConfig.Number.Numeral

/-!
# Decimal numbers of any precision

A finite decimal is `± coefficient · 10 ^ exponent`; equal numbers with different exponents are
told apart, so that a text keeps its trailing zeros.
-/

namespace LayeredConfig

inductive Decimal where
  | finite (negative : Bool) (coefficient : Nat) (exponent : Int)
  | infinite (negative : Bool)
  | nan (negative signaling : Bool) (payload : Nat)
  deriving DecidableEq, Repr, Inhabited

namespace Decimal

/-- Why a text is no decimal. -/
inductive ReadError where
  | malformed
  | outOfRange
  deriving DecidableEq, Repr

/-- The largest exponent of a leading digit. -/
def maxAdjusted : Int := 999999999999999999

/-- The smallest exponent of a last digit. -/
def minExponent : Int := -1999999999999999997

/-- The exponent of the leading digit. -/
def adjusted (coefficient : Nat) (exponent : Int) : Int :=
  exponent + ((Numeral.natChars coefficient).length : Int) - 1

def isNan : Decimal → Bool
  | .nan .. => true
  | _ => false

def isSignaling : Decimal → Bool
  | .nan _ signaling _ => signaling
  | _ => false

/-! ## Reading -/

/-- ASCII stands for itself, other digits for theirs; anything else spoils the text. -/
def asciiDigits? (cs : List Char) : Option (List Char) :=
  cs.mapM fun c =>
    if 0 < c.toNat && c.toNat < 128 then some c
    else (Text.digitValue? c).map Text.digitChar

/-- The digits at the front and the rest. -/
def takeDigits (cs : List Char) : List Char × List Char :=
  (cs.takeWhile Text.isDigit, cs.dropWhile Text.isDigit)

/-- The number that a run of decimal digits writes. -/
def digitsValue (cs : List Char) : Nat :=
  Numeral.ofDigits 10 (cs.filterMap Text.baseDigit?)

/-- An exponent part, empty or `e` with an optional sign and digits, up to the end. -/
def readExponent? : List Char → Option Int
  | [] => some 0
  | c :: rest =>
    if c = 'e' || c = 'E' then
      let (negative, digits) := Numeral.takeSign rest
      if digits.isEmpty || !digits.all Text.isDigit then none
      else some (if negative then -(digitsValue digits : Int) else digitsValue digits)
    else none

/-- A number without sign: digits with an optional point, and an optional exponent. -/
def readUnsigned (negative : Bool) (cs : List Char) : Except ReadError Decimal :=
  let (whole, rest) := takeDigits cs
  let (fraction, rest) :=
    match rest with
    | '.' :: more => takeDigits more
    | _ => ([], rest)
  if whole.isEmpty && fraction.isEmpty then .error .malformed
  else
    match readExponent? rest with
    | none => .error .malformed
    | some e =>
      let coefficient := digitsValue (whole ++ fraction)
      let exponent := e - fraction.length
      if exponent < minExponent || adjusted coefficient exponent > maxAdjusted then
        .error .outOfRange
      else .ok (.finite negative coefficient exponent)

/-- The decimal that a text names. Blanks around it and underscores anywhere do not count. -/
def read (text : List Char) : Except ReadError Decimal :=
  match asciiDigits? ((Text.trim text).filter (· ≠ '_')) with
  | none => .error .malformed
  | some ascii =>
    let (negative, unsigned) := Numeral.takeSign ascii
    let word := unsigned.map Char.toLower
    if word = "inf".toList || word = "infinity".toList then .ok (.infinite negative)
    else
      match "nan".toList.isPrefixOf? word, "snan".toList.isPrefixOf? word with
      | some digits, _ =>
        if digits.all Text.isDigit then .ok (.nan negative false (digitsValue digits))
        else .error .malformed
      | _, some digits =>
        if digits.all Text.isDigit then .ok (.nan negative true (digitsValue digits))
        else .error .malformed
      | none, none => readUnsigned negative unsigned

/-! ## Writing -/

/-- Digits with a point so many places from the right. -/
def withPoint (digits : List Char) (places : Nat) : List Char :=
  if places = 0 then digits
  else if places < digits.length then
    digits.take (digits.length - places) ++ '.' :: digits.drop (digits.length - places)
  else
    '0' :: '.' :: List.replicate (places - digits.length) '0' ++ digits

/-- One digit before the point, the others after it, and the exponent with its sign. -/
def scientific (digits : List Char) (adjusted : Int) : List Char :=
  let mantissa :=
    match digits with
    | [] => []
    | [d] => [d]
    | d :: rest => d :: '.' :: rest
  mantissa ++ 'E' :: (if adjusted < 0 then '-' else '+') :: Numeral.natChars adjusted.natAbs

/-- Positional while the exponent is not positive and at most five zeros follow the point. -/
def finiteChars (coefficient : Nat) (exponent : Int) : List Char :=
  let digits := Numeral.natChars coefficient
  if exponent ≤ 0 && adjusted coefficient exponent ≥ -6 then withPoint digits (-exponent).toNat
  else scientific digits (adjusted coefficient exponent)

/-- The text of a decimal. -/
def text : Decimal → String
  | .finite negative coefficient exponent =>
    let body := finiteChars coefficient exponent
    String.ofList (if negative then '-' :: body else body)
  | .infinite negative => if negative then "-Infinity" else "Infinity"
  | .nan negative signaling payload =>
    let word := if signaling then "sNaN" else "NaN"
    (if negative then "-" else "") ++ word ++ (if payload = 0 then "" else Numeral.natText payload)

end Decimal

end LayeredConfig
