import LayeredConfig.Number.Binary64

/-!
# Shortest decimal text of a double

The digits are the fewest that read back as the same double, the nearest to it among those. They
are laid out in positional notation while the decimal exponent lies in `-4 ≤ e < 16` and in
scientific notation beyond.
-/

namespace LayeredConfig.Binary64

/-- The reals that round to a double: its ends as fractions, and whether they belong. -/
structure Interval where
  low : Nat × Nat
  high : Nat × Nat
  closed : Bool

/-- Half the gap to the neighbours on both sides; the gap below a power of two is smaller. -/
def interval (m : Nat) (e : Int) : Interval where
  low := if m = leastNormal && e > minExponent then ratio (4 * m - 1) (e - 2) else ratio (2 * m - 1) (e - 1)
  high := ratio (2 * m + 1) (e - 1)
  closed := m % 2 == 0

def Interval.contains (i : Interval) (num den : Nat) : Bool :=
  let fromLow := i.low.1 * den
  let toLow := num * i.low.2
  let fromHigh := num * i.high.2
  let toHigh := i.high.1 * den
  if i.closed then fromLow ≤ toLow && fromHigh ≤ toHigh
  else fromLow < toLow && fromHigh < toHigh

/-- The position of the decimal point before which a positive fraction has its first digit. -/
def pointPosition (num den : Nat) : Int :=
  let guess : Int := ((Nat.log2 num : Int) - (Nat.log2 den : Int)) * 30103 / 100000 - 1
  let below (d : Int) : Bool :=
    let (pn, pd) := pow10 d
    num * pd < pn * den
  if below guess then guess
  else if below (guess + 1) then guess + 1
  else if below (guess + 2) then guess + 2
  else guess + 3

/-- The grid point of `count` digits that lies in the interval and nearest to the value. -/
def onGrid? (i : Interval) (num den : Nat) (point : Int) (count : Nat) : Option Nat :=
  let (sn, sd) := pow10 (point - count)
  let q := (num * sd) / (den * sn)
  let r := (num * sd) % (den * sn)
  let low := i.contains (q * sn) sd
  let high := i.contains ((q + 1) * sn) sd
  if low && high then
    if 2 * r < den * sn || (2 * r == den * sn && q % 2 == 0) then some q else some (q + 1)
  else if low then some q
  else if high then some (q + 1)
  else none

/-- The smallest digit count on whose grid a point lies in the interval, with that point. -/
def firstGrid? (i : Interval) (num den : Nat) (point : Int) : Option (Nat × Nat) :=
  (List.range' 1 17).findSome? fun count => (onGrid? i num den point count).map (·, count)

/-- Digits without trailing zeros, and the position of the decimal point before them. -/
def shortestDigits (m : Nat) (e : Int) : List Char × Int :=
  if m = 0 then (['0'], 1)
  else
    let (num, den) := ratio m e
    let point := pointPosition num den
    let (n, count) := (firstGrid? (interval m e) num den point).getD (0, 1)
    let digits := Numeral.natChars n
    let point := point + (digits.length : Int) - count
    ((digits.reverse.dropWhile (· == '0')).reverse, point)

/-- Digits laid out around the decimal point, with at least one digit on each side. -/
def positional (digits : List Char) (point : Int) : List Char :=
  if point ≤ 0 then
    '0' :: '.' :: List.replicate (-point).toNat '0' ++ digits
  else
    let n := point.toNat
    if digits.length ≤ n then
      digits ++ List.replicate (n - digits.length) '0' ++ ['.', '0']
    else
      digits.take n ++ '.' :: digits.drop n

/-- An exponent with its sign and at least two digits. -/
def exponentChars (e : Int) : List Char :=
  let digits := Numeral.natChars e.natAbs
  (if e < 0 then '-' else '+') :: (if digits.length < 2 then '0' :: digits else digits)

/-- One digit before the point, the others after it, and the exponent. -/
def scientific (digits : List Char) (point : Int) : List Char :=
  let mantissa :=
    match digits with
    | [] => []
    | [d] => [d]
    | d :: rest => d :: '.' :: rest
  mantissa ++ 'e' :: exponentChars (point - 1)

/-- The text of a double. -/
def text : Binary64 → String
  | .nan _ => "nan"
  | .infinite negative => if negative then "-inf" else "inf"
  | .finite negative m e =>
    let (digits, point) := shortestDigits m e
    let body :=
      if -4 < point && point ≤ 16 then positional digits point else scientific digits point
    String.ofList (if negative then '-' :: body else body)

end LayeredConfig.Binary64
