import LayeredConfig.Document.Parser
import LayeredConfig.Value.Basic

/-!
# What plain YAML scalars mean

Texts of certain forms are Booleans, numbers, nothing or moments; all others are texts. Numbers may
be written in base sixty, with colons between the places.
-/

namespace LayeredConfig.Yaml

open Document (Failure)

/-- Words for true and false. -/
def boolOf? (text : String) : Option Bool :=
  if ["yes", "Yes", "YES", "true", "True", "TRUE", "on", "On", "ON"].contains text then some true
  else if ["no", "No", "NO", "false", "False", "FALSE", "off", "Off", "OFF"].contains text then
    some false
  else none

/-- Words for nothing. -/
def isNull (text : String) : Bool :=
  ["", "~", "null", "Null", "NULL"].contains text

def isDigitOrUnderscore (c : Char) : Bool :=
  Text.isDigit c || c == '_'

/-- A digit, then digits and underscores. -/
def isWhole (cs : List Char) : Bool :=
  cs.head?.any Text.isDigit && cs.all isDigitOrUnderscore

/-- A place in base sixty: at most 59, with or without a leading zero. -/
def isSixtieth : List Char → Bool
  | [c] => Text.isDigit c
  | [c, d] => '0' ≤ c && c ≤ '5' && Text.isDigit d
  | _ => false

def withoutUnderscores (cs : List Char) : List Char :=
  cs.filter (· ≠ '_')

def natOf (base : Nat) (cs : List Char) : Nat :=
  Numeral.ofDigits base (cs.filterMap Text.baseDigit?)

/-! ## Integers -/

inductive IntegerForm where
  | based (base : Nat) (digits : List Char)
  | decimal (digits : List Char)
  | sixties (parts : List (List Char))

/-- The form of an integer without sign. -/
def integerForm? (cs : List Char) : Option IntegerForm :=
  let inBase (base : Nat) (digits : List Char) : Option IntegerForm :=
    if !digits.isEmpty && digits.all (fun c => c == '_' || (Text.baseDigit? c).any (· < base)) then
      some (.based base digits)
    else none
  match cs with
  | ['0'] => some (.decimal cs)
  | '0' :: 'b' :: digits => inBase 2 digits
  | '0' :: 'x' :: digits => inBase 16 digits
  | '0' :: digits => inBase 8 digits
  | _ =>
    match Text.splitOn [':'] cs with
    | [whole] => if isWhole whole then some (.decimal whole) else none
    | whole :: parts =>
      if isWhole whole && parts.all isSixtieth then some (.sixties (whole :: parts)) else none
    | [] => none

/-- The value of an integer without sign; a base needs digits, and decimal numbers are limited in
length. -/
def IntegerForm.value? : IntegerForm → Option Nat
  | .based base digits =>
    let digits := withoutUnderscores digits
    if digits.isEmpty && base ≠ 8 then none else some (natOf base digits)
  | .decimal digits =>
    let digits := withoutUnderscores digits
    if Numeral.maxDigits < digits.length then none else some (natOf 10 digits)
  | .sixties parts =>
    let parts := parts.map withoutUnderscores
    if parts.any (Numeral.maxDigits < ·.length) then none
    else some (parts.foldl (fun n part => n * 60 + natOf 10 part) 0)

/-! ## Floats -/

/-- An exponent with its sign, or nothing. -/
def isExponent : List Char → Bool
  | [] => true
  | mark :: sign :: digits =>
    (mark == 'e' || mark == 'E') && (sign == '+' || sign == '-') && !digits.isEmpty &&
      digits.all Text.isDigit
  | _ => false

/-- Whether a text without sign is a float in base ten. -/
def isDecimalFloat (hasSign : Bool) (cs : List Char) : Bool :=
  let whole := cs.takeWhile isDigitOrUnderscore
  match cs.dropWhile isDigitOrUnderscore with
  | '.' :: rest =>
    let fraction := rest.takeWhile isDigitOrUnderscore
    isExponent (rest.dropWhile isDigitOrUnderscore) &&
      if whole.isEmpty then !hasSign && isWhole fraction else isWhole whole
  | _ => false

/-- The places of a float in base sixty, without sign. -/
def sixtyFloat? (cs : List Char) : Option (List (List Char)) :=
  match Text.cutAt? ['.'] cs with
  | none => none
  | some (places, fraction) =>
    match Text.splitOn [':'] places with
    | whole :: part :: parts =>
      if isWhole whole && (part :: parts).all isSixtieth && fraction.all isDigitOrUnderscore then
        let places := whole :: part :: parts
        some (places.dropLast ++ [(places.getLast?.getD []) ++ '.' :: fraction])
      else none
    | _ => none

/-- The fraction that a double equals, if it is finite; signs do not count. -/
def ratioOf? : Binary64 → Option (Nat × Nat)
  | .finite _ m e => some (Binary64.ratio m e)
  | _ => none

/-- The rounded product of doubles without sign. -/
def product (x y : Binary64) : Binary64 :=
  match ratioOf? x, ratioOf? y with
  | some (a, b), some (c, d) => Binary64.ofRatio false (a * c) (b * d)
  | _, _ => .infinite false

/-- The rounded sum of doubles without sign. -/
def sum (x y : Binary64) : Binary64 :=
  match ratioOf? x, ratioOf? y with
  | some (a, b), some (c, d) => Binary64.ofRatio false (a * d + c * b) (b * d)
  | _, _ => .infinite false

/-- The sum of places in base sixty, from the last one on, which weighs `weight`. Each weight is
rounded before it is used, so it must not lie beyond the largest double. -/
def sumSixties (weight : Nat) (total : Binary64) : List Binary64 → Except Failure Binary64
  | [] => .ok total
  | x :: rest =>
    match Binary64.ofInt? weight with
    | some w => sumSixties (weight * 60) (sum total (product x w)) rest
    | none => .error (.fault .integerTooLarge)

def negated : Binary64 → Binary64
  | .finite negative m e => .finite (!negative) m e
  | .infinite negative => .infinite (!negative)
  | .nan written => .nan written

inductive FloatForm where
  | infinity
  | nan
  | decimal (text : List Char)
  | sixties (parts : List (List Char))

/-- The form of a float without sign. -/
def floatForm? (hasSign : Bool) (cs : List Char) : Option FloatForm :=
  let text := String.ofList cs
  if [".inf", ".Inf", ".INF"].contains text then some .infinity
  else if !hasSign && [".nan", ".NaN", ".NAN"].contains text then some .nan
  else if isDecimalFloat hasSign cs then some (.decimal cs)
  else (sixtyFloat? cs).map .sixties

/-- The double that a decimal text names, underscores apart. -/
def readPlace (cs : List Char) : Except Failure Binary64 :=
  Failure.ofOption (Binary64.read? (withoutUnderscores cs))

/-- The value of a float without sign. -/
def FloatForm.value : FloatForm → Except Failure Binary64
  | .infinity => .ok (.infinite false)
  | .nan => .ok (.nan true)
  | .decimal text => readPlace text
  | .sixties parts => do
    let places ← parts.mapM readPlace
    sumSixties 1 (Binary64.zero false) places.reverse

/-! ## Moments -/

/-- A number of at least and at most so many digits, and the rest. -/
def takeNumber? (fewest most : Nat) (cs : List Char) : Option (Nat × List Char) :=
  let digits := (cs.take most).takeWhile Text.isDigit
  if fewest ≤ digits.length then some (natOf 10 digits, cs.drop digits.length) else none

/-- The text after a mark. -/
def skipMark? (mark : Char) : List Char → Option (List Char)
  | c :: rest => if c = mark then some rest else none
  | [] => none

/-- What stands between a date and a time. -/
def skipBetween? : List Char → Option (List Char)
  | 'T' :: rest | 't' :: rest => some rest
  | ' ' :: rest => some (rest.dropWhile (· == ' '))
  | _ => none

/-- The millionths of a second after a point. -/
def takeFraction (cs : List Char) : Nat × List Char :=
  match cs with
  | '.' :: rest =>
    let digits := rest.takeWhile Text.isDigit
    (natOf 10 ((digits ++ List.replicate 6 '0').take 6), rest.dropWhile Text.isDigit)
  | _ => (0, cs)

/-- Minutes away from universal time up to the end, less than a day; outside `none` if the text
is of another form, inside `none` if no zone is given. -/
def zone? (cs : List Char) : Option (Option Int) :=
  match cs.dropWhile (· == ' ') with
  | [] => if cs.isEmpty then some none else none
  | ['Z'] => some (some 0)
  | sign :: rest =>
    if sign = '+' || sign = '-' then do
      let (hours, rest) ← takeNumber? 1 2 rest
      let minutes ←
        if rest.isEmpty then some 0
        else do
          let (n, rest) ← takeNumber? 2 2 (← skipMark? ':' rest)
          if rest.isEmpty then some n else none
      let total : Int := hours * 60 + minutes
      some (some (if sign = '-' then -total else total))
    else none

/-- The numbers of a date with a time: year, month, day, the time of day and the zone. -/
structure Stamp where
  year : Nat
  month : Nat
  day : Nat
  hour : Nat
  minute : Nat
  second : Nat
  microsecond : Nat
  zone : Option Int

/-- Whether a text is a date, and its numbers. -/
def dateNumbers? (cs : List Char) : Option (Nat × Nat × Nat) := do
  let (year, rest) ← takeNumber? 4 4 cs
  let (month, rest) ← takeNumber? 2 2 (← skipMark? '-' rest)
  let (day, rest) ← takeNumber? 2 2 (← skipMark? '-' rest)
  if rest.isEmpty then some (year, month, day) else none

/-- Whether a text is a date with a time, and its numbers. -/
def stamp? (cs : List Char) : Option Stamp := do
  let (year, rest) ← takeNumber? 4 4 cs
  let (month, rest) ← takeNumber? 1 2 (← skipMark? '-' rest)
  let (day, rest) ← takeNumber? 1 2 (← skipMark? '-' rest)
  let (hour, rest) ← takeNumber? 1 2 (← skipBetween? rest)
  let (minute, rest) ← takeNumber? 2 2 (← skipMark? ':' rest)
  let (second, rest) ← takeNumber? 2 2 (← skipMark? ':' rest)
  let (microsecond, rest) := takeFraction rest
  let zone ← zone? rest
  some { year, month, day, hour, minute, second, microsecond, zone }

/-- The moment of a stamp, if the calendar and the clock have it. -/
def Stamp.moment? (s : Stamp) : Option Moment := do
  let date ← Date.ofNumbers? s.year s.month s.day
  let time ← TimeOfDay.ofNumbers? s.hour s.minute s.second s.microsecond
  if s.zone.any (1440 ≤ ·.natAbs) then none else some (.dateTime date time s.zone)

/-! ## All forms -/

/-- The word for the entries of other tables, where a key stands. -/
def mergeWord : List Char := ['<', '<']

/-- The word for a value of its own, which only a key may be. -/
def valueWord : List Char := ['=']

/-- The moment that a text writes; outside `none` if it has not the form of one, inside `none` if
the calendar or the clock has no such moment. -/
def momentOf? (cs : List Char) : Option (Option Moment) :=
  match dateNumbers? cs, stamp? cs with
  | some (year, month, day), _ => some ((Date.ofNumbers? year month day).map .date)
  | none, some stamp => some stamp.moment?
  | none, none => none

/-- The value of a plain scalar. Texts of the form of a number or a moment that mean none are
refused, and so are the two words that are no values. -/
def valueOf (cs : List Char) : Except Failure Value :=
  let text := String.ofList cs
  let (negative, unsigned) := Numeral.takeSign cs
  let hasSign := unsigned.length < cs.length
  match boolOf? text, floatForm? hasSign unsigned, integerForm? unsigned, momentOf? cs with
  | some b, _, _, _ => .ok (.bool b)
  | none, some form, _, _ =>
    form.value.map fun x => .float (if negative then negated x else x)
  | none, none, some form, _ =>
    (Failure.ofOption form.value?).map fun n => .int (if negative then -(n : Int) else n)
  | none, none, none, some moment => (Failure.ofOption moment).map .moment
  | none, none, none, none =>
    if isNull text then .ok .null
    else if cs = mergeWord || cs = valueWord then .error .malformed
    else .ok (.text text)

end LayeredConfig.Yaml
