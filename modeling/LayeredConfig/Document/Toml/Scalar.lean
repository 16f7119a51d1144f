import LayeredConfig.Number.Binary64
import LayeredConfig.Value.Basic

/-!
# TOML scalars — strings, dates and times, numbers

Every reader takes a value from the front of a text and leaves the rest. Strings are basic or
literal, on one line or on several; dates and times of day stand alone or together.
-/

namespace LayeredConfig.Toml

/-- Controls must not stand in a text; tabs may, and line feeds where lines may end. -/
def isIllegal (multiline : Bool) (c : Char) : Bool :=
  (c.toNat < 32 || c.toNat = 127) && c ≠ '\t' && !(multiline && c = '\n')

def isSpace (c : Char) : Bool := c == ' ' || c == '\t'

def isSpaceOrNewline (c : Char) : Bool := isSpace c || c == '\n'

def skipSpaces (cs : List Char) : List Char := cs.dropWhile isSpace

/-! ## Strings -/

/-- The character that so many hexadecimal digits name. -/
def takeHex? (count : Nat) (cs : List Char) : Option (Char × List Char) := do
  if cs.length < count then none
  let digits ← (cs.take count).mapM fun c => (Text.baseDigit? c).filter (· < 16)
  let code := Numeral.ofDigits 16 digits
  if (0xD800 ≤ code && code < 0xE000) || 0x110000 ≤ code then none
  else some (Char.ofNat code, cs.drop count)

/-- The line break after a backslash, with the blanks around it. -/
def takeLineEnd? (cs : List Char) : Option (List Char × List Char) :=
  match cs with
  | '\n' :: rest => some ([], rest.dropWhile isSpaceOrNewline)
  | _ =>
    match skipSpaces cs with
    | [] => some ([], [])
    | '\n' :: rest => some ([], rest.dropWhile isSpaceOrNewline)
    | _ => none

/-- What an escape after the backslash stands for. -/
def takeEscape? (multiline : Bool) (cs : List Char) : Option (List Char × List Char) :=
  match cs with
  | [] => none
  | c :: rest =>
    if multiline && isSpaceOrNewline c then takeLineEnd? cs
    else if c = 'u' then (takeHex? 4 rest).map fun (x, after) => ([x], after)
    else if c = 'U' then (takeHex? 8 rest).map fun (x, after) => ([x], after)
    else if c = 'b' then some (['\x08'], rest)
    else if c = 't' then some (['\t'], rest)
    else if c = 'n' then some (['\n'], rest)
    else if c = 'f' then some (['\x0c'], rest)
    else if c = 'r' then some (['\r'], rest)
    else if c = '"' then some (['"'], rest)
    else if c = '\\' then some (['\\'], rest)
    else none

/-- A basic string up to its closing quotes. -/
def takeBasic? (multiline : Bool) : (fuel : Nat) → List Char → Option (List Char × List Char)
  | 0, _ => none
  | _ + 1, [] => none
  | fuel + 1, c :: rest =>
    if c = '"' && !multiline then some ([], rest)
    else if c = '"' && rest.take 2 = ['"', '"'] then some ([], rest.drop 2)
    else if c = '\\' then do
      let (escaped, more) ← takeEscape? multiline rest
      let (cs, after) ← takeBasic? multiline fuel more
      some (escaped ++ cs, after)
    else if isIllegal multiline c then none
    else do
      let (cs, after) ← takeBasic? multiline fuel rest
      some (c :: cs, after)

/-- A literal string up to its closing quotes. -/
def takeLiteral? (multiline : Bool) (cs : List Char) : Option (List Char × List Char) := do
  let closing := if multiline then ['\'', '\'', '\''] else ['\'']
  let (inside, after) ← Text.cutAt? closing cs
  if inside.any (isIllegal multiline) then none else some (inside, after)

/-- At most two further quotes belong to the string that they follow. -/
def withQuotes (quote : Char) (s : List Char) (rest : List Char) : List Char × List Char :=
  let extra := min 2 (rest.takeWhile (· == quote)).length
  (s ++ List.replicate extra quote, rest.drop extra)

/-- A line feed right after the opening quotes does not count. -/
def skipNewline : List Char → List Char
  | '\n' :: rest => rest
  | cs => cs

/-- A string on one line, after its opening quote. -/
def takeLine? (quote : Char) (cs : List Char) : Option (List Char × List Char) :=
  if quote = '"' then takeBasic? false (cs.length + 1) cs else takeLiteral? false cs

/-- A string on several lines, after its opening quotes. -/
def takeLines? (quote : Char) (cs : List Char) : Option (List Char × List Char) := do
  let body := skipNewline cs
  let (s, rest) ←
    if quote = '"' then takeBasic? true (body.length + 1) body else takeLiteral? true body
  some (withQuotes quote s rest)

/-- A string at the front. -/
def takeString? (cs : List Char) : Option (List Char × List Char) :=
  match cs with
  | [] => none
  | quote :: rest =>
    if quote = '"' || quote = '\'' then
      if rest.take 2 = [quote, quote] then takeLines? quote (rest.drop 2) else takeLine? quote rest
    else none

/-! ## Dates and times of day -/

/-- A number of so many digits within bounds. -/
def takeNumeral? (count low high : Nat) (cs : List Char) : Option (Nat × List Char) :=
  let digits := cs.take count
  if digits.length = count && digits.all Text.isDigit then
    let n := Numeral.ofDigits 10 (digits.filterMap Text.baseDigit?)
    if low ≤ n && n ≤ high then some (n, cs.drop count) else none
  else none

/-- A mark at the front. -/
def takeMark? (mark : Char) : List Char → Option (Unit × List Char)
  | c :: rest => if c = mark then some ((), rest) else none
  | [] => none

/-- The millionths of a second after a point; further digits do not count. -/
def takeFraction (cs : List Char) : Nat × List Char :=
  match cs with
  | '.' :: rest =>
    let digits := rest.takeWhile Text.isDigit
    if digits.isEmpty then (0, cs)
    else
      let six := (digits ++ List.replicate 6 '0').take 6
      (Numeral.ofDigits 10 (six.filterMap Text.baseDigit?), rest.dropWhile Text.isDigit)
  | _ => (0, cs)

/-- A time of day with seconds. -/
def takeTime? (cs : List Char) : Option (TimeOfDay × List Char) := do
  let (hour, rest) ← takeNumeral? 2 0 23 cs
  let (_, rest) ← takeMark? ':' rest
  let (minute, rest) ← takeNumeral? 2 0 59 rest
  let (_, rest) ← takeMark? ':' rest
  let (second, rest) ← takeNumeral? 2 0 59 rest
  let (microsecond, rest) := takeFraction rest
  some (⟨hour, minute, second, microsecond⟩, rest)

/-- A distance from universal time with a sign. -/
def takeSignedOffset? (negative : Bool) (cs : List Char) : Option (Int × List Char) := do
  let (hours, rest) ← takeNumeral? 2 0 23 cs
  let (_, rest) ← takeMark? ':' rest
  let (minutes, rest) ← takeNumeral? 2 0 59 rest
  let total : Int := hours * 60 + minutes
  some (if negative then -total else total, rest)

/-- The distance from universal time, if one is given. -/
def takeOffset (cs : List Char) : Option Int × List Char :=
  let signed (negative : Bool) (rest : List Char) :=
    match takeSignedOffset? negative rest with
    | some (n, after) => (some n, after)
    | none => (none, cs)
  match cs with
  | 'Z' :: rest | 'z' :: rest => (some 0, rest)
  | '+' :: rest => signed false rest
  | '-' :: rest => signed true rest
  | _ => (none, cs)

/-- The numbers of a date. -/
def takeDate? (cs : List Char) : Option ((Nat × Nat × Nat) × List Char) := do
  let (year, rest) ← takeNumeral? 4 0 9999 cs
  let (_, rest) ← takeMark? '-' rest
  let (month, rest) ← takeNumeral? 2 1 12 rest
  let (_, rest) ← takeMark? '-' rest
  let (day, rest) ← takeNumeral? 2 1 31 rest
  some ((year, month, day), rest)

/-- The time of day after a date, if there is one. -/
def takeTimePart? : List Char → Option (TimeOfDay × List Char)
  | 'T' :: rest | 't' :: rest | ' ' :: rest => takeTime? rest
  | _ => none

/-- A moment at the front: `none` if there is none, `some none` if the calendar has no such date. -/
def takeMoment? (cs : List Char) : Option (Option (Moment × List Char)) :=
  match takeDate? cs with
  | some ((year, month, day), rest) =>
    some do
      let date ← Date.ofNumbers? year month day
      match takeTimePart? rest with
      | some (time, after) =>
        let (offset, after) := takeOffset after
        some (.dateTime date time offset, after)
      | none => some (.date date, rest)
  | none => (takeTime? cs).map fun (time, rest) => some (.time time, rest)

/-! ## Numbers -/

/-- Digits at the front, single underscores between them. -/
def takeDigits (isDigit : Char → Bool) : List Char → List Char × List Char
  | [] => ([], [])
  | [c] => if isDigit c then ([c], []) else ([], [c])
  | c :: next :: rest =>
    if isDigit c then
      let (ds, after) := takeDigits isDigit (next :: rest)
      (c :: ds, after)
    else if c = '_' && isDigit next then
      let (ds, after) := takeDigits isDigit (next :: rest)
      (c :: ds, after)
    else ([], c :: next :: rest)

/-- Digits at the front that begin with one. -/
def takeDigits? (isDigit : Char → Bool) (cs : List Char) : Option (List Char × List Char) :=
  if (cs.head?.map isDigit).getD false then some (takeDigits isDigit cs) else none

/-- A number that names its base after a zero. -/
def takeBased? (cs : List Char) : Option (List Char × List Char) :=
  let inBase (mark : Char) (base : Nat) (rest : List Char) : Option (List Char × List Char) :=
    (takeDigits? (fun c => (Text.baseDigit? c).any (· < base)) rest).map
      fun (ds, after) => ('0' :: mark :: ds, after)
  match cs with
  | '0' :: 'x' :: rest => inBase 'x' 16 rest
  | '0' :: 'b' :: rest => inBase 'b' 2 rest
  | '0' :: 'o' :: rest => inBase 'o' 8 rest
  | _ => none

/-- A fraction or nothing. -/
def takeFractionPart (cs : List Char) : List Char × List Char :=
  match cs with
  | '.' :: rest =>
    match takeDigits? Text.isDigit rest with
    | some (ds, after) => ('.' :: ds, after)
    | none => ([], cs)
  | _ => ([], cs)

/-- An exponent or nothing. -/
def takeExponentPart (cs : List Char) : List Char × List Char :=
  match cs with
  | [] => ([], [])
  | c :: rest =>
    if c = 'e' || c = 'E' then
      let (sign, unsigned) :=
        match rest with
        | '+' :: more => (['+'], more)
        | '-' :: more => (['-'], more)
        | _ => ([], rest)
      match takeDigits? Text.isDigit unsigned with
      | some (ds, after) => (c :: sign ++ ds, after)
      | none => ([], cs)
    else ([], cs)

/-- An optional sign. -/
def takeSign (cs : List Char) : List Char × List Char :=
  match cs with
  | '+' :: rest => (['+'], rest)
  | '-' :: rest => (['-'], rest)
  | _ => ([], cs)

/-- The whole part of a number has no leading zero. -/
def takeWhole? : List Char → Option (List Char × List Char)
  | '0' :: rest => some (['0'], rest)
  | cs => takeDigits? Text.isDigit cs

/-- The text of a decimal number, and whether it has a fraction or an exponent. -/
def takeDecimal? (cs : List Char) : Option ((List Char × Bool) × List Char) := do
  let (sign, unsigned) := takeSign cs
  let (whole, rest) ← takeWhole? unsigned
  let (fraction, rest) := takeFractionPart rest
  let (exponent, rest) := takeExponentPart rest
  some ((sign ++ whole ++ fraction ++ exponent, !(fraction ++ exponent).isEmpty), rest)

/-- The value of the text of a number. -/
def numberOf? (text : List Char) (isFloat : Bool) : Option Value :=
  if isFloat then (Binary64.read? text).map .float
  else
    match Numeral.read 0 text with
    | .ok n => some (.int n)
    | .error _ => none

/-- An infinity or NaN, with an optional sign. -/
def takeSpecial? (cs : List Char) : Option (Value × List Char) := do
  let (sign, unsigned) := takeSign cs
  let word := unsigned.take 3
  if word = ['i', 'n', 'f'] || word = ['n', 'a', 'n'] then
    let x ← Binary64.read? (sign ++ word)
    some (.float x, unsigned.drop 3)
  else none

/-- A number at the front. -/
def takeNumber? (cs : List Char) : Option (Value × List Char) :=
  match takeBased? cs with
  | some (text, rest) => (numberOf? text false).map (·, rest)
  | none =>
    match takeDecimal? cs with
    | some ((text, isFloat), rest) => (numberOf? text isFloat).map (·, rest)
    | none => takeSpecial? cs

end LayeredConfig.Toml
