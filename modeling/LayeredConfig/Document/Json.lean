import LayeredConfig.Document.Encoding
import LayeredConfig.Number.Binary64
import LayeredConfig.Value.Equality

/-!
# JSON documents

Values are read as the format defines them; `NaN` and the two infinities are read as well. A name
that is repeated in an object takes its last value. Integers stay exact, numbers with a fraction
or an exponent become floats.
-/

namespace LayeredConfig.Json

/-- Spaces between the parts of a document. -/
def isSpace (c : Char) : Bool :=
  c == ' ' || c == '\t' || c == '\n' || c == '\r'

def skipSpaces (cs : List Char) : List Char :=
  cs.dropWhile isSpace

/-- The number that four hexadecimal digits write, and the rest. -/
def takeHex4? : List Char → Option (Nat × List Char)
  | a :: b :: c :: d :: rest => do
    let digits ← [a, b, c, d].mapM fun x => (Text.baseDigit? x).filter (· < 16)
    some (digits.foldl (fun n d => n * 16 + d) 0, rest)
  | _ => none

/-- The character of a code unit after `\u`; a low surrogate written next joins a high one. -/
def takeUnit? (unit : Nat) (rest : List Char) : Option (Char × List Char) :=
  if Encoding.isHighSurrogate unit then
    match rest with
    | '\\' :: 'u' :: more => do
      let (low, after) ← takeHex4? more
      if Encoding.isLowSurrogate low then
        some (Encoding.charOf (Encoding.joinSurrogates unit low), after)
      else some (Encoding.charOf unit, rest)
    | _ => some (Encoding.charOf unit, rest)
  else some (Encoding.charOf unit, rest)

/-- The character of an escape after the backslash, and the rest. -/
def takeEscape? : List Char → Option (Char × List Char)
  | '"' :: rest => some ('"', rest)
  | '\\' :: rest => some ('\\', rest)
  | '/' :: rest => some ('/', rest)
  | 'b' :: rest => some ('\x08', rest)
  | 'f' :: rest => some ('\x0c', rest)
  | 'n' :: rest => some ('\n', rest)
  | 'r' :: rest => some ('\r', rest)
  | 't' :: rest => some ('\t', rest)
  | 'u' :: rest => do
    let (unit, more) ← takeHex4? rest
    takeUnit? unit more
  | _ => none

/-- The text up to the closing quote, and the rest. -/
def takeString? : (fuel : Nat) → List Char → Option (List Char × List Char)
  | 0, _ => none
  | _ + 1, [] => none
  | fuel + 1, c :: rest =>
    if c = '"' then some ([], rest)
    else if c = '\\' then do
      let (escaped, more) ← takeEscape? rest
      let (cs, after) ← takeString? fuel more
      some (escaped :: cs, after)
    else if c.toNat < 0x20 then none
    else do
      let (cs, after) ← takeString? fuel rest
      some (c :: cs, after)

/-- Digits at the front, and the rest. -/
def takeDigits (cs : List Char) : List Char × List Char :=
  (cs.takeWhile Text.isDigit, cs.dropWhile Text.isDigit)

/-- A fraction at the front; a point without digits begins none. -/
def takeFraction : List Char → List Char × List Char
  | '.' :: rest =>
    match takeDigits rest with
    | ([], _) => ([], '.' :: rest)
    | (digits, after) => ('.' :: digits, after)
  | cs => ([], cs)

/-- An exponent at the front; a mark without digits begins none. -/
def takeExponent : List Char → List Char × List Char
  | [] => ([], [])
  | c :: rest =>
    if c = 'e' || c = 'E' then
      let (sign, digits) :=
        match rest with
        | '+' :: more => (['+'], more)
        | '-' :: more => (['-'], more)
        | more => ([], more)
      match takeDigits digits with
      | ([], _) => ([], c :: rest)
      | (ds, after) => (c :: sign ++ ds, after)
    else ([], c :: rest)

/-- The digits before the point: a single zero, or digits without a leading zero. -/
def takeWhole? : List Char → Option (List Char × List Char)
  | '0' :: rest => some (['0'], rest)
  | cs =>
    match takeDigits cs with
    | ([], _) => none
    | found => some found

/-- A number at the front, and the rest. -/
def takeNumber? (cs : List Char) : Option (Value × List Char) := do
  let (sign, unsigned) :=
    match cs with
    | '-' :: rest => (['-'], rest)
    | _ => ([], cs)
  let (whole, rest) ← takeWhole? unsigned
  let (fraction, rest) := takeFraction rest
  let (exponent, rest) := takeExponent rest
  if fraction.isEmpty && exponent.isEmpty then
    match Numeral.read 10 (sign ++ whole) with
    | .ok n => some (.int n, rest)
    | .error _ => none
  else
    let x ← Binary64.read? (sign ++ whole ++ fraction ++ exponent)
    some (.float x, rest)

/-- The words that are values. -/
def words : List (String × Value) :=
  [("null", .null), ("true", .bool true), ("false", .bool false), ("NaN", .float (.nan true)),
    ("Infinity", .float (.infinite false)), ("-Infinity", .float (.infinite true))]

/-- A word at the front, and the rest. -/
def takeWord? (cs : List Char) : Option (Value × List Char) :=
  words.findSome? fun (word, v) => (word.toList.isPrefixOf? cs).map (v, ·)

mutual

/-- A value at the front, and the rest. -/
def takeValue? : (fuel : Nat) → List Char → Option (Value × List Char)
  | 0, _ => none
  | fuel + 1, cs =>
    match cs with
    | '"' :: rest => do
      let (s, after) ← takeString? (rest.length + 1) rest
      some (.text (String.ofList s), after)
    | '\x7b' :: rest => do
      match skipSpaces rest with
      | '\x7d' :: after => some (.dict [], after)
      | more => do
        let (entries, after) ← takeEntries? fuel more
        some (Value.ofEntries entries, after)
    | '[' :: rest => do
      match skipSpaces rest with
      | ']' :: after => some (.list [], after)
      | more => do
        let (items, after) ← takeItems? fuel more
        some (.list items, after)
    | _ => (takeWord? cs).or (takeNumber? cs)

/-- The items of an array up to its end. -/
def takeItems? : (fuel : Nat) → List Char → Option (List Value × List Char)
  | 0, _ => none
  | fuel + 1, cs => do
    let (v, rest) ← takeValue? fuel cs
    match skipSpaces rest with
    | ']' :: after => some ([v], after)
    | ',' :: more => do
      let (others, after) ← takeItems? fuel (skipSpaces more)
      some (v :: others, after)
    | _ => none

/-- The entries of an object up to its end. -/
def takeEntries? : (fuel : Nat) → List Char → Option (List (Value × Value) × List Char)
  | 0, _ => none
  | fuel + 1, cs =>
    match cs with
    | '"' :: rest => do
      let (name, rest) ← takeString? (rest.length + 1) rest
      match skipSpaces rest with
      | ':' :: more => do
        let (v, rest) ← takeValue? fuel (skipSpaces more)
        let entry := (Value.text (String.ofList name), v)
        match skipSpaces rest with
        | '\x7d' :: after => some ([entry], after)
        | ',' :: more => do
          let (others, after) ← takeEntries? fuel (skipSpaces more)
          some (entry :: others, after)
        | _ => none
      | _ => none
    | _ => none

end

/-- The value that a text writes. -/
def parse? (cs : List Char) : Option Value := do
  let (v, rest) ← takeValue? (2 * cs.length + 1) (skipSpaces cs)
  if (skipSpaces rest).isEmpty then some v else none

/-- The value that a document holds. -/
def read? (bytes : List UInt8) : Option Value := do
  let cs ← Encoding.decode? bytes
  parse? cs

end LayeredConfig.Json
