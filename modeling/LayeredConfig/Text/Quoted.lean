import LayeredConfig.Text.Character
import LayeredConfig.Text.PrintableTable

/-!
# Quoted texts — how a text is shown inside a message

A text stands in apostrophes, or in double quotes if it has an apostrophe and no double quote.
The quote in use and the backslash are escaped, and so is all that is not printable.
-/

namespace LayeredConfig.Text

/-- Characters that are shown as themselves. -/
def isPrintable (c : Char) : Bool :=
  if c.toNat < 128 then 32 ≤ c.toNat && c.toNat < 127
  else printableRanges.any fun (first, last) => first ≤ c.toNat && c.toNat ≤ last

/-- The last `width` hexadecimal digits of a number. -/
def hexDigits : (width n : Nat) → List Char
  | 0, _ => []
  | width + 1, n => hexDigits width (n / 16) ++ [digitChar (n % 16)]

/-- The quote that needs the fewest escapes, the apostrophe if both are in the text. -/
def quoteFor (cs : List Char) : Char :=
  if cs.contains '\'' && !cs.contains '"' then '"' else '\''

/-- One character between quotes. -/
def escapeChar (quote c : Char) : List Char :=
  if c == quote || c == '\\' then ['\\', c]
  else if c == '\n' then ['\\', 'n']
  else if c == '\r' then ['\\', 'r']
  else if c == '\t' then ['\\', 't']
  else if isPrintable c then [c]
  else if c.toNat < 0x100 then '\\' :: 'x' :: hexDigits 2 c.toNat
  else if c.toNat < 0x10000 then '\\' :: 'u' :: hexDigits 4 c.toNat
  else '\\' :: 'U' :: hexDigits 8 c.toNat

/-- The text between the quotes that fit it. -/
def quotedChars (cs : List Char) : List Char :=
  let quote := quoteFor cs
  quote :: cs.flatMap (escapeChar quote) ++ [quote]

/-- The string between the quotes that fit it. -/
def quoted (s : String) : String :=
  String.ofList (quotedChars s.toList)

/-- One byte between quotes: printable ASCII stands for itself. -/
def escapeByte (quote : Char) (b : UInt8) : List Char :=
  let c := Char.ofNat b.toNat
  if b.toNat < 128 then
    if c == quote || c == '\\' || c == '\n' || c == '\r' || c == '\t' || isPrintable c then
      escapeChar quote c
    else '\\' :: 'x' :: hexDigits 2 b.toNat
  else '\\' :: 'x' :: hexDigits 2 b.toNat

/-- Bytes in the same quotes, after the letter `b`. -/
def quotedBytes (bs : List UInt8) : String :=
  let quote := quoteFor (bs.map fun b => Char.ofNat b.toNat)
  String.ofList ('b' :: quote :: bs.flatMap (escapeByte quote) ++ [quote])

end LayeredConfig.Text
