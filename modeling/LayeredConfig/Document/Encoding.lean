import LayeredConfig.Text.Utf8

/-!
# Encodings of documents

A document may be in UTF-8, UTF-16 or UTF-32. A byte order mark at the front tells which, and is
no part of the text; without one the zero bytes among the first four tell, since a document begins
with an ASCII character.
-/

namespace LayeredConfig

inductive Encoding where
  | utf8
  | utf16 (bigEndian : Bool)
  | utf32 (bigEndian : Bool)
  deriving DecidableEq, Repr

namespace Encoding

/-- The encoding of some bytes, and how many bytes the mark at the front has. -/
def detect (bytes : List UInt8) : Encoding × Nat :=
  match bytes with
  | 0x00 :: 0x00 :: 0xFE :: 0xFF :: _ => (.utf32 true, 4)
  | 0xFF :: 0xFE :: 0x00 :: 0x00 :: _ => (.utf32 false, 4)
  | 0xFE :: 0xFF :: _ => (.utf16 true, 2)
  | 0xFF :: 0xFE :: _ => (.utf16 false, 2)
  | 0xEF :: 0xBB :: 0xBF :: _ => (.utf8, 3)
  | a :: b :: c :: d :: _ =>
    if a = 0 then (if b = 0 then .utf32 true else .utf16 true, 0)
    else if b = 0 then (if c = 0 && d = 0 then .utf32 false else .utf16 false, 0)
    else (.utf8, 0)
  | [a, b] => (if a = 0 then .utf16 true else if b = 0 then .utf16 false else .utf8, 0)
  | _ => (.utf8, 0)

/-- The number that bytes write, in the given order. -/
def number (bigEndian : Bool) (bytes : List UInt8) : Nat :=
  (if bigEndian then bytes else bytes.reverse).foldl (fun n b => n * 256 + b.toNat) 0

/-- The units of `size + 1` bytes; none if bytes are left over. -/
def units? (bigEndian : Bool) (size : Nat) (bytes : List UInt8) : Option (List Nat) :=
  match bytes with
  | [] => some []
  | b :: rest =>
    if rest.length < size then none
    else
      (units? bigEndian size (rest.drop size)).map
        (number bigEndian (b :: rest.take size) :: ·)
termination_by bytes.length
decreasing_by simp only [List.length_drop, List.length_cons]; omega

def isHighSurrogate (n : Nat) : Bool := 0xD800 ≤ n && n < 0xDC00

def isLowSurrogate (n : Nat) : Bool := 0xDC00 ≤ n && n < 0xE000

/-- The character of a code point; a surrogate alone has none and is replaced. -/
def charOf (n : Nat) : Char :=
  if 0xD800 ≤ n && n < 0xE000 then '\uFFFD' else Char.ofNat n

/-- The code point of a pair of surrogates. -/
def joinSurrogates (high low : Nat) : Nat :=
  0x10000 + (high - 0xD800) * 0x400 + (low - 0xDC00)

/-- The characters of UTF-16 units. -/
def ofUnits16 : List Nat → List Char
  | high :: low :: rest =>
    if isHighSurrogate high && isLowSurrogate low then
      charOf (joinSurrogates high low) :: ofUnits16 rest
    else charOf high :: ofUnits16 (low :: rest)
  | [n] => [charOf n]
  | [] => []

/-- Whether surrogates only stand in pairs, the high one first. -/
def isPaired : List Nat → Bool
  | high :: low :: rest =>
    if isHighSurrogate high then isLowSurrogate low && isPaired rest
    else !isLowSurrogate high && isPaired (low :: rest)
  | [n] => !isHighSurrogate n && !isLowSurrogate n
  | [] => true

/-- The characters of UTF-32 units, if all are code points. -/
def ofUnits32? (units : List Nat) : Option (List Char) :=
  if units.all (· < 0x110000) then some (units.map charOf) else none

/-- The text of a document. -/
def decode? (bytes : List UInt8) : Option (List Char) :=
  let (encoding, mark) := detect bytes
  let content := bytes.drop mark
  match encoding with
  | .utf8 => Utf8.decode? content
  | .utf16 bigEndian => (units? bigEndian 1 content).map ofUnits16
  | .utf32 bigEndian => (units? bigEndian 3 content).bind ofUnits32?

end Encoding

end LayeredConfig
