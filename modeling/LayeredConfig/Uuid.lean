import LayeredConfig.Number.Numeral
import LayeredConfig.Text.Quoted
import LayeredConfig.Text.Split

/-!
# UUIDs — 128-bit identifiers

They are written as 32 hexadecimal digits in groups of 8, 4, 4, 4 and 12. Braces around, hyphens
anywhere and the words `urn:` and `uuid:` do not count when one is read.
-/

namespace LayeredConfig

structure Uuid where
  number : Nat
  deriving DecidableEq, Repr, Inhabited

namespace Uuid

/-- Why a text is no UUID. -/
inductive ReadError where
  | wrongLength
  | notHexadecimal (digits : String)
  | outOfRange
  deriving DecidableEq, Repr

def text (u : Uuid) : String :=
  let digits := Text.hexDigits 32 u.number
  let group (start count : Nat) := String.ofList ((digits.drop start).take count)
  "-".intercalate [group 0 8, group 8 4, group 12 4, group 16 4, group 20 12]

/-- Braces at the two ends are dropped. -/
def trimBraces (cs : List Char) : List Char :=
  let isBrace (c : Char) := c == '{' || c == '}'
  ((cs.dropWhile isBrace).reverse.dropWhile isBrace).reverse

/-- The characters that must be the 32 digits. -/
def core (cs : List Char) : List Char :=
  let unmarked := Text.replace "uuid:".toList [] (Text.replace "urn:".toList [] cs)
  (trimBraces unmarked).filter (· ≠ '-')

/-- The UUID that a text names. -/
def read (cs : List Char) : Except ReadError Uuid :=
  let digits := core cs
  if digits.length ≠ 32 then .error .wrongLength
  else
    match Numeral.read 16 digits with
    | .error _ => .error (.notHexadecimal (String.ofList digits))
    | .ok n => if 0 ≤ n then .ok ⟨n.toNat⟩ else .error .outOfRange

end Uuid

end LayeredConfig
