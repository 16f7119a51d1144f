import LayeredConfig.Conversion.Reading
import LayeredConfig.Conversion.Target
import LayeredConfig.Value.Display

/-!
# Built-in conversion functions

One function for each kind of value that can be asked for. They are called with values that are
not of that kind already; what they cannot read they reject with a fault. Members of enumerations that
are values of another kind as well are read as such.
-/

namespace LayeredConfig.Conversion

/-- The plain text of a value. -/
def plainText (v : Value) : Except Fault String :=
  match v.text? with
  | some s => .ok s
  | none => .error .tooLongToWrite

/-- The quoted text of a value. -/
def quotedText (v : Value) : Except Fault String :=
  match v.quoted? with
  | some s => .ok s
  | none => .error .tooLongToWrite

def unsupported {α : Type} (v : Value) : Except Fault α :=
  .error (.unsupportedKind v.kindName)

mutual

/-- A member gives its name, a collection the texts of its elements between commas. -/
def toText : Value → Except Fault String
  | .member _ name _ => .ok name
  | .bool b => .ok (if b then "true" else "false")
  | .list items | .tuple items | .set items | .frozenset items => do
    let texts ← toTexts items
    pure (",".intercalate texts)
  | v => plainText v

def toTexts : List Value → Except Fault (List String)
  | [] => pure []
  | v :: rest => do
    let text ← toText v
    let others ← toTexts rest
    pure (text :: others)

end

/-- The integer that a decimal is cut to. -/
def truncated : Decimal → Except Fault Int
  | .finite negative coefficient exponent =>
    let n : Nat :=
      if 0 ≤ exponent then coefficient * Nat.pow 10 exponent.toNat
      else
        let places := (-exponent).toNat
        if (Numeral.natChars coefficient).length < places then 0
        else coefficient / Nat.pow 10 places
    .ok (if negative then -(n : Int) else n)
  | .infinite _ => .error .infiniteInteger
  | .nan .. => .error .nanInteger

/-- A float must be whole; the places of a decimal are cut off. -/
def toInt (v : Value) : Except Fault Int :=
  match v.plain with
  | .text s => readInt s
  | .bool b => .ok (if b then 1 else 0)
  | .int n => .ok n
  | .float x =>
    match x.toInt? with
    | some n => .ok n
    | none => do
      let shown ← quotedText v
      .error (.fractionalPart shown)
  | .decimal d => truncated d
  | _ => unsupported v

def floatOfInt (n : Int) : Except Fault Binary64 :=
  match Binary64.ofInt? n with
  | some x => .ok x
  | none => .error .integerTooLarge

def toFloat (v : Value) : Except Fault Binary64 :=
  match v.plain with
  | .text s =>
    match Binary64.read? s.toList with
    | some x => .ok x
    | none => do
      let shown ← quotedText v
      .error (.invalidFloat shown)
  | .int n => floatOfInt n
  | .float x => .ok x
  | .decimal (.finite negative c e) => .ok (Binary64.ofScientific negative c e)
  | .decimal (.infinite negative) => .ok (.infinite negative)
  | .decimal (.nan _ signaling _) => if signaling then .error .signalingNan else .ok (.nan false)
  | _ => unsupported v

def readDecimal (s : String) : Except Fault Decimal :=
  (Decimal.read s.toList).mapError Fault.ofDecimal

/-- Numbers are read from their texts, so that a float gives the digits it is shown with. -/
def toDecimal (v : Value) : Except Fault Decimal :=
  match v.plain with
  | .text s => readDecimal s
  | .int _ | .float _ => do
    let text ← plainText v
    readDecimal text
  | _ => unsupported v

/-- Whether a number is zero or one; a signaling NaN cannot be compared. -/
def binaryDigit (v : Value) : Except Fault (Option Bool) :=
  match v.plain with
  | .decimal (.nan _ true _) => .error .invalidOperation
  | _ =>
    if v.same (.int 0) then .ok (some false)
    else if v.same (.int 1) then .ok (some true)
    else .ok none

/-- Only the numbers zero and one are Booleans; a blank text gives nothing. -/
def toBool (v : Value) : Except Fault Value :=
  match v.plain with
  | .text s =>
    match readBool s with
    | .ok (some b) => .ok (.bool b)
    | .ok none => .ok .null
    | .error _ => do
      let shown ← plainText v
      .error (.invalidBoolean shown)
  | _ =>
    if v.isNumber then do
      let digit ← binaryDigit v
      match digit with
      | some b => pure (.bool b)
      | none => do
        let shown ← quotedText v
        .error (.notBooleanNumber shown)
    else unsupported v

def toPath (v : Value) : Except Fault Value := do
  let text ← plainText v
  pure (.path (Path.ofString text))

def toUuid (v : Value) : Except Fault Value := do
  let text ← plainText v
  match Uuid.read text.toList with
  | .ok u => pure (.uuid u)
  | .error e => .error (Fault.ofUuid e)

/-- The member that a text names, up to letter case if no name is spelled exactly so. -/
def memberNamed (e : Enumeration) (s : String) : Except Fault Value :=
  let name := Text.trimString s
  if name = "" then .error .emptyName
  else
    match e.declared? name with
    | some v => .ok v
    | none =>
      let alike (entry : String × Value) := Text.lowerString entry.1 = Text.lowerString name
      match e.listed.find? alike with
      | some entry => .ok (e.member entry)
      | none => .error (.unknownName name)

/-- A signaling NaN cannot be compared with the numbers among the members. -/
def cannotCompare (e : Enumeration) (v : Value) : Bool :=
  match v.plain with
  | .decimal d => d.isSignaling && e.members.any fun entry => entry.2.isNumber
  | _ => false

/-- The member that has a value, or else the one that the enumeration makes for it. -/
def memberValued (e : Enumeration) (v : Value) : Except Fault Value :=
  if cannotCompare e v then .error .invalidOperation
  else
    match e.members.find? fun entry => entry.2.same v with
    | some entry => .ok (e.member entry)
    | none =>
      match e.missing v with
      | .ok (some entry) => .ok (e.member entry)
      | .ok none => do
        let shown ← quotedText v
        .error (.notMember shown e.name)
      | .error f => do
        -- The text of the value is asked for even where it is not used.
        let _ ← quotedText v
        .error f

/-- Texts name members, other values are looked up among the values of the members. -/
def toMember (e : Enumeration) (v : Value) : Except Fault Value :=
  match v.plain with
  | .text s => memberNamed e s
  | _ => memberValued e v

/-- What a collection is built from: the entries of a text, the elements of a collection, or the
value alone. -/
def itemsOf (v : Value) : List Value :=
  match v.plain with
  | .text s => (splitCommas s).map .text
  | .list items | .tuple items | .set items | .frozenset items => items
  | _ => [v]

/-- The single flags that a flag is made of. -/
def flagsOf? : Value → Option (List Value)
  | .member c _ (.int n) =>
    c.flags.map fun singles =>
      (singles.filter fun single => n.toNat &&& single.2 != 0).map fun single =>
        .member c single.1 (.int single.2)
  | _ => none

/-- What is met when a value is gone through: the characters of a text, the numbers of bytes, the
elements of a collection, the keys of a dictionary. -/
def elements (v : Value) : Except Fault (List Value) :=
  match v.plain with
  | .text s => .ok (s.toList.map fun c => .text (String.singleton c))
  | .bytes bs => .ok (bs.map fun b => .int b.toNat)
  | .list items | .tuple items | .set items | .frozenset items => .ok items
  | .dict entries => .ok (entries.map (·.1))
  | _ =>
    match flagsOf? v with
    | some flags => .ok flags
    | none => .error (.notIterable v.kindName)

/-- The elements of a set, if all of them can be. -/
def setItems (items : List Value) : Except Fault (List Value) :=
  match Value.unhashableItem? items with
  | some (.ofKind name) => .error (.unhashableKind name)
  | some .signalingNan => .error .unhashableNan
  | none => .ok (Value.distinct items)

end LayeredConfig.Conversion
