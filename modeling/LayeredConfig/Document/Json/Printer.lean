import LayeredConfig.Conversion.Builtin

/-!
# Writing JSON

Texts are written in printable ASCII, characters of the upper planes as pairs of surrogates.
Floats are written as they read back, `NaN` and the infinities by name. Keys of tables become
texts.
-/

namespace LayeredConfig.Json

/-- An escape of a code unit. -/
def unitEscape (unit : Nat) : List Char :=
  '\\' :: 'u' :: Text.hexDigits 4 unit

/-- One character of a string. -/
def writeChar (c : Char) : List Char :=
  let n := c.toNat
  if c = '"' || c = '\\' then ['\\', c]
  else if c = '\n' then ['\\', 'n']
  else if c = '\r' then ['\\', 'r']
  else if c = '\t' then ['\\', 't']
  else if c = '\x08' then ['\\', 'b']
  else if c = '\x0c' then ['\\', 'f']
  else if 32 ≤ n && n < 127 then [c]
  else if n < 0x10000 then unitEscape n
  else
    unitEscape (0xD800 + (n - 0x10000) / 0x400) ++ unitEscape (0xDC00 + (n - 0x10000) % 0x400)

/-- A string between double quotes. -/
def writeText (s : String) : String :=
  String.ofList ('"' :: s.toList.flatMap writeChar ++ ['"'])

/-- A float as it reads back. -/
def writeFloat : Binary64 → String
  | .nan _ => "NaN"
  | .infinite negative => if negative then "-Infinity" else "Infinity"
  | x => x.text

def writeInt (n : Int) : Except Fault String :=
  match Numeral.intText? n with
  | some s => .ok s
  | none => .error .tooLongToWrite

/-- The text of a key. -/
def keyText (v : Value) : Except Fault String :=
  match v.plain with
  | .text s => .ok s
  | .float x => .ok (writeFloat x)
  | .bool b => .ok (if b then "true" else "false")
  | .null => .ok "null"
  | .int n => writeInt n
  | _ => .error (.unwritableKey v.kindName)

/-- Whether values of a kind can be written. -/
def hasNotation : Value → Bool
  | .null | .bool _ | .text _ | .int _ | .float _ | .list _ | .tuple _ | .dict _ => true
  | _ => false

mutual

/-- A value on one line. -/
def write : Value → Except Fault String
  | .null => .ok "null"
  | .bool b => .ok (if b then "true" else "false")
  | .text s => .ok (writeText s)
  | .int n => writeInt n
  | .float x => .ok (writeFloat x)
  | .list items | .tuple items => do
    let texts ← writeItems items
    pure ("[" ++ ", ".intercalate texts ++ "]")
  | .dict entries => do
    let texts ← writeEntries entries
    pure ("\x7b" ++ ", ".intercalate texts ++ "\x7d")
  | .member c _ value =>
    if c.holdsData && hasNotation value then write value else .error (.unwritable c.name)
  | v => .error (.unwritable v.kindName)

def writeItems : List Value → Except Fault (List String)
  | [] => pure []
  | v :: rest => do
    let text ← write v
    let others ← writeItems rest
    pure (text :: others)

def writeEntries : List (Value × Value) → Except Fault (List String)
  | [] => pure []
  | (key, v) :: rest => do
    let name ← keyText key
    let text ← write v
    let others ← writeEntries rest
    pure ((writeText name ++ ": " ++ text) :: others)

end

/-- Whether an indent can be written at all. Widths beyond 64 bits are no counts, and there is no
room for those beyond 32 bits. -/
def checkIndent (width : Int) : Except Fault Unit :=
  if 0x8000000000000000 ≤ width || width < -0x8000000000000000 then .error .countTooLarge
  else if 0x100000000 ≤ width then .error .outOfMemory
  else .ok ()

/-- Texts of items on a line each; an indent below zero is none. -/
def writeLines (width : Int) (items : List String) : String :=
  let lineStart := "\n" ++ String.ofList (List.replicate width.toNat ' ')
  "[" ++ lineStart ++ ("," ++ lineStart).intercalate items ++ "\n]"

/-- A list of texts, on one line or on a line each with an indent. -/
def writeTexts (indent : Option Int) (texts : List String) : Except Fault String := do
  let items := texts.map writeText
  indent.forM checkIndent
  match indent, items with
  | some width, _ :: _ => pure (writeLines width items)
  | _, _ => pure ("[" ++ ", ".intercalate items ++ "]")

end LayeredConfig.Json
