/-!
# UTF-8 — characters as bytes

A character takes one to four bytes. Surrogates, code points beyond the last one and longer forms
than needed are invalid. Bytes that may be the beginning of a character are incomplete.
-/

namespace LayeredConfig.Utf8

/-- What stands at the front of some bytes; `size` counts the bytes of a character. -/
inductive Head where
  | char (c : Char) (size : Nat)
  | incomplete
  | invalid
  deriving DecidableEq, Repr

/-- The bytes that follow the first one of a character. -/
def isContinuation (b : UInt8) : Bool :=
  0x80 ≤ b.toNat && b.toNat < 0xC0

/-- How many bytes a character takes that begins with a byte. -/
def sizeOf? (first : UInt8) : Option Nat :=
  let b := first.toNat
  if b < 0x80 then some 1
  else if b < 0xC2 then none
  else if b < 0xE0 then some 2
  else if b < 0xF0 then some 3
  else if b < 0xF5 then some 4
  else none

/-- Whether a byte may be the second one of a character. -/
def secondFits (first second : UInt8) : Bool :=
  isContinuation second &&
    !(first = 0xE0 && second < 0xA0) && !(first = 0xED && 0xA0 ≤ second) &&
    !(first = 0xF0 && second < 0x90) && !(first = 0xF4 && 0x90 ≤ second)

/-- The bits of a first byte that belong to the code point. -/
def leadBits (size : Nat) (first : UInt8) : Nat :=
  match size with
  | 1 => first.toNat
  | 2 => first.toNat - 0xC0
  | 3 => first.toNat - 0xE0
  | _ => first.toNat - 0xF0

/-- The character that a first byte and the bytes after it make. -/
def assemble (size : Nat) (first : UInt8) (following : List UInt8) : Char :=
  Char.ofNat (following.foldl (fun n b => n * 64 + (b.toNat - 0x80)) (leadBits size first))

/-- Reads the character at the front. -/
def head (first : UInt8) (rest : List UInt8) : Head :=
  match sizeOf? first with
  | none => .invalid
  | some size =>
    let following := rest.take (size - 1)
    let fits :=
      match following with
      | [] => true
      | second :: others => secondFits first second && others.all isContinuation
    if !fits then .invalid
    else if following.length < size - 1 then .incomplete
    else .char (assemble size first following) size

/-- How the bytes end after the characters that could be read. -/
inductive Ending where
  | clean
  | incomplete (bytes : List UInt8)
  | invalid
  deriving DecidableEq, Repr

/-- The characters up to the end or to the first bytes that are none. -/
def decode (bytes : List UInt8) : List Char × Ending :=
  match bytes with
  | [] => ([], .clean)
  | first :: rest =>
    match head first rest with
    | .invalid => ([], .invalid)
    | .incomplete => ([], .incomplete (first :: rest))
    | .char c size =>
      let (cs, ending) := decode (rest.drop (size - 1))
      (c :: cs, ending)
termination_by bytes.length
decreasing_by simp only [List.length_drop, List.length_cons]; omega

/-- The text that bytes write. -/
def decode? (bytes : List UInt8) : Option (List Char) :=
  match decode bytes with
  | (cs, .clean) => some cs
  | _ => none

/-- The bytes of a character. -/
def encodeChar (c : Char) : List UInt8 :=
  let n := c.toNat
  let tail (weight : Nat) : UInt8 := UInt8.ofNat (0x80 + n / weight % 64)
  if n < 0x80 then [UInt8.ofNat n]
  else if n < 0x800 then [UInt8.ofNat (0xC0 + n / 64), tail 1]
  else if n < 0x10000 then [UInt8.ofNat (0xE0 + n / 4096), tail 64, tail 1]
  else [UInt8.ofNat (0xF0 + n / 262144), tail 4096, tail 64, tail 1]

/-- The bytes of a text. -/
def encode (cs : List Char) : List UInt8 :=
  cs.flatMap encodeChar

/-- The characters that are read when bytes are decoded piece by piece: those of all pieces before
the first that has invalid bytes, and whether all bytes could be decoded. A piece has `size` bytes
after its first; what it leaves incomplete is put before the next one. -/
def decodePieces (size : Nat) (pending bytes : List UInt8) : List Char × Bool :=
  match bytes with
  | [] => ([], pending.isEmpty)
  | first :: rest =>
    match decode (pending ++ (first :: rest).take (size + 1)) with
    | (_, .invalid) => ([], false)
    | (cs, ending) =>
      let left :=
        match ending with
        | .incomplete bs => bs
        | _ => []
      let (others, complete) := decodePieces size left (rest.drop size)
      (cs ++ others, complete)
termination_by bytes.length
decreasing_by simp only [List.length_drop, List.length_cons]; omega

end LayeredConfig.Utf8
