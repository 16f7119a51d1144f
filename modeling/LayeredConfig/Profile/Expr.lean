import LayeredConfig.Text.Quoted

/-!
# Profile expressions — trees, their texts and their truth

An expression is a name, a negation, or a conjunction or disjunction of two or more operands. It
is true of an activity of profiles. Operands are asked from left to right, and no further than is
needed for the answer.
-/

namespace LayeredConfig.Profile

inductive Expr where
  | literal (name : List Char)
  | not (operand : Expr)
  | and (operands : List Expr)
  | or (operands : List Expr)
  deriving Repr, Inhabited

namespace Expr

/-- Conjunctions and disjunctions stand in parentheses when they are operands. -/
def isCompound : Expr → Bool
  | .and _ | .or _ => true
  | _ => false

/-- A text put in parentheses where they are needed. -/
def grouped (compound : Bool) (cs : List Char) : List Char :=
  if compound then '(' :: cs ++ [')'] else cs

mutual

/-- An expression as it is written. -/
def chars : Expr → List Char
  | .literal name => name
  | .not operand => '!' :: grouped operand.isCompound (chars operand)
  | .and operands => [' ', '&', ' '].intercalate (operandChars operands)
  | .or operands => [' ', '|', ' '].intercalate (operandChars operands)

/-- Operands as they are written. -/
def operandChars : List Expr → List (List Char)
  | [] => []
  | e :: rest => grouped e.isCompound (chars e) :: operandChars rest

end

def text (e : Expr) : String :=
  String.ofList (chars e)

mutual

/-- An expression as the constructor call that makes it. -/
def quoted : Expr → String
  | .literal name => "Literal(name=" ++ Text.quoted (String.ofList name) ++ ")"
  | .not operand => "Not(operand=" ++ quoted operand ++ ")"
  | .and operands => "And(operands=(" ++ quotedOperands operands ++ "))"
  | .or operands => "Or(operands=(" ++ quotedOperands operands ++ "))"

/-- Operands one after the other; a single one is followed by a comma. -/
def quotedOperands : List Expr → String
  | [] => ""
  | [e] => quoted e ++ ","
  | [e, f] => quoted e ++ ", " ++ quoted f
  | e :: rest => quoted e ++ ", " ++ quotedOperands rest

end

mutual

/-- The truth of an expression when `isActive` tells which profiles are active. -/
def holds (isActive : List Char → Bool) : Expr → Bool
  | .literal name => isActive name
  | .not operand => !holds isActive operand
  | .and operands => allHold isActive operands
  | .or operands => anyHolds isActive operands

def allHold (isActive : List Char → Bool) : List Expr → Bool
  | [] => true
  | e :: rest => holds isActive e && allHold isActive rest

def anyHolds (isActive : List Char → Bool) : List Expr → Bool
  | [] => false
  | e :: rest => holds isActive e || anyHolds isActive rest

end

variable {m : Type → Type} [Monad m]

mutual

/-- The truth of an expression when asking about a profile has effects. -/
def evaluate (ask : List Char → m Bool) : Expr → m Bool
  | .literal name => ask name
  | .not operand => do
    let b ← evaluate ask operand
    pure (!b)
  | .and operands => evaluateAll ask operands
  | .or operands => evaluateAny ask operands

/-- Asks operands until one fails. -/
def evaluateAll (ask : List Char → m Bool) : List Expr → m Bool
  | [] => pure true
  | e :: rest => do
    let b ← evaluate ask e
    if b then evaluateAll ask rest else pure false

/-- Asks operands until one holds. -/
def evaluateAny (ask : List Char → m Bool) : List Expr → m Bool
  | [] => pure false
  | e :: rest => do
    let b ← evaluate ask e
    if b then pure true else evaluateAny ask rest

end

end Expr

end LayeredConfig.Profile
