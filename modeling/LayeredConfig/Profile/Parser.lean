import LayeredConfig.Profile.Expr
import LayeredConfig.Profile.Token

/-!
# Reading profile expressions

    expression := unary ( ("&" unary)* | ("|" unary)* )
    unary      := "!" unary | "(" expression ")" | name

The two operators do not mix at one level without parentheses. A chain of one operator is one flat
node, a single operand stands for itself, and parentheses leave no node.
-/

namespace LayeredConfig.Profile

/-- Why a text is no profile expression. -/
inductive Reason where
  | blank
  | expectedName
  | danglingNegation
  | emptyGroup
  | unmatchedOpening
  | unmatchedClosing
  | missingOperand (operator : Token)
  | mixedOperators
  | danglingOperator (operator : Token)
  | missingOperator (next : Token)
  | stated (text : String)
  deriving DecidableEq, Repr

def Reason.text : Reason → String
  | .blank => "must contain text"
  | .expectedName => "expected a profile name"
  | .danglingNegation => "'!' must be followed by a profile name or group"
  | .emptyGroup => "empty group '()'"
  | .unmatchedOpening => "unmatched '('"
  | .unmatchedClosing => "unmatched ')'"
  | .missingOperand operator => "operator '" ++ operator.text ++ "' has no preceding operand"
  | .mixedOperators => "cannot mix '&' and '|' without parentheses"
  | .danglingOperator operator => "dangling operator '" ++ operator.text ++ "'"
  | .missingOperator next => "missing operator before '" ++ next.text ++ "'"
  | .stated text => text

/-- The two operators that join operands. -/
inductive Operator where
  | and
  | or
  deriving DecidableEq, Repr

namespace Operator

def ofToken? : Token → Option Operator
  | .and => some .and
  | .or => some .or
  | _ => none

def token : Operator → Token
  | .and => .and
  | .or => .or

/-- The node of a chain: a single operand stands for itself. -/
def node (operator : Operator) : List Expr → Expr
  | [e] => e
  | es =>
    match operator with
    | .and => .and es
    | .or => .or es

end Operator

namespace Parser

/-- What is left of `ts` once something has been read from its front. -/
abbrev Rest (ts : List Token) : Type :=
  { rest : List Token // rest.length < ts.length }

/-- What is left of a list is left of it too when it had one more token in front. -/
def Rest.behind {ts : List Token} (token : Token) (rest : Rest ts) : Rest (token :: ts) :=
  ⟨rest.1, Nat.lt_succ_of_lt rest.2⟩

/-- A name, a negation or a group can follow a negation. -/
def startsUnary : List Token → Bool
  | .name _ :: _ | .not :: _ | .opening :: _ => true
  | _ => false

/-- A group ends at its closing parenthesis and at the end of the tokens. -/
def endsGroup : List Token → Bool
  | [] | .closing :: _ => true
  | _ => false

mutual

/-- Reads a negation, a group or a name. -/
def unary (ts : List Token) : Except Reason (Expr × Rest ts) :=
  match ts with
  | [] => .error .expectedName
  | .not :: rest =>
    if startsUnary rest then
      match unary rest with
      | .error reason => .error reason
      | .ok (e, after) => .ok (.not e, after.behind .not)
    else .error .danglingNegation
  | .opening :: rest =>
    match rest with
    | [] => .error .unmatchedOpening
    | .closing :: _ => .error .emptyGroup
    | next :: more =>
      match expression (next :: more) with
      | .error reason => .error reason
      | .ok (e, ⟨.closing :: after, h⟩) =>
        .ok (e, ⟨after, Nat.lt_succ_of_lt (Nat.lt_of_succ_lt h)⟩)
      | .ok _ => .error .unmatchedOpening
  | .closing :: _ => .error .unmatchedClosing
  | .and :: _ => .error (.missingOperand .and)
  | .or :: _ => .error (.missingOperand .or)
  | .name cs :: rest => .ok (.literal cs, ⟨rest, Nat.lt_succ_self _⟩)
termination_by (ts.length, 0)

/-- Reads operands joined by one operator, up to a closing parenthesis or the end. -/
def expression (ts : List Token) : Except Reason (Expr × Rest ts) :=
  match unary ts with
  | .error reason => .error reason
  | .ok (first, ⟨[], h⟩) => .ok (first, ⟨[], h⟩)
  | .ok (first, ⟨next :: more, h⟩) =>
    match Operator.ofToken? next with
    | some operator =>
      match chain operator (next :: more) with
      | .error reason => .error reason
      | .ok (others, ⟨after, h'⟩) =>
        .ok (operator.node (first :: others), ⟨after, Nat.lt_trans h' h⟩)
    | none =>
      if next = .closing then .ok (first, ⟨next :: more, h⟩) else .error (.missingOperator next)
termination_by (ts.length, 1)

/-- Reads the operator at the front, its operand, and what follows of the same chain. -/
def chain (operator : Operator) (ts : List Token) : Except Reason (List Expr × Rest ts) :=
  match ts with
  | [] => .error .expectedName
  | token :: rest =>
    if token ≠ operator.token then .error .mixedOperators
    else if endsGroup rest then .error (.danglingOperator token)
    else
      match unary rest with
      | .error reason => .error reason
      | .ok (e, ⟨[], h⟩) => .ok ([e], ⟨[], Nat.lt_succ_of_lt h⟩)
      | .ok (e, ⟨next :: more, h⟩) =>
        have : more.length + 1 < rest.length := h
        if (Operator.ofToken? next).isSome then
          match chain operator (next :: more) with
          | .error reason => .error reason
          | .ok (others, ⟨after, h'⟩) =>
            .ok (e :: others, ⟨after, Nat.lt_succ_of_lt (Nat.lt_trans h' h)⟩)
        else if next = .closing then .ok ([e], ⟨next :: more, Nat.lt_succ_of_lt h⟩)
        else .error (.missingOperator next)
termination_by (ts.length, 0)

end

end Parser

/-- The expression that a list of tokens writes, with nothing left over. -/
def parseTokens (ts : List Token) : Except Reason Expr :=
  match Parser.expression ts with
  | .error reason => .error reason
  | .ok (e, ⟨[], _⟩) => .ok e
  | .ok (_, ⟨_ :: _, _⟩) => .error .unmatchedClosing

/-- The expression that a text writes. -/
def parse (cs : List Char) : Except Reason Expr :=
  if cs.all Text.isBlank then .error .blank else parseTokens (Token.scan cs)

end LayeredConfig.Profile
