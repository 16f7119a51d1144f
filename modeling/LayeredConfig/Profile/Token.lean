import LayeredConfig.Text.Character

/-!
# Tokens of profile expressions

The five marks `(`, `)`, `&`, `|` and `!` are tokens by themselves. The text between two marks is
a name once it is trimmed, and no token if nothing is left.
-/

namespace LayeredConfig.Profile

inductive Token where
  | opening
  | closing
  | and
  | or
  | not
  | name (chars : List Char)
  deriving DecidableEq, Repr, Inhabited

namespace Token

/-- The mark that a character is. -/
def ofMark? (c : Char) : Option Token :=
  if c = '(' then some .opening
  else if c = ')' then some .closing
  else if c = '&' then some .and
  else if c = '|' then some .or
  else if c = '!' then some .not
  else none

/-- The characters of a token. -/
def chars : Token → List Char
  | .opening => ['(']
  | .closing => [')']
  | .and => ['&']
  | .or => ['|']
  | .not => ['!']
  | .name cs => cs

def text (t : Token) : String :=
  String.ofList t.chars

/-- The name that a text between marks holds, if any. -/
def ofGap (gap : List Char) : List Token :=
  match Text.trim gap with
  | [] => []
  | found => [.name found]

/-- The tokens of a text that follows the characters `gap`, none of them a mark. -/
def scanFrom (gap : List Char) : List Char → List Token
  | [] => ofGap gap
  | c :: rest =>
    match ofMark? c with
    | some mark => ofGap gap ++ mark :: scanFrom [] rest
    | none => scanFrom (gap ++ [c]) rest

/-- The tokens of a text. -/
def scan (cs : List Char) : List Token :=
  scanFrom [] cs

end Token

end LayeredConfig.Profile
