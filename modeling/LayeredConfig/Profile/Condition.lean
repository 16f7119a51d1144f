import LayeredConfig.Error
import LayeredConfig.Text.Character

/-!
# Names and conditions — what profiles are asked for

A profile name is a text with at least one character that is not blank, and it does not begin with
the mark of negation. A condition has several expressions, of which one must hold; all of them are read
before any profile is asked about.
-/

namespace LayeredConfig.Profile

/-! ## Names -/

/-- The fault of a text as a profile name. -/
def nameFault? (name : String) : Option NameFault :=
  if Text.isBlankText name then some .blank
  else if name.toList.head? = some '!' then some .negated
  else none

/-- The profile name that a value is. -/
def nameOf (v : Value) : Except Error String :=
  let refused (reason : NameFault) : Except Error String :=
    match v.text? with
    | some shown => .error (.invalidProfile shown reason)
    | none => .error (.fault .tooLongToWrite)
  match v.plain with
  | .text name =>
    match nameFault? name with
    | none => .ok name
    | some reason => refused reason
  | _ => refused .blank

/-- The profile names that values are; the first that is none decides. -/
def namesOf (vs : List Value) : Except Error (List String) :=
  vs.mapM nameOf

/-- Names without repetitions, each at its first place. -/
def distinctNames (names : List String) : List String :=
  names.foldl (fun seen name => if name ∈ seen then seen else seen ++ [name]) []

/-! ## Conditions -/

/-- Expressions as they were written, and as trees. -/
structure Condition where
  written : List String
  trees : List Expr
  deriving Repr, Inhabited

namespace Condition

/-- The tree of one expression. -/
def treeOf (v : Value) : Except Error (String × Expr) :=
  let refused (reason : Reason) : Except Error (String × Expr) :=
    match v.text? with
    | some shown => .error (.malformedExpression shown reason)
    | none => .error (.fault .tooLongToWrite)
  match v.plain with
  | .text s =>
    match parse s.toList with
    | .ok e => .ok (s, e)
    | .error reason => refused reason
  | _ => refused .blank

/-- The condition that expressions write. -/
def ofExpressions (vs : List Value) : Except Error Condition :=
  if vs.isEmpty then .error .noExpression
  else do
    let read ← vs.mapM treeOf
    pure ⟨read.map (·.1), read.map (·.2)⟩

def text (c : Condition) : String :=
  " or ".intercalate c.written

/-- The truth of a condition when `isActive` tells which profiles are active. -/
def holds (isActive : List Char → Bool) (c : Condition) : Bool :=
  Expr.anyHolds isActive c.trees

/-- The truth of a condition when asking about a profile has effects. -/
def evaluate {m : Type → Type} [Monad m] (ask : List Char → m Bool) (c : Condition) : m Bool :=
  Expr.evaluateAny ask c.trees

end Condition

end LayeredConfig.Profile
