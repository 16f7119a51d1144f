import LayeredConfig.Number.Shortest
import LayeredConfig.Text.Quoted
import LayeredConfig.Value.Basic

/-!
# How values are shown

A value has a plain text and a quoted one, which tells its kind as well; inside a collection the
quoted text is used. An integer too long to be written has neither, and then no collection around
it has.
-/

namespace LayeredConfig.Value

/-- A list of shown elements between two brackets. -/
def bracketed (opening closing : String) (items : List String) : String :=
  opening ++ ", ".intercalate items ++ closing

/-- A tuple of one element keeps its comma. -/
def bracketedTuple : List String → String
  | [item] => "(" ++ item ++ ",)"
  | items => bracketed "(" ")" items

mutual

/-- The quoted text of a value. -/
def quoted? : Value → Option String
  | .null => some "None"
  | .bool b => some (if b then "True" else "False")
  | .text s => some (Text.quoted s)
  | .int n => Numeral.intText? n
  | .float x => some x.text
  | .decimal d => some ("Decimal('" ++ d.text ++ "')")
  | .path p => some ("PosixPath(" ++ Text.quoted p.text ++ ")")
  | .uuid u => some ("UUID('" ++ u.text ++ "')")
  | .bytes bs => some (Text.quotedBytes bs)
  | .moment m => some m.quoted
  | .member c name value =>
    (quoted? value).map fun shown => "<" ++ c.name ++ "." ++ name ++ ": " ++ shown ++ ">"
  | .list items => (quotedItems? items).map (bracketed "[" "]")
  | .tuple items => (quotedItems? items).map bracketedTuple
  | .set items =>
    if items.isEmpty then some "set()" else (quotedItems? items).map (bracketed "\x7b" "\x7d")
  | .frozenset items =>
    if items.isEmpty then some "frozenset()"
    else (quotedItems? items).map (bracketed "frozenset(\x7b" "\x7d)")
  | .dict entries => (quotedEntries? entries).map (bracketed "\x7b" "\x7d")

/-- The quoted texts of all values, if each has one. -/
def quotedItems? : List Value → Option (List String)
  | [] => some []
  | v :: rest => do
    let shown ← quoted? v
    let others ← quotedItems? rest
    some (shown :: others)

/-- The quoted texts of all entries, if each has one. -/
def quotedEntries? : List (Value × Value) → Option (List String)
  | [] => some []
  | (k, v) :: rest => do
    let key ← quoted? k
    let value ← quoted? v
    let others ← quotedEntries? rest
    some ((key ++ ": " ++ value) :: others)

end

/-- The plain text of a value. -/
def text? : Value → Option String
  | .text s => some s
  | .path p => some p.text
  | .uuid u => some u.text
  | .decimal d => some d.text
  | .moment m => some m.text
  | .member c name value => if c.showsValue then text? value else some (c.name ++ "." ++ name)
  | v => quoted? v

end LayeredConfig.Value
