import LayeredConfig.Text.Case
import LayeredConfig.Text.Split
import LayeredConfig.Text.Utf8
import LayeredConfig.Value.Basic

/-!
# Names of variables

All variables of a process count, or those whose names begin with a prefix and an underscore; these
lose both. Most shells cannot export names with dots or dashes, so a key is also looked for with
underscores in their place and in capital letters. The key itself comes first.
-/

namespace LayeredConfig.Variables

/-! ## Variables that count -/

/-- The name of the layer of variables. -/
def layerName : String := "system_environment"

/-- What the names of the variables that count begin with. -/
def mark (given : Option String) : List Char :=
  match given.map String.toList with
  | none | some [] => []
  | some cs => if cs.getLast? = some '_' then cs else cs ++ ['_']

/-- The variables whose names begin with a mark, without the mark. -/
def collect (mark : List Char) (environ : List (String × Value)) : List (String × Value) :=
  environ.filterMap fun (name, v) =>
    match mark.isPrefixOf? name.toList with
    | none | some [] => none
    | some rest => some (String.ofList rest, v)

/-- The variables of an environment block: `name=value` texts, each with a zero byte after it. Texts
that are not UTF-8 or name nothing are left out. -/
def ofBlock (block : List UInt8) : List (String × Value) :=
  (block.splitOn 0).filterMap fun entry => do
    let cs ← Utf8.decode? entry
    let (name, value) ← Text.cutAt? ['='] cs
    if name.isEmpty then none
    else some (String.ofList name, .text (String.ofList value))

/-! ## Spellings of keys -/

/-- The texts without repetitions, each at its first place. -/
def distinctTexts (texts : List (List Char)) : List (List Char) :=
  texts.foldl (fun seen cs => if seen.contains cs then seen else seen ++ [cs]) []

/-- A text as it stands, with underscores for dots, for dashes, for both, and with two underscores
for each dot and one for each dash. -/
def underscored (cs : List Char) : List (List Char) :=
  let dotless := Text.replaceChar '.' ['_'] cs
  [cs, dotless, Text.replaceChar '-' ['_'] cs, Text.replaceChar '-' ['_'] dotless,
    Text.replaceChar '-' ['_'] (Text.replaceChar '.' ['_', '_'] cs)]

/-- The names under which a key is looked for, in this order. -/
def spellings (key : List Char) : List (List Char) :=
  distinctTexts (underscored key ++ underscored (Text.upper key))

/-- The first spelling of a key that is among the given names. -/
def resolve? (names : List String) (key : String) : Option String :=
  ((spellings key.toList).map String.ofList).find? names.contains

/-- The customary prefix for a program: its name in capitals with underscores for dashes. -/
def prefixFor (slug : String) : String :=
  String.ofList (Text.upper (Text.replaceChar '-' ['_'] slug.toList))

end LayeredConfig.Variables
