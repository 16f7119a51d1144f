import LayeredConfig.Conversion.Builtin
import LayeredConfig.Store

/-!
# Flat documents — dotted keys for nested tables

The entries of a nested table come under the key of the table, a dot and their own key. Lists stay
whole, and nothing is no entry. A key that comes again takes the later value at its first place.
-/

namespace LayeredConfig.Document

/-- The key of an entry of a table. -/
def nameUnder (parent : String) (key : Value) : String :=
  let text := key.text?.getD ""
  if parent = "" then text else parent ++ "." ++ text

/-- Entries with all of some others. -/
def putAll (entries others : List (String × Value)) : List (String × Value) :=
  others.foldl (fun acc (name, v) => Store.putEntry acc name v) entries

mutual

/-- The flat entries of a table, added to those before it. -/
def flattenEntries (parent : String) :
    List (Value × Value) → List (String × Value) → List (String × Value)
  | [], flat => flat
  | (key, v) :: rest, flat =>
    flattenEntries parent rest (flattenValue (nameUnder parent key) v flat)

/-- What a value adds to flat entries under a name. -/
def flattenValue (name : String) : Value → List (String × Value) → List (String × Value)
  | .dict entries, flat => putAll flat (flattenEntries name entries [])
  | .null, flat => flat
  | v, flat => Store.putEntry flat name v

end

mutual

/-- Whether all keys of a table can be written. -/
def hasNames : List (Value × Value) → Bool
  | [] => true
  | (key, v) :: rest => key.text?.isSome && hasNamesInside v && hasNames rest

/-- Whether all keys inside a value can be written. -/
def hasNamesInside : Value → Bool
  | .dict entries => hasNames entries
  | _ => true

end

/-- The flat entries of a table under a parent key. -/
def flatten (parent : String) (entries : List (Value × Value)) :
    Except Fault (List (String × Value)) :=
  if hasNames entries then .ok (flattenEntries parent entries []) else .error .tooLongToWrite

end LayeredConfig.Document
