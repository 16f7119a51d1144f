import LayeredConfig.Action
import LayeredConfig.Conversion.Registry
import LayeredConfig.Placeholder.Expand
import LayeredConfig.Source

/-!
# Resolution of keys

The value of a key is the first that any source has for it, from the highest precedence down.
Placeholders in a text are expanded, and the value is converted to what is asked for. The
resolver keeps the marks of placeholders, the keys that are required, the conversion functions,
and the expanders it has built for the marks in force.
-/

namespace LayeredConfig

/-- The marks of placeholders as they were set; an empty separator is kept but separates nothing. -/
structure Marks where
  opening : String
  closing : String
  separator : Option String
  opening_ne_empty : opening ≠ ""
  closing_ne_empty : closing ≠ ""

namespace Marks

def standard : Marks := ⟨"$\x7b", "\x7d", some ":", by decide, by decide⟩

instance : Inhabited Marks := ⟨standard⟩

/-- The delimiters that marks make. -/
def delimiters (m : Marks) : Placeholder.Delimiters where
  opening := m.opening.toList
  closing := m.closing.toList
  separator := (m.separator.map String.toList).filter (· ≠ [])
  opening_ne_nil := by simpa using m.opening_ne_empty
  closing_ne_nil := by simpa using m.closing_ne_empty
  separator_ne_nil := by
    intro hs
    simpa using (Option.filter_eq_some_iff.1 hs).2

end Marks

namespace Source

/-- The first value that is there for a key, with the name of its source. -/
def firstHit? (key : String) : List Source → Except Error (Option (String × Value))
  | [] => .ok none
  | s :: rest => do
    let v ← s.content.get key
    if v.isNull then firstHit? key rest else pure (some (s.name, v))

/-- Whether any source holds a key. -/
def anyContains (key : String) : List Source → Except Error Bool
  | [] => .ok false
  | s :: rest => do
    let found ← s.content.contains key
    if found then pure true else anyContains key rest

end Source

/-- The error of a failed expansion. -/
def Error.ofFailure : Placeholder.Failure Error → Error
  | .unresolved key text => .unresolved (String.ofList key) (String.ofList text)
  | .circular body => .circular (String.ofList body)
  | .lookup e => e
  | .exhausted => .nestedTooDeeply

structure Resolver where
  marks : Marks
  ignoreUnresolvable : Bool
  expanders : List (Bool × Placeholder.Expander)
  requiredKeys : List String
  registry : Registry
  deriving Inhabited

namespace Resolver

/-- A resolver with the standard marks and no required keys. -/
def new (registry : Registry) : Resolver :=
  ⟨.standard, false, [], [], registry⟩

/-! ## Settings -/

/-- Expanders are built for the marks, so new marks make the old ones void. -/
def withMarks (r : Resolver) (m : Marks) : Resolver :=
  { r with marks := m, expanders := [] }

/-- Sets the opening mark; nothing and the empty text are refused. -/
def setOpening (mark : Option String) : Action Resolver Unit := fun r =>
  match mark with
  | none => ⟨r, [], .error .emptyOpening⟩
  | some s =>
    if h : s = "" then ⟨r, [], .error .emptyOpening⟩
    else ⟨r.withMarks { r.marks with opening := s, opening_ne_empty := h }, [], .ok ()⟩

/-- Sets the closing mark; nothing and the empty text are refused. -/
def setClosing (mark : Option String) : Action Resolver Unit := fun r =>
  match mark with
  | none => ⟨r, [], .error .emptyClosing⟩
  | some s =>
    if h : s = "" then ⟨r, [], .error .emptyClosing⟩
    else ⟨r.withMarks { r.marks with closing := s, closing_ne_empty := h }, [], .ok ()⟩

/-- Sets the separator; nothing switches defaults off. -/
def setSeparator (mark : Option String) : Action Resolver Unit :=
  .modify fun r => r.withMarks { r.marks with separator := mark }

def setIgnoreUnresolvable (ignore : Bool) : Action Resolver Unit :=
  .modify fun r => { r with ignoreUnresolvable := ignore }

/-- Puts other conversion functions in place of all; there must be some. -/
def setRegistry (registry : Option Registry) : Action Resolver Unit :=
  match registry with
  | some new => .modify fun r => { r with registry := new }
  | none => .fail .noConverter

def register (k : Kind) (c : Converter) : Action Resolver Unit :=
  .modify fun r => { r with registry := r.registry.register k c }

/-- Keys become required, each at its first mention. -/
def requireKeys (keys : List String) : Action Resolver Unit :=
  .modify fun r =>
    let add (seen : List String) (key : String) := if key ∈ seen then seen else seen ++ [key]
    { r with requiredKeys := keys.foldl add r.requiredKeys }

/-! ## Lookup without expansion -/

/-- The value of a key as text, without expansion, and what is reported. A conversion function of
its own may give something else than text. -/
def rawValue (registry : Registry) (sources : List Source) (key : String) :
    List Event × Except Error Value :=
  match Source.firstHit? key sources with
  | .error e => ([], .error e)
  | .ok none => ([.keyNotFound key], .ok .null)
  | .ok (some (layer, v)) =>
    ([.keyFound layer key v.kindName],
      match v with
      | .text _ => .ok v
      | _ => registry.convert v (.kind .str))

/-- Only a text can be put in the place of a placeholder. -/
def replacement? (v : Value) : Except Error (Option (List Char)) :=
  match v.plain with
  | .null => .ok none
  | .text s => .ok (some s.toList)
  | .bytes _ => .error (.fault .notText)
  | _ => .error (.fault (.noAttribute v.kindName "find"))

/-- What stands under a key that a placeholder names. -/
def lookup (registry : Registry) (sources : List Source) : Placeholder.Lookup Error :=
  fun key =>
    match (rawValue registry sources (String.ofList key)).2 with
    | .error e => .error e
    | .ok v => replacement? v

/-- A value as the text that a lookup would give for it. -/
def textOf? (registry : Registry) (v : Value) : Option (List Char) :=
  match v with
  | .text s => some s.toList
  | _ =>
    match (registry.convert v (.kind .str)).map Value.plain with
    | .ok (.text s) => some s.toList
    | _ => none

/-- All texts that a lookup can give. -/
def texts (registry : Registry) (sources : List Source) : List (List Char) :=
  sources.flatMap fun s => s.content.entries.filterMap fun (_, v) => textOf? registry v

/-- What is reported for the steps of an expansion. -/
def eventsOf (registry : Registry) (sources : List Source) (steps : List Placeholder.Step) :
    List Event :=
  steps.flatMap fun
    | .asked key => (rawValue registry sources (String.ofList key)).1
    | .resolved key => [.placeholderResolved (String.ofList key)]

/-! ## Expansion -/

/-- The expander for a mode, built at its first use. -/
def expander (lenient : Bool) : Action Resolver Placeholder.Expander := fun r =>
  match r.expanders.find? (·.1 == lenient) with
  | some (_, x) => ⟨r, [], .ok x⟩
  | none =>
    let x : Placeholder.Expander := ⟨r.marks.delimiters, lenient⟩
    ⟨{ r with expanders := (lenient, x) :: r.expanders }, [], .ok x⟩

/-- The text expanded by an expander over sources, and what is reported. -/
def expandWith (x : Placeholder.Expander) (registry : Registry) (sources : List Source)
    (text : String) : List Event × Except Error String :=
  let run := x.expand (texts registry sources) (lookup registry sources) text.toList
  (eventsOf registry sources run.steps,
    match run.outcome with
    | .ok cs => .ok (String.ofList cs)
    | .error failure => .error (Error.ofFailure failure))

/-- Expands a text in one of the two modes. -/
def expandText (sources : List Source) (lenient : Bool) (text : String) :
    Action Resolver String := do
  let x ← expander lenient
  let registry ← Action.read (·.registry)
  let (events, result) := expandWith x registry sources text
  Action.emit events
  Action.ofExcept result

/-- Expands a text and leaves placeholders without a value. -/
def resolvePlaceholders (sources : List Source) (text : String) : Action Resolver String :=
  expandText sources true text

/-- Expands a text and fails on a placeholder without a value. -/
def resolveRequiredPlaceholders (sources : List Source) (text : String) :
    Action Resolver String :=
  expandText sources false text

/-! ## Lookup -/

/-- A value found, with its placeholders expanded if it is a text. -/
def expandValue (sources : List Source) (v : Value) : Action Resolver Value :=
  match v.plain with
  | .text s =>
    if s = "" then pure v
    else do
      let lenient ← Action.read (·.ignoreUnresolvable)
      let expanded ← expandText sources lenient s
      pure (v.reworded expanded)
  | _ => pure v

/-- The value converted to a target. Without a target it stays, and so does a value that belongs
to the target, a Boolean for a target other than Booleans excepted. -/
def convertTo (registry : Registry) (v : Value) (target : Option Target) : Except Error Value :=
  match target with
  | none => .ok v
  | some t =>
    if t.isGeneric then registry.convert v t
    else
      match t.hasInstance v with
      | .error f => .error (.fault f)
      | .ok b =>
        if b && !(v.isBool && t.kind? ≠ some .bool) then .ok v else registry.convert v t

/-- The value of a key converted to a target, nothing if no source has one. -/
def find (sources : List Source) (key : String) (target : Option Target) :
    Action Resolver Value := do
  let hit ← Action.ofExcept (Source.firstHit? key sources)
  match hit with
  | none => do
    Action.emit [.keyNotFound key]
    pure .null
  | some (layer, v) => do
    let expanded ← expandValue sources v
    Action.emit [.keyFound layer key expanded.kindName]
    let registry ← Action.read (·.registry)
    Action.ofExcept (convertTo registry expanded target)

/-- The value of a key, or a default. -/
def getValue (sources : List Source) (key : String) (target : Option Target) (default : Value) :
    Action Resolver Value := do
  let v ← find sources key target
  pure (if v.isNull then default else v)

/-- The value of a key, which must be there. -/
def getRequired (sources : List Source) (key : String) (target : Option Target) :
    Action Resolver Value := do
  let v ← find sources key target
  if v.isNull then Action.fail (.missingKey key) else pure v

/-- The value of a key as text, without expansion. -/
def getRaw (sources : List Source) (key : String) : Action Resolver Value := do
  let registry ← Action.read (·.registry)
  let (events, result) := rawValue registry sources key
  Action.emit events
  Action.ofExcept result

/-- Whether any source holds a key. -/
def containsKey (sources : List Source) (key : String) : Action Resolver Bool :=
  .ofExcept (Source.anyContains key sources)

/-- Those of the keys that have no value. -/
def missingOf (sources : List Source) : List String → Action Resolver (List String)
  | [] => pure []
  | key :: rest => do
    let v ← getValue sources key (some (.kind .str)) .null
    let others ← missingOf sources rest
    pure (if v.isNull then key :: others else others)

/-- Fails with all required keys that have no value. -/
def validateRequired (sources : List Source) : Action Resolver Unit := do
  let keys ← Action.read (·.requiredKeys)
  let missing ← missingOf sources keys
  if missing.isEmpty then pure () else Action.fail (.missingRequired missing)

/-- A resolver over named sources as it is shown. -/
def quoted (names : List String) : String :=
  "ValueResolver(sources=" ++ quotedNames names ++ ")"

end Resolver

end LayeredConfig
