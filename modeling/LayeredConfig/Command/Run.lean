import LayeredConfig.Command.Request
import LayeredConfig.Document.Json.Printer

/-!
# Running requests

A request is answered by texts for the two output streams and an exit status. A request that
cannot be answered fails with its error. Where texts go to no terminal, sequences that style them
are left out.
-/

namespace LayeredConfig.Command

structure Output where
  status : Nat
  stdout : String
  stderr : String
  deriving DecidableEq, Repr

/-- The status after a command line that is refused. -/
def usageStatus : Nat := 2

/-- The status after an error: one for bad values, another for the rest. -/
def errorStatus (e : Error) : Nat :=
  if e.isBadValue then 22 else 1

/-! ## Texts -/

/-- A value as it is printed: texts as they are, plain values and lists as JSON. -/
def render (v : Value) : Except Fault String :=
  match v.plain with
  | .text s => .ok s
  | .bool _ | .int _ | .float _ | .list _ | .tuple _ => Json.write v
  | _ => Conversion.plainText v

/-- The parameters of a styling sequence: digits and the marks that follow them in ASCII. -/
def isStyleParameter (c : Char) : Bool :=
  '0' ≤ c && c ≤ '?'

/-- What may stand between the parameters of a styling sequence and its end. -/
def isStyleIntermediate (c : Char) : Bool :=
  ' ' ≤ c && c ≤ '/'

/-- What ends a styling sequence: the letters of ASCII and the marks around them. -/
def isStyleEnd (c : Char) : Bool :=
  '@' ≤ c && c ≤ '~'

/-- The text behind a styling sequence whose first two characters are gone. -/
def styleEnd? (cs : List Char) : Option (List Char) :=
  match (cs.dropWhile isStyleParameter).dropWhile isStyleIntermediate with
  | c :: rest => if isStyleEnd c then some rest else none
  | [] => none

theorem length_styleEnd?_lt {cs rest : List Char} (h : styleEnd? cs = some rest) :
    rest.length < cs.length := by
  have hle : ((cs.dropWhile isStyleParameter).dropWhile isStyleIntermediate).length ≤ cs.length :=
    ((List.dropWhile_sublist isStyleIntermediate).trans
      (List.dropWhile_sublist isStyleParameter)).length_le
  unfold styleEnd? at h
  split at h
  next heq =>
    rw [heq, List.length_cons] at hle
    split at h
    next =>
      cases h
      exact hle
    next => cases h
  next => cases h

/-- A text without styling sequences. -/
def unstyled : List Char → List Char
  | [] => []
  | [c] => [c]
  | c :: d :: rest =>
    if c = '\x1b' ∧ d = '[' then
      match h : styleEnd? rest with
      | some after =>
        have := length_styleEnd?_lt h
        unstyled after
      | none => c :: unstyled (d :: rest)
    else c :: unstyled (d :: rest)
termination_by cs => cs.length

/-- A text as a line. -/
def line (s : String) : String :=
  String.ofList (unstyled s.toList ++ ['\n'])

/-- The output of a command that prints a text. -/
def printed (s : String) : Output := ⟨0, line s, ""⟩

def programName : String := "lib_layered_env"

def programVersion : String := "0.1.0"

def infoText : String :=
  "\n".intercalate
    ["Info for " ++ programName ++ ":", "  Version         : " ++ programVersion,
      "  Requires-Python : >=3.10",
      "  Summary         : Layered key resolution over named sources with $\x7bplaceholder\x7d " ++
        "expansion, type conversion and profile expressions"]

def helpText : String :=
  "Usage: " ++ programName ++ " [OPTIONS] COMMAND [ARGS]..."

/-! ## Commands -/

/-- The value that is printed for a key: what sources say, or else the default converted. -/
def valueFor (key : String) (kind : Kind) (default : Option String) (isRequired : Bool) :
    Action Environment Value := do
  let target := some (.kind kind)
  if isRequired then
    Environment.resolving fun sources => Resolver.getRequired sources key target
  else do
    let v ← Environment.resolving fun sources => Resolver.getValue sources key target .null
    let registry ← Action.read (·.resolver.registry)
    match v, default with
    | .null, some text => Action.ofExcept (registry.convertTo (.text text) target)
    | _, _ => pure v

/-- Nothing to print is a failure without words. -/
def printValue (v : Value) : Action Environment Output :=
  if v.isNull then pure ⟨1, "", ""⟩
  else do
    let text ← Action.ofExcept ((render v).mapError .fault)
    pure (printed text)

/-- All keys that have no value are named. -/
def validate (keys : List String) : Action Environment Output := do
  Environment.resolving fun _ => Resolver.requireKeys keys
  Action.handle
    (do
      Environment.resolving Resolver.validateRequired
      pure (printed ("All " ++ Numeral.natText keys.length ++ " required keys resolved")))
    fun
      | .missingRequired missing =>
        pure ⟨1, "", String.join (missing.map fun key => line ("missing: " ++ key))⟩
      | e => Action.fail e

/-- What a request does in the environment of its layers. -/
def answer : Request → Action Environment Output
  | .help => pure (printed helpText)
  | .version => pure (printed (programName ++ " version " ++ programVersion))
  | .info => pure (printed infoText)
  | .get key kind default isRequired _ => do
    let v ← valueFor key kind default isRequired
    printValue v
  | .resolve text strict _ => do
    let s ← Environment.resolving fun sources => Resolver.expandText sources (!strict) text
    pure (printed s)
  | .validate keys _ => validate keys
  | .sources indent _ => do
    let names ← Action.read (·.chain.names)
    let text ← Action.ofExcept ((Json.writeTexts indent names).mapError .fault)
    pure (printed text)
  | .profiles expressions active _ => do
    if active.isEmpty then pure () else Environment.setActive (active.map .text)
    let accepted ← Environment.accepts (expressions.map .text)
    pure (printed (if accepted then "true" else "false"))

/-- Reads a command line and checks the paths in it. -/
def request (t : FileTree) (arguments : List String) : Except UsageError Request := do
  let r ← Request.ofArguments arguments
  match r.layering? with
  | some l => checkPaths t l
  | none => pure ()
  pure r

/-- Answers a command line on a host with the variables of the process. -/
def run {σ : Type} (host : Host) (environ : List (String × Value)) (arguments : List String) :
    Action σ Output :=
  match request host.files arguments with
  | .error e => pure ⟨usageStatus, "", line ("Error: " ++ e.message)⟩
  | .ok r => do
    let chain ←
      match r.layering? with
      | some l => (settled l environ).build host
      | none => pure .empty
    Action.within (.new chain .standard) (answer r)

end LayeredConfig.Command
