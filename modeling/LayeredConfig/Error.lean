import LayeredConfig.Conversion.Target
import LayeredConfig.Profile.Parser
import LayeredConfig.Value.Display

/-!
# Errors — what can leave an operation

Each constructor is one cause. `Error.category` groups the causes, `Error.message` words them, and
`Category.families` tells under which broader headings a category can be caught.
-/

namespace LayeredConfig

/-- The formats of structured files. -/
inductive Format where
  | toml
  | json
  | yaml
  deriving DecidableEq, Repr, Inhabited

def Format.name : Format → String
  | .toml => "toml"
  | .json => "json"
  | .yaml => "yaml"

def Format.title : Format → String
  | .toml => "TOML"
  | .json => "JSON"
  | .yaml => "YAML"

/-- Groups of causes. -/
inductive Category where
  | config
  | invalidArgument
  | layerNotFound
  | missingKey
  | missingRequired
  | placeholder
  | unresolvedPlaceholder
  | circularPlaceholder
  | malformedExpression
  | conversion
  | invalidFormat
  | notFound
  | layerLoad
  | undecodable
  | system
  | fault (category : FaultCategory)
  deriving DecidableEq, Repr

/-- Broader headings: all failures of configuration, those of placeholders, bad values, and
lookups without a result. -/
inductive Family where
  | config
  | placeholder
  | value
  | lookup
  deriving DecidableEq, Repr

/-- The headings of a category, in the order of `Family`. -/
def Category.families : Category → List Family
  | .config | .missingRequired | .invalidFormat | .notFound | .layerLoad => [.config]
  | .invalidArgument | .malformedExpression | .conversion => [.config, .value]
  | .layerNotFound | .missingKey => [.config, .lookup]
  | .placeholder | .unresolvedPlaceholder | .circularPlaceholder => [.config, .placeholder, .value]
  | .undecodable | .fault FaultCategory.value => [.value]
  | .fault FaultCategory.key => [.lookup]
  | .system | .fault _ => []

/-- Whether a conversion takes an error of a category for the rejection of a value. -/
def Category.isCaught : Category → Bool
  | .conversion => false
  | .fault c => c.isRejection
  | c => c.families.contains .value

/-- Why a conversion refuses a value. -/
inductive Refusal where
  | generic
  | unregistered
  | rejected (fault : Fault)
  | stated (text : String)
  deriving DecidableEq, Repr

def Refusal.text : Refusal → String
  | .generic => "parameterized generic types are not supported"
  | .unregistered => "no converter registered"
  | .rejected fault => fault.text
  | .stated text => text

/-- Why a text is no profile name. -/
inductive NameFault where
  | blank
  | negated
  deriving DecidableEq, Repr

def NameFault.text : NameFault → String
  | .blank => "must contain text"
  | .negated => "must not begin with ! operator"

inductive Error where
  | blankSourceName
  | noBacking (name : String)
  | relativeToItself (name : String)
  | emptyDelimiter
  | emptyOpening
  | emptyClosing
  | noConverter
  | invalidProfile (shown : String) (fault : NameFault)
  | noExpression
  | mixedExpressions
  | layerNotFound (name : String)
  | missingKey (key : String)
  | missingRequired (keys : List String)
  | unresolved (key text : String)
  | circular (body : String)
  | nestedTooDeeply
  | malformedExpression (expression : String) (reason : Profile.Reason)
  | conversion (value : Value) (target : Target) (refusal : Refusal)
  | unreadable (format : Format) (path : String)
  | notMapping (path : String)
  | malformedLine (line : Nat) (path : String)
  | missingName (line : Nat) (path : String)
  | unsupportedEnding (ending path : String)
  | fileNotFound (path : String)
  | pathTooLong (path : String)
  | fileLoad (path : String) (cause : Error)
  | dotenvLoad (path : String) (cause : Error)
  | undecodable
  | fault (f : Fault)
  | stated (category : Category) (text : String)
  deriving Repr

namespace Error

/-- Stands for the words that a reader of a format has for what is wrong. -/
def detail : String := "<detail>"

def category : Error → Category
  | .blankSourceName | .noBacking _ | .relativeToItself _ | .emptyDelimiter | .emptyOpening
  | .emptyClosing | .noConverter | .invalidProfile .. | .noExpression | .mixedExpressions =>
    .invalidArgument
  | .layerNotFound _ => .layerNotFound
  | .missingKey _ => .missingKey
  | .missingRequired _ => .missingRequired
  | .unresolved .. => .unresolvedPlaceholder
  | .circular _ => .circularPlaceholder
  | .nestedTooDeeply => .placeholder
  | .malformedExpression .. => .malformedExpression
  | .conversion .. => .conversion
  | .unreadable .. | .notMapping _ | .malformedLine .. | .missingName ..
  | .unsupportedEnding .. => .invalidFormat
  | .fileNotFound _ => .notFound
  | .pathTooLong _ => .system
  | .fileLoad .. | .dotenvLoad .. => .layerLoad
  | .undecodable => .undecodable
  | .fault f => .fault f.category
  | .stated category _ => category

/-- A refusal without a reason says only what was to be converted to what. -/
def conversionMessage (value : Value) (target : Target) (reason : String) : String :=
  "Cannot convert " ++ value.quoted?.getD "" ++ " to " ++ target.name ++
    (if reason = "" then "" else ": " ++ reason)

def message : Error → String
  | .blankSourceName => "Source name must contain at least one non-whitespace character"
  | .noBacking name => "Source '" ++ name ++ "' requires a backing store"
  | .relativeToItself name =>
    "Source named '" ++ name ++ "' cannot be added relative to itself"
  | .emptyDelimiter => "Placeholder prefix and suffix must not be empty"
  | .emptyOpening => "placeholder prefix must not be empty"
  | .emptyClosing => "placeholder suffix must not be empty"
  | .noConverter => "converter must not be None"
  | .invalidProfile shown reason => "Invalid profile [" ++ shown ++ "]: " ++ reason.text
  | .noExpression => "Must specify at least one profile expression"
  | .mixedExpressions => "Pass either a Profiles object or expression strings, not both"
  | .layerNotFound name => "Source named '" ++ name ++ "' does not exist"
  | .missingKey key => "Required key '" ++ key ++ "' not found"
  | .missingRequired keys =>
    "The following properties were declared as required but could not be resolved: " ++
      ", ".intercalate keys
  | .unresolved key text =>
    "Could not resolve placeholder '" ++ key ++ "' in value \"" ++ text ++ "\""
  | .circular body => "Circular placeholder reference '" ++ body ++ "' in property definitions"
  | .nestedTooDeeply => "Placeholders are nested too deeply"
  | .malformedExpression expression reason =>
    "Malformed profile expression [" ++ expression ++ "]: " ++ reason.text
  | .conversion value target refusal => conversionMessage value target refusal.text
  | .unreadable format path => "Invalid " ++ format.title ++ " in " ++ path ++ ": " ++ detail
  | .notMapping path => "File " ++ path ++ " did not produce a mapping"
  | .malformedLine line path => "Malformed line " ++ Numeral.natText line ++ " in " ++ path
  | .missingName line path => "Missing key on line " ++ Numeral.natText line ++ " in " ++ path
  | .unsupportedEnding ending path =>
    "Unsupported configuration file type '" ++ ending ++ "': " ++ path
  | .fileNotFound path => "Configuration file not found: " ++ path
  | .pathTooLong path => "[Errno 36] File name too long: " ++ Text.quoted path
  | .fileLoad path cause =>
    "Failed to load configuration file " ++ path ++ ": " ++ cause.message
  | .dotenvLoad path cause => "Failed to load dotenv file " ++ path ++ ": " ++ cause.message
  | .undecodable => ""
  | .fault f => f.text
  | .stated _ text => text

/-- The refusal of a value. A value that cannot be shown cannot be named in it. -/
def refuse (value : Value) (target : Target) (refusal : Refusal) : Error :=
  if value.quoted?.isSome then .conversion value target refusal else .fault .tooLongToWrite

/-- Whether an error counts as a bad value. -/
def isBadValue (e : Error) : Bool :=
  e.category.families.contains .value

end Error

end LayeredConfig
