import LayeredConfig.Number.Decimal
import LayeredConfig.Number.Numeral
import LayeredConfig.Text.Quoted
import LayeredConfig.Uuid

/-!
# Faults — why a value cannot be read, compared or written

A fault is what a conversion function meets in a value. Its category says what kind of failure it
is; a conversion turns faults of most categories into a refusal of the value.
-/

namespace LayeredConfig

/-- The kinds of failure that are told apart. -/
inductive FaultCategory where
  | value
  | type
  | key
  | overflow
  | arithmetic
  | decimal
  | attribute
  | runtime
  | memory
  deriving DecidableEq, Repr

/-- Whether a fault is taken for the rejection of a value: bad values and kinds, unknown names, and
failures of arithmetic. -/
def FaultCategory.isRejection : FaultCategory → Bool
  | .value | .type | .key | .overflow | .arithmetic | .decimal => true
  | .attribute | .runtime | .memory => false

inductive Fault where
  | invalidBoolean (shown : String)
  | invalidInteger (base : Nat) (text : String)
  | tooManyDigits (count : Nat)
  | tooLongToWrite
  | invalidFloat (shown : String)
  | fractionalPart (shown : String)
  | integerTooLarge
  | codeTooLarge
  | countTooLarge
  | outOfMemory
  | infiniteInteger
  | nanInteger
  | signalingNan
  | invalidDecimal
  | invalidOperation
  | invalidUuid
  | uuidOutOfRange
  | notBooleanNumber (shown : String)
  | unsupportedKind (name : String)
  | emptyName
  | unknownName (name : String)
  | notMember (shown enumeration : String)
  | unhashableKind (name : String)
  | unhashableNan
  | emptySeparator
  | argumentCount (function : String)
  | argumentExcess (function : String)
  | argumentMissing (function argument : String)
  | unwritable (kind : String)
  | unwritableKey (kind : String)
  | notText
  | noAttribute (kind member : String)
  | notSplittable
  | notIterable (kind : String)
  | comparisonRead
  | noTarget
  | noSourceClass
  | noTargetClass
  | stated (category : FaultCategory) (text : String)
  deriving DecidableEq, Repr

namespace Fault

/-- The fault of a numeral that cannot be read; the text is the one that was tried. -/
def ofNumeral (base : Nat) (text : List Char) : Numeral.ReadError → Fault
  | .malformed => .invalidInteger base (String.ofList text)
  | .tooManyDigits count => .tooManyDigits count

def ofDecimal : Decimal.ReadError → Fault
  | .malformed => .invalidDecimal
  | .outOfRange => .invalidOperation

def ofUuid : Uuid.ReadError → Fault
  | .wrongLength => .invalidUuid
  | .notHexadecimal digits => .invalidInteger 16 digits
  | .outOfRange => .uuidOutOfRange

def category : Fault → FaultCategory
  | .invalidBoolean _ | .invalidInteger .. | .tooManyDigits _ | .tooLongToWrite
  | .invalidFloat _ | .fractionalPart _ | .nanInteger | .signalingNan | .invalidUuid
  | .uuidOutOfRange | .notBooleanNumber _ | .emptyName | .notMember .. | .emptySeparator =>
    .value
  | .unsupportedKind _ | .unhashableKind _ | .unhashableNan | .argumentCount _
  | .argumentExcess _ | .argumentMissing .. | .unwritable _
  | .unwritableKey _ | .comparisonRead | .noTarget | .noSourceClass
  | .noTargetClass | .notText | .notSplittable | .notIterable _ =>
    .type
  | .unknownName _ => .key
  | .integerTooLarge | .codeTooLarge | .countTooLarge | .infiniteInteger => .overflow
  | .outOfMemory => .memory
  | .invalidDecimal | .invalidOperation => .decimal
  | .noAttribute .. => .attribute
  | .stated category _ => category

/-- A quoted text cut to the length that messages about numerals show. -/
def shownNumeral (text : String) : String :=
  String.ofList ((Text.quotedChars text.toList).take 200)

/-- What is said when an integer has too many digits. -/
def digitLimit : String :=
  "Exceeds the limit (4300 digits) for integer string conversion"

def text : Fault → String
  | .invalidBoolean shown => "Invalid boolean value '" ++ shown ++ "'"
  | .invalidInteger base text =>
    "invalid literal for int() with base " ++ Numeral.natText base ++ ": " ++ shownNumeral text
  | .tooManyDigits count =>
    digitLimit ++ ": value has " ++ Numeral.natText count ++
      " digits; use sys.set_int_max_str_digits() to increase the limit"
  | .tooLongToWrite =>
    digitLimit ++ "; use sys.set_int_max_str_digits() to increase the limit"
  | .invalidFloat shown => "could not convert string to float: " ++ shown
  | .fractionalPart shown => shown ++ " has a fractional part"
  | .integerTooLarge => "int too large to convert to float"
  | .codeTooLarge => "Python int too large to convert to C int"
  | .countTooLarge => "cannot fit 'int' into an index-sized integer"
  | .outOfMemory => ""
  | .infiniteInteger => "cannot convert Infinity to integer"
  | .nanInteger => "cannot convert NaN to integer"
  | .signalingNan => "cannot convert signaling NaN to float"
  | .invalidDecimal => "[<class 'decimal.ConversionSyntax'>]"
  | .invalidOperation => "[<class 'decimal.InvalidOperation'>]"
  | .invalidUuid => "badly formed hexadecimal UUID string"
  | .uuidOutOfRange => "int is out of range (need a 128-bit value)"
  | .notBooleanNumber shown => shown ++ " is not a boolean number"
  | .unsupportedKind name => "unsupported source type " ++ name
  | .emptyName => "empty enum name"
  | .unknownName name => Text.quoted name
  | .notMember shown enumeration => shown ++ " is not a valid " ++ enumeration
  | .unhashableKind name => "unhashable type: '" ++ name ++ "'"
  | .unhashableNan => "Cannot hash a signaling NaN value"
  | .emptySeparator => "empty separator"
  | .argumentCount function =>
    function ++ "() takes 1 positional argument but 2 were given"
  | .argumentExcess function => function ++ " expected at most 1 argument, got 2"
  | .argumentMissing function argument =>
    function ++ "() missing 1 required positional argument: '" ++ argument ++ "'"
  | .unwritable kind => "Object of type " ++ kind ++ " is not JSON serializable"
  | .unwritableKey kind => "keys must be str, int, float, bool or None, not " ++ kind
  | .notText => "argument should be integer or bytes-like object, not 'str'"
  | .noAttribute kind member =>
    "'" ++ kind ++ "' object has no attribute '" ++ member ++ "'"
  | .notSplittable => "a bytes-like object is required, not 'str'"
  | .notIterable kind => "'" ++ kind ++ "' object is not iterable"
  | .comparisonRead => "comparison sources are for use with collection lookups only"
  | .noTarget => "isinstance() arg 2 must be a type, a tuple of types, or a union"
  | .noSourceClass => "issubclass() arg 1 must be a class"
  | .noTargetClass => "issubclass() arg 2 must be a class, a tuple of classes, or a union"
  | .stated _ text => text

end Fault

end LayeredConfig
