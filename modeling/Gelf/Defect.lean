import Gelf.Fault

/-!
# Gelf.Defect

The causes for which the library itself raises an exception, and their wording.

* `Defect`: one constructor for each cause.
* `Defect.kind`, `Defect.args`: the class of the exception and its arguments.
* `Defect.toFault`: the exception.
-/

namespace Gelf

inductive NumberMethod where
  | index
  | int
  | float
  deriving DecidableEq

def NumberMethod.name : NumberMethod → String
  | .index => "__index__"
  | .int => "__int__"
  | .float => "__float__"

inductive Defect where
  -- numbers
  | intTooLong
  | intTextTooLong (digits : Nat)
  | notAnInt (quoted : String)
  | notAnIntSource (className : String)
  | notAFloat (quoted : String)
  | notAFloatSource (className : String)
  | notAnIndex (className : String)
  | methodResult (owner : String) (method : NumberMethod) (className : String)
  | infiniteToInt
  | nanToInt
  | intTooLargeForFloat
  | floatDivisionByZero
  | divisionByZero
  | unsupportedOperands (operator left right : String)
  | notComparable (operator left right : String)
  -- objects
  | noLength (className : String)
  | notIterable (className : String)
  | noAttribute (className member : String)
  | noItemAssignment (className : String)
  | noSubscript (className : String)
  | noClassSubscript (name : String)
  | assignmentIndex
  | positionTooLarge (className : String)
  | countTooLarge (className : String)
  | indexRange (what : String)
  | indexNotInt (what className : String)
  | attributeNameNotText (className : String)
  | missingKey (key : Value)
  | unhashable (className : String)
  | notCallable (className : String)
  | notAClass (className : String)
  | notADictionary (className : String)
  | notWritable (member owner : String)
  | notCopyable (owner : String)
  | slotsWithoutState
  | outOfMemory
  -- percent formats
  | tooFewArguments
  | tooManyArguments
  | incompleteFormat
  | incompleteKey
  | needsMapping
  | unsupportedCharacter (c : Char) (index : Nat)
  | starNeedsInt
  | widthTooBig
  | precisionTooBig
  | precisionTooLarge
  | intTooLargeForWidth
  | intTooLargeForPrecision
  | needsReal (conversion : Char) (className : String)
  | needsInteger (conversion : Char) (className : String)
  | mustBeReal (className : String)
  | charNeedsIntOrChar
  | charOutOfRange
  | patternNeedsText (className : String)
  | textPatternOnBytes
  -- record layouts
  | badLayout (layout : String)
  | missingLayoutField (quoted : String)
  | onlyTextJoins (className : String)
  | onlyLikeJoins (className other : String)
  | bytesJoinInt
  | notACount (className : String)
  | notAnException (className : String)
  | unevenTraceback
  | limitNotCount
  | integerWanted
  -- times
  | timeNotANumber
  | timeTooLarge
  | yearTooFar
  | yearTooLarge
  -- JSON
  | badMemberName (className : String)
  -- settings
  | unknownSettings (unknown allowed : String)
  | unexpectedArgument (callee name : String)
  | repeatedArgument (callee name : String)
  | repeatedKeyword (callee name : String)
  | missingArguments (callee : String) (names : List String)
  | tooManyPositional (callee takes : String) (given : Nat)
  | unknownLevel (quoted : String)
  | badLevel (quoted : String)
  | unknownReporter (name : String)
  -- chunks and senders
  | badMessageId
  | tooManyChunks (count : Nat)
  | chunkSizeNotPositive
  | wrongTextAffix (className : String)
  | sliceIndex
  | abstractClass (name : String) (methods : List String)
  -- exceptions
  | argumentCount (callee takes : String) (given : Nat)
  | argumentNotText (place : Nat) (className : String)
  | stopWithoutLine
  | writtenTooLarge (className : String)
  | noGroups (name : String)
  -- dotted paths
  | bytesWanted (className : String)
  | notDotted (quoted : String)
  | relativePath (path : String)
  | noModule (name : String)
  | notAPackage (name parent : String)
  | noModuleMember (moduleName member : String)
  -- the error tracker
  | trackerMissing
  | trackerHalted

def joinNames : List String → String
  | [] => ""
  | [a] => a
  | [a, b] => a ++ " and " ++ b
  | names =>
    Text.joined ", " (names.take (names.length - 1)) ++ ", and " ++ names.getLast?.getD ""

namespace Defect

def hexText (n : Nat) : String := String.ofList (Nat.toDigits 16 n)

/-- A character as the complaint about a conversion shows it. -/
def shownConversion (c : Char) : Char :=
  if 31 ≤ c.toNat && c.toNat ≤ 126 then c else '?'

def kindName : Defect → String
  | .intTooLong | .intTextTooLong _ | .notAnInt _ | .notAFloat _ | .nanToInt => "ValueError"
  | .infiniteToInt | .intTooLargeForFloat => "OverflowError"
  | .floatDivisionByZero | .divisionByZero => "ZeroDivisionError"
  | .noAttribute _ _ | .noModuleMember _ _ | .notWritable _ _ => "AttributeError"
  | .assignmentIndex | .indexRange _ | .positionTooLarge _ => "IndexError"
  | .missingKey _ => "KeyError"
  | .outOfMemory => "MemoryError"
  | .incompleteFormat | .incompleteKey | .unsupportedCharacter _ _ => "ValueError"
  | .widthTooBig | .precisionTooBig => "ValueError"
  | .precisionTooLarge | .intTooLargeForWidth | .intTooLargeForPrecision => "OverflowError"
  | .charOutOfRange | .countTooLarge _ | .timeTooLarge | .yearTooLarge => "OverflowError"
  | .yearTooFar => "OSError"
  | .timeNotANumber | .writtenTooLarge _ => "ValueError"
  | .noGroups _ => "NotImplementedError"
  | .badLayout _ | .missingLayoutField _ | .unevenTraceback | .limitNotCount => "ValueError"
  | .unknownLevel _ | .unknownReporter _ => "ValueError"
  | .badMessageId | .tooManyChunks _ | .chunkSizeNotPositive | .notDotted _ => "ValueError"
  | .noModule _ | .notAPackage _ _ | .trackerHalted => "ModuleNotFoundError"
  | .trackerMissing => "ImportError"
  | _ => "TypeError"

def text : Defect → String
  | .intTooLong =>
    "Exceeds the limit (4300 digits) for integer string conversion; " ++
      "use sys.set_int_max_str_digits() to increase the limit"
  | .intTextTooLong digits =>
    "Exceeds the limit (4300 digits) for integer string conversion: value has " ++
      toString digits ++ " digits; use sys.set_int_max_str_digits() to increase the limit"
  | .notAnInt quoted => "invalid literal for int() with base 10: " ++ quoted
  | .notAnIntSource c =>
    "int() argument must be a string, a bytes-like object or a real number, not '" ++ c ++ "'"
  | .notAFloat quoted => "could not convert string to float: " ++ quoted
  | .notAFloatSource c => "float() argument must be a string or a real number, not '" ++ c ++ "'"
  | .notAnIndex c => "'" ++ c ++ "' object cannot be interpreted as an integer"
  | .methodResult owner .float c => owner ++ ".__float__ returned non-float (type " ++ c ++ ")"
  | .methodResult _ m c => m.name ++ " returned non-int (type " ++ c ++ ")"
  | .infiniteToInt => "cannot convert float infinity to integer"
  | .nanToInt => "cannot convert float NaN to integer"
  | .intTooLargeForFloat => "int too large to convert to float"
  | .floatDivisionByZero => "float division by zero"
  | .divisionByZero => "division by zero"
  | .unsupportedOperands op l r =>
    "unsupported operand type(s) for " ++ op ++ ": '" ++ l ++ "' and '" ++ r ++ "'"
  | .notComparable op l r =>
    "'" ++ op ++ "' not supported between instances of '" ++ l ++ "' and '" ++ r ++ "'"
  | .noLength c => "object of type '" ++ c ++ "' has no len()"
  | .notIterable c => "'" ++ c ++ "' object is not iterable"
  | .noAttribute c a => "'" ++ c ++ "' object has no attribute '" ++ a ++ "'"
  | .noItemAssignment c => "'" ++ c ++ "' object does not support item assignment"
  | .noSubscript c => "'" ++ c ++ "' object is not subscriptable"
  | .noClassSubscript name => "type '" ++ name ++ "' is not subscriptable"
  | .positionTooLarge c | .countTooLarge c | .writtenTooLarge c =>
    "cannot fit '" ++ c ++ "' into an index-sized integer"
  | .assignmentIndex => "list assignment index out of range"
  | .indexRange what => what ++ "index out of range"
  | .indexNotInt what c => what ++ " indices must be integers or slices, not " ++ c
  | .attributeNameNotText c => "attribute name must be string, not '" ++ c ++ "'"
  | .missingKey _ => ""
  | .unhashable c => "unhashable type: '" ++ c ++ "'"
  | .notCallable c => "'" ++ c ++ "' object is not callable"
  | .notAClass c => "__class__ must be set to a class, not '" ++ c ++ "' object"
  | .notADictionary c => "__dict__ must be set to a dictionary, not a '" ++ c ++ "'"
  | .notWritable member owner =>
    "attribute '" ++ member ++ "' of '" ++ owner ++ "' objects is not writable"
  | .notCopyable owner => "un(shallow)copyable object of type <class '" ++ owner ++ "'>"
  | .slotsWithoutState =>
    "a class that defines __slots__ without defining __getstate__ cannot be pickled"
  | .outOfMemory => ""
  | .tooFewArguments => "not enough arguments for format string"
  | .tooManyArguments => "not all arguments converted during string formatting"
  | .incompleteFormat => "incomplete format"
  | .incompleteKey => "incomplete format key"
  | .needsMapping => "format requires a mapping"
  | .unsupportedCharacter c index =>
    "unsupported format character '" ++ String.singleton (shownConversion c) ++ "' (0x" ++
      hexText c.toNat ++ ") at index " ++ toString index
  | .starNeedsInt => "* wants int"
  | .widthTooBig => "width too big"
  | .precisionTooBig => "precision too big"
  | .precisionTooLarge => "precision too large"
  | .intTooLargeForWidth => "Python int too large to convert to C ssize_t"
  | .intTooLargeForPrecision => "Python int too large to convert to C int"
  | .needsReal conversion c =>
    "%" ++ String.singleton conversion ++ " format: a real number is required, not " ++ c
  | .needsInteger conversion c =>
    "%" ++ String.singleton conversion ++ " format: an integer is required, not " ++ c
  | .mustBeReal c => "must be real number, not " ++ c
  | .charNeedsIntOrChar => "%c requires int or char"
  | .charOutOfRange => "%c arg not in range(0x110000)"
  | .patternNeedsText c => "expected string or bytes-like object, got '" ++ c ++ "'"
  | .textPatternOnBytes => "cannot use a string pattern on a bytes-like object"
  | .badLayout layout => "Invalid format '" ++ layout ++ "' for '%' style"
  | .missingLayoutField quoted => "Formatting field not found in record: " ++ quoted
  | .onlyTextJoins c => "can only concatenate str (not \"" ++ c ++ "\") to str"
  | .onlyLikeJoins c other => "can only concatenate " ++ c ++ " (not \"" ++ other ++ "\") to " ++ c
  | .bytesJoinInt => "can't concat int to bytes"
  | .notACount c => "can't multiply sequence by non-int of type '" ++ c ++ "'"
  | .notAnException c => "Exception expected for value, " ++ c ++ " found"
  | .unevenTraceback => "Both or neither of value and tb must be given"
  | .limitNotCount =>
    "Stop argument for islice() must be None or an integer: 0 <= x <= sys.maxsize."
  | .integerWanted => "an integer is required"
  | .timeNotANumber => "Invalid value NaN (not a number)"
  | .timeTooLarge => "timestamp out of range for platform time_t"
  | .yearTooFar => "Value too large for defined data type"
  | .yearTooLarge => "signed integer is greater than maximum"
  | .badMemberName c => "keys must be str, int, float, bool or None, not " ++ c
  | .unknownSettings unknown allowed =>
    "Unknown GELF config keys: " ++ unknown ++ ". Allowed keys: " ++ allowed
  | .unexpectedArgument callee name =>
    callee ++ "() got an unexpected keyword argument '" ++ name ++ "'"
  | .repeatedArgument callee name =>
    callee ++ "() got multiple values for argument '" ++ name ++ "'"
  | .repeatedKeyword callee name =>
    callee ++ "() got multiple values for keyword argument '" ++ name ++ "'"
  | .missingArguments callee names =>
    callee ++ "() missing " ++ toString names.length ++ " required positional argument" ++
      (if names.length == 1 then "" else "s") ++ ": " ++
      joinNames (names.map fun n => "'" ++ n ++ "'")
  | .tooManyPositional callee takes given =>
    callee ++ "() takes " ++ takes ++ " but " ++ toString given ++ " were given"
  | .unknownLevel quoted => "Unknown level: " ++ quoted
  | .badLevel quoted => "Level not an integer or a valid string: " ++ quoted
  | .unknownReporter name =>
    "Unknown reporter_type: " ++ name ++ ". Must be one of: console, silent, sentry"
  | .badMessageId => "GELF message id must be 8 bytes"
  | .tooManyChunks count =>
    "GELF message needs " ++ toString count ++ " chunks; at most 128 are allowed"
  | .chunkSizeNotPositive => "chunk_size must be positive"
  | .wrongTextAffix c =>
    "startswith first arg must be " ++ c ++ " or a tuple of " ++ c ++ ", not str"
  | .sliceIndex =>
    "slice indices must be integers or None or have an __index__ method"
  | .abstractClass name methods =>
    "Can't instantiate abstract class " ++ name ++ " with abstract method" ++
      (if methods.length == 1 then "" else "s") ++ " " ++ Text.joined ", " methods
  | .argumentCount callee takes given =>
    callee ++ " takes " ++ takes ++ " arguments (" ++ toString given ++ " given)"
  | .argumentNotText place c =>
    "argument " ++ toString place ++ " must be str, not " ++
      (if c == "NoneType" then "None" else c)
  | .stopWithoutLine => "end_offset must be provided when end_lineno is provided"
  | .noGroups name => name ++ " is not supported"
  | .bytesWanted c => "a bytes-like object is required, not '" ++ c ++ "'"
  | .notDotted quoted => "Not a dotted path: " ++ quoted
  | .relativePath path =>
    "the 'package' argument is required to perform a relative import for " ++ path
  | .noModule name => "No module named " ++ name
  | .notAPackage name parent =>
    "No module named " ++ name ++ "; " ++ parent ++ " is not a package"
  | .noModuleMember m a => "module '" ++ m ++ "' has no attribute '" ++ a ++ "'"
  | .trackerMissing =>
    "sentry-sdk is not installed. Install it with: pip install copilot-gelf[sentry]"
  | .trackerHalted => "import of sentry_sdk halted; None in sys.modules"

def args : Defect → List Value
  | .missingKey key => [key]
  | .outOfMemory => []
  | .yearTooFar => [.int 75, .str Defect.yearTooFar.text]
  | d => [.str d.text]

/-- What cannot be copied has an exception of its own. -/
def kind : Defect → FaultKind
  | .notCopyable _ => .own "copy" "Error"
  | d => .builtin d.kindName

def toFault (d : Defect) : Fault := .raised d.kind d.args

end Defect

def raise {α : Type} (d : Defect) : Except Fault α := .error d.toFault

end Gelf
