import SourceCensus.Complaint
import SourceCensus.Pattern.Failure
import SourceCensus.Setting
import SourceCensus.Text.Integer

/-! Everything that can go wrong, as causes: complaints of the census itself, values of the wrong type
   or outside their range, patterns that cannot be read, and refusals of the file system. -/
namespace SourceCensus
open Text

inductive Refusal
  | missing
  | notADirectory
  | isADirectory
  | nameTooLong
  | tooManyLinks
  deriving DecidableEq, Repr

namespace Refusal

def number : Refusal → Nat
  | .missing => 2
  | .notADirectory => 20
  | .isADirectory => 21
  | .nameTooLong => 36
  | .tooManyLinks => 40

def words : Refusal → String
  | .missing => "No such file or directory"
  | .notADirectory => "Not a directory"
  | .isADirectory => "Is a directory"
  | .nameTooLong => "File name too long"
  | .tooManyLinks => "Too many levels of symbolic links"

def message (r : Refusal) (path : String) : String :=
  s!"[Errno {r.number}] {r.words}: {quoted path}"

end Refusal

inductive Fault
  | complaint (c : Complaint)
  -- values of the wrong type
  | unknownSetting (name : String)
  | reservedSetting (name : String)
  | noMember (type member : String)
  | notComparable (operator left right : String)
  | notAPattern
  | unhashable (type : String)
  | notIterable (type : String)
  | notSubscriptable (type : String)
  | notASliceIndex
  | notAnEncodingName (type : String)
  | notAPath (type : String)
  | notAWord (type : String)
  | notInDocuments (type : String)
  | missingMember (index : Nat)
  -- values outside their range
  | emptyExtension
  | sizeNotPositive
  | unknownVerbosity
  | badClassPattern (pattern : String) (failure : Pattern.Failure)
  | emptyGlob
  | nullCharacter
  | nullByte
  | infiniteSize
  | undefinedSize
  | notAnInteger (text : String) (error : IntegerError)
  | unwritableInteger
  | notANumber (text : String)
  | notATruthValue (text : String)
  | notAHexColor (code : String)
  | unknownMode (name : String)
  | unknownFormat (name : String)
  -- patterns and files
  | badPattern (pattern : String) (failure : Pattern.Failure)
  | refused (refusal : Refusal) (path : String)
  | undecoded (words : String)
  deriving DecidableEq, Repr

/-- The kinds of fault that callers tell apart. -/
inductive FaultKind
  | complaint (family : Family)
  | member
  | type
  | value
  | overflow
  | key
  | pattern
  | system (refusal : Refusal)
  | encoding
  deriving DecidableEq, Repr

namespace Fault

def patternKind : Pattern.Failure → FaultKind
  | .malformed _ _ => .pattern
  | .flagsClash | .countTooLong _ => .value
  | .countTooLarge => .overflow

def kind : Fault → FaultKind
  | .complaint c => .complaint c.family
  | .noMember _ _ => .member
  | .unknownSetting _ | .reservedSetting _ | .notComparable _ _ _ | .notAPattern | .unhashable _
  | .notIterable _ | .notSubscriptable _ | .notASliceIndex | .notAnEncodingName _ | .notAPath _
  | .notAWord _ | .notInDocuments _ => .type
  | .missingMember _ => .key
  | .infiniteSize => .overflow
  | .badPattern _ failure => patternKind failure
  | .refused refusal _ => .system refusal
  | .undecoded _ => .encoding
  | .emptyExtension | .sizeNotPositive | .unknownVerbosity | .badClassPattern _ _ | .emptyGlob
  | .nullCharacter | .nullByte | .undefinedSize | .notAnInteger _ _ | .unwritableInteger
  | .notANumber _ | .notATruthValue _ | .notAHexColor _ | .unknownMode _ | .unknownFormat _ => .value

def message : Fault → String
  | .complaint c => c.text
  | .unknownSetting name =>
    s!"RankerConfig.__init__() got an unexpected keyword argument {quotedName name}"
  | .reservedSetting name =>
    s!"RankerConfig.__init__() got multiple values for argument {quotedName name}"
  | .noMember type member => s!"'{type}' object has no attribute '{member}'"
  | .notComparable operator left right =>
    s!"'{operator}' not supported between instances of '{left}' and '{right}'"
  | .notAPattern => "first argument must be string or compiled pattern"
  | .unhashable type => s!"unhashable type: '{type}'"
  | .notIterable type => s!"'{type}' object is not iterable"
  | .notSubscriptable type => s!"'{type}' object is not subscriptable"
  | .notASliceIndex => "slice indices must be integers or None or have an __index__ method"
  | .notAnEncodingName type => s!"open() argument 'encoding' must be str or None, not {type}"
  | .notAPath type => s!"expected str, bytes or os.PathLike object, not {type}"
  | .notAWord type => s!"intern() argument must be str, not {type}"
  | .notInDocuments type => s!"Object of type {type} is not JSON serializable"
  | .missingMember index => toString index
  | .emptyExtension => "extension must not be empty"
  | .sizeNotPositive => "max_file_size_mb must be positive"
  | .unknownVerbosity => "verbosity must be one of quiet, normal, verbose"
  | .badClassPattern pattern failure =>
    "class_pattern is not a valid regex: " ++ failure.message pattern.toList
  | .emptyGlob => "empty pattern"
  | .nullCharacter => "embedded null character"
  | .nullByte => "embedded null byte"
  | .infiniteSize => "cannot convert float infinity to integer"
  | .undefinedSize => "cannot convert float NaN to integer"
  | .notAnInteger text error => error.message text
  | .unwritableInteger => s!"{tooLongMessage}; {longerIntegersHint}"
  | .notANumber text => "could not convert string to float: " ++ quoted text
  | .notATruthValue text => s!"expected true/false, got '{text}'"
  | .notAHexColor code => "Expected 3 or 6 hex digits, got " ++ quoted code
  | .unknownMode name => s!"{quoted name} is not a valid ScanMode"
  | .unknownFormat name =>
    s!"Unknown formatter: {quoted name}. Choose from: json, plain, rich"
  | .badPattern pattern failure => failure.message pattern.toList
  | .refused refusal path => refusal.message path
  | .undecoded words => words
where
  quotedName (name : String) : String := s!"'{name}'"

end Fault

end SourceCensus
