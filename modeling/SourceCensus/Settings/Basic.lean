import SourceCensus.Fault
import SourceCensus.Pattern.Reader
import SourceCensus.Settings.Field

/-! Settings that have passed the checks: an extension, a class pattern that can be read, a size above
   zero and one of three degrees of verbosity. The other values may still be of any type. -/
namespace SourceCensus
open Settings

inductive Verbosity
  | quiet
  | normal
  | verbose
  deriving DecidableEq, Repr

namespace Verbosity

def name : Verbosity → String
  | .quiet => "quiet"
  | .normal => "normal"
  | .verbose => "verbose"

def all : List Verbosity := [.quiet, .normal, .verbose]

def ofSetting? : Setting → Option Verbosity
  | .text name => all.find? (·.name = name)
  | _ => none

end Verbosity

inductive Size
  | whole (count : Int)
  | truth (value : Bool)
  | real (count : Float)
  deriving Repr

structure Settings where
  extension : String
  classPattern : Pattern
  stripLiterals : Setting
  limit : Setting
  verbosity : Verbosity
  logFile : Setting
  excludePatterns : Setting
  followSymlinks : Setting
  maxFileSize : Size
  encoding : Setting
  deriving Repr

namespace Settings

def bareExtension (extension : String) : List Char := extension.toList.dropWhile (· == '.')

def checkExtension : Setting → Except Fault String
  | .text extension =>
    if (bareExtension extension).isEmpty then .error .emptyExtension else .ok extension
  | value => .error (.noMember value.typeName "lstrip")

def checkPattern [CharacterNames] : Setting → Except Fault Pattern
  | .text source =>
    match Pattern.read source with
    | .ok pattern => .ok pattern
    | .error (.malformed cause position) =>
      .error (.badClassPattern source (.malformed cause position))
    | .error failure => .error (.badPattern source failure)
  | .list items => .error (.unhashable (Setting.list items).typeName)
  | .table members => .error (.unhashable (Setting.table members).typeName)
  | _ => .error .notAPattern

def checkSize : Setting → Except Fault Size
  | .int count => if count ≤ 0 then .error .sizeNotPositive else .ok (.whole count)
  | .bool value => if value then .ok (.truth value) else .error .sizeNotPositive
  | .float count => if count ≤ 0.0 then .error .sizeNotPositive else .ok (.real count)
  | value => .error (.notComparable "<=" value.typeName "int")

def checkVerbosity (value : Setting) : Except Fault Verbosity :=
  match Verbosity.ofSetting? value with
  | some verbosity => .ok verbosity
  | none => .error .unknownVerbosity

def reservedName : String := "self"

def strangerFault (name : String) : Fault :=
  if name = reservedName then .reservedSetting name else .unknownSetting name

/-- The settings of a layer, the first fault winning: a name that is no setting, then extension,
   pattern, size and verbosity. -/
def ofLayer [CharacterNames] (layer : Layer) : Except Fault Settings := do
  if let some name := Layer.stranger? layer then throw (strangerFault name)
  let value := Layer.valueOf layer
  let extension ← checkExtension (value .extension)
  let classPattern ← checkPattern (value .classPattern)
  let maxFileSize ← checkSize (value .maxFileSize)
  let verbosity ← checkVerbosity (value .verbosity)
  return {
    extension, classPattern, maxFileSize, verbosity
    stripLiterals := value .stripLiterals
    limit := value .limit
    logFile := value .logFile
    excludePatterns := value .excludePatterns
    followSymlinks := value .followSymlinks
    encoding := value .encoding }

def suffix (s : Settings) : String := String.ofList ('.' :: bareExtension s.extension)

def bytesPerMegabyte : Nat := 1024 * 1024

/-- The greatest number of bytes in a file. A real size is multiplied before it is cut. -/
def Size.bytes : Size → Except Fault Int
  | .whole count => .ok (count * bytesPerMegabyte)
  | .truth value => .ok (if value then bytesPerMegabyte else 0)
  | .real count =>
    match Decimal.ofFloat (count * 1024.0 * 1024.0) with
    | .finite b => .ok b.truncate
    | .infinite _ => .error .infiniteSize
    | .undefined => .error .undefinedSize

def Size.setting : Size → Setting
  | .whole count => .int count
  | .truth value => .bool value
  | .real count => .float count

def maxBytes (s : Settings) : Except Fault Int := Size.bytes s.maxFileSize

def setting (s : Settings) : Field → Setting
  | .extension => .text s.extension
  | .classPattern => .text s.classPattern.source
  | .stripLiterals => s.stripLiterals
  | .limit => s.limit
  | .verbosity => .text s.verbosity.name
  | .logFile => s.logFile
  | .excludePatterns => s.excludePatterns
  | .followSymlinks => s.followSymlinks
  | .maxFileSize => Size.setting s.maxFileSize
  | .encoding => s.encoding

end Settings

end SourceCensus
