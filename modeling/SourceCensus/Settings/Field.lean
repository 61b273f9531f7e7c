import SourceCensus.Block
import SourceCensus.Setting

/-! The settings by name, in their order, with the values they have when nobody sets them. -/
namespace SourceCensus.Settings

inductive Field
  | extension
  | classPattern
  | stripLiterals
  | limit
  | verbosity
  | logFile
  | excludePatterns
  | followSymlinks
  | maxFileSize
  | encoding
  deriving DecidableEq, Repr

namespace Field

def all : List Field :=
  [.extension, .classPattern, .stripLiterals, .limit, .verbosity, .logFile, .excludePatterns,
    .followSymlinks, .maxFileSize, .encoding]

def name : Field → String
  | .extension => "extension"
  | .classPattern => "class_pattern"
  | .stripLiterals => "strip_literals"
  | .limit => "limit"
  | .verbosity => "verbosity"
  | .logFile => "log_file"
  | .excludePatterns => "exclude_patterns"
  | .followSymlinks => "follow_symlinks"
  | .maxFileSize => "max_file_size_mb"
  | .encoding => "encoding"

def ofName? (name : String) : Option Field := all.find? (·.name = name)

def default : Field → Setting
  | .extension => .text "dart"
  | .classPattern => .text Block.classPattern
  | .stripLiterals => .bool false
  | .limit => .int 10
  | .verbosity => .text "normal"
  | .logFile => .none
  | .excludePatterns => .list []
  | .followSymlinks => .bool false
  | .maxFileSize => .float 10.0
  | .encoding => .text "utf-8"

theorem mem_all (field : Field) : field ∈ all := by cases field <;> decide

end Field

/-- Named values in the order in which the names were first given; a later value replaces an earlier
   one in its place. -/
abbrev Layer := List (String × Setting)

namespace Layer

def put (name : String) (value : Setting) : Layer → Layer
  | [] => [(name, value)]
  | (k, v) :: rest => if k = name then (name, value) :: rest else (k, v) :: put name value rest

def under (lower upper : Layer) : Layer :=
  upper.foldl (fun layer entry => put entry.1 entry.2 layer) lower

def valueOf (layer : Layer) (field : Field) : Setting :=
  (layer.lookup field.name).getD field.default

def stranger? (layer : Layer) : Option String :=
  (layer.find? fun entry => (Field.ofName? entry.1).isNone).map (·.1)

end Layer

end SourceCensus.Settings
