import SourceCensus.Files.Path

/-! What a census complains of in its own words: a message with named details. The family of a
   complaint says what it is about. -/
namespace SourceCensus
open Files

inductive Family
  | general
  | configuration
  | analysis
  | invalidSetting
  | invalidPath
  | fileAccess
  deriving DecidableEq, Repr

namespace Family

def isConfiguration : Family → Bool
  | .configuration | .invalidSetting | .invalidPath => true
  | _ => false

def isAnalysis : Family → Bool
  | .analysis | .fileAccess => true
  | _ => false

def name : Family → String
  | .general => "ResourceRankerError"
  | .configuration => "ConfigurationError"
  | .analysis => "AnalysisError"
  | .invalidSetting => "InvalidConfigError"
  | .invalidPath => "InvalidPathError"
  | .fileAccess => "FileAccessError"

def all : List Family :=
  [.general, .configuration, .analysis, .invalidSetting, .invalidPath, .fileAccess]

def ofName? (name : String) : Option Family := all.find? (·.name = name)

end Family

structure Complaint where
  family : Family
  message : String
  details : List (String × String)
  deriving DecidableEq, Repr

namespace Complaint

def text (c : Complaint) : String :=
  if c.details.isEmpty then c.message
  else
    let details := c.details.map fun (name, value) => name ++ "=" ++ value
    c.message ++ " (" ++ ", ".intercalate details ++ ")"

def general (message : String) : Complaint := ⟨.general, message, []⟩

def fileAccess (path : Path) (reason : String) : Complaint :=
  ⟨.fileAccess, "Cannot access file: " ++ path.toString,
    [("filepath", path.toString), ("reason", reason)]⟩

def invalidPath (path : Path) (reason : String) : Complaint :=
  ⟨.invalidPath, "Invalid path: " ++ path.toString,
    [("path", path.toString), ("reason", reason)]⟩

def invalidSetting (name value reason : String) : Complaint :=
  ⟨.invalidSetting, s!"Invalid configuration for {name}: {value}",
    [("key", name), ("value", value), ("reason", reason)]⟩

def detail (c : Complaint) (name : String) : String := (c.details.lookup name).getD ""

def reason (c : Complaint) : String := c.detail "reason"

def logged (c : Complaint) : String := c.family.name ++ ": " ++ c.text

end Complaint

end SourceCensus
