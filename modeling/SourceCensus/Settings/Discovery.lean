import SourceCensus.Encoding.Units
import SourceCensus.Files.Locate
import SourceCensus.Settings.Load
import SourceCensus.Toml.Reader

/-! Settings files on a disk: the user's in the home folder, the project's in the current one, and the
   one named by the caller. -/
namespace SourceCensus.Settings
open Files Encoding

def fileContent (d : Disk) (path : String) : Except String Layer :=
  match d.find path with
  | .error refusal => .error (refusal.message path)
  | .ok (.file bytes) =>
    match decode .utf8 .strict bytes with
    | .error failure => .error failure.message
    | .ok text => Toml.read text
  | .ok _ => .error (Refusal.isADirectory.message path)

def foundAt (d : Disk) (path : String) : Option Found :=
  match d.find path with
  | .ok _ => some ⟨path, fileContent d path⟩
  | .error _ => none

def namedAt (d : Disk) : Option Path → Except Fault Named
  | none => .ok .absent
  | some path => do
    let text := path.toString
    if ← d.exists? text then return .found ⟨text, fileContent d text⟩
    else return .missing text

def userFile (d : Disk) : String := pathText (d.home ++ [userFileName])

def projectFile (d : Disk) : String := pathText (d.here ++ [projectFileName])

def sourcesOn (d : Disk) (named : Option Path) (environment : Environment)
    (direct : Layer) : Sources where
  user := foundAt d (userFile d)
  project := foundAt d (projectFile d)
  named := namedAt d named
  environment := environment
  direct := direct

/-- The settings from all that. A path may be too long to be looked at; what is wrong with the user's
   file is said before the project's file is looked for. -/
def loadOn [CharacterNames] (d : Disk) (named : Option Path) (environment : Environment)
    (direct : Layer) : Except Fault Settings := do
  let sources := sourcesOn d named environment direct
  let _ ← d.exists? (userFile d)
  let _ ← optionalLayer userRole sources.user
  let _ ← d.exists? (projectFile d)
  load sources

end SourceCensus.Settings
