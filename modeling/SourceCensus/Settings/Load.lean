import SourceCensus.Settings.Environment

/-! Settings from all their sources: the user's file, the project's file, a file named by the caller,
   the environment, and values given directly. Each source goes over the ones before it. -/
namespace SourceCensus.Settings

structure Found where
  path : String
  content : Except String Layer

inductive Named
  | absent
  | missing (path : String)
  | found (file : Found)

structure Sources where
  user : Option Found
  project : Option Found
  named : Except Fault Named
  environment : Environment
  direct : Layer

def userFileName : String := ".resource-ranker.toml"

def projectFileName : String := "resource-ranker.toml"

def userRole : String := "global config"

def complain {α : Type} (message : String) : Except Fault α :=
  .error (.complaint (.general message))

def Found.layer (role : String) (file : Found) : Except Fault Layer :=
  match file.content with
  | .ok layer => .ok layer
  | .error reason => complain s!"Invalid {role} '{file.path}': {reason}"

def optionalLayer (role : String) (file : Option Found) : Except Fault Layer :=
  match file with
  | some file => file.layer role
  | none => .ok []

def Named.layer : Named → Except Fault Layer
  | .absent => .ok []
  | .missing path => complain s!"Config file not found: {path}"
  | .found file => file.layer "config file"

/-- A flag that is set stands for a degree of verbosity, and is no setting itself. -/
def applyFlag (flag : String) (layer : Layer) : Layer :=
  match layer.lookup flag with
  | none => layer
  | some value =>
    (if value.isTrue then Layer.put Field.verbosity.name (.text flag) layer else layer).filter
      fun entry => entry.1 ≠ flag

def isGiven : Setting → Bool
  | .none => false
  | _ => true

/-- Direct values that count: quiet goes over verbose, and nothing means not given. -/
def directLayer (direct : Layer) : Layer :=
  (applyFlag "quiet" (applyFlag "verbose" direct)).filter fun entry => isGiven entry.2

def merged (sources : Sources) : Except Fault Layer := do
  let user ← optionalLayer userRole sources.user
  let project ← optionalLayer "project config" sources.project
  let named ← (← sources.named).layer
  let environment ← environmentLayer sources.environment Field.all
  return [user, project, named, environment, directLayer sources.direct].foldl Layer.under []

/-- Faults of type and value become complaints; others stay as they are. -/
def load [CharacterNames] (sources : Sources) : Except Fault Settings := do
  let layer ← merged sources
  match ofLayer layer with
  | .ok settings => return settings
  | .error fault =>
    match fault.kind with
    | .type | .value => complain s!"Invalid configuration: {fault.message}"
    | _ => throw fault

end SourceCensus.Settings
