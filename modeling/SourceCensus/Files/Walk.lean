import SourceCensus.Files.Exclusion
import SourceCensus.Files.Locate

/-! The files below a folder, in order: those of a folder by name, then those of its folders, also by
   name. A link to a folder counts as a folder, but is gone into only on demand. -/
namespace SourceCensus.Files

structure Wanted where
  suffix : String
  exclude : Setting
  followLinks : Bool

def sortedByName (entries : List (String × Tree)) : List (String × Tree) :=
  entries.mergeSort fun a b => decide (a.1 ≤ b.1)

def Path.below (p root : Path) : Path := ⟨"", p.names.drop root.names.length⟩

namespace Disk

/-- Whether what a folder lists under a path is a folder, or a link that leads to one. -/
def leadsToFolder (d : Disk) (path : Path) : Tree → Bool
  | .folder _ => true
  | .link _ => d.isFolder path.toString
  | .file _ => false

/-- Whether a path that is no folder is a file to be taken. Exclusion comes before the look at what
   is there. -/
def isWanted (d : Disk) (w : Wanted) (root path : Path) : Except Fault Bool := do
  if path.suffix ≠ w.suffix then return false
  else if ← isExcludedBy (path.below root) w.exclude then return false
  else d.isFile? path.toString

def wantedAmong (d : Disk) (w : Wanted) (root : Path) (paths : List Path) :
    List (Except Fault Path) :=
  paths.filterMap fun path =>
    match d.isWanted w root path with
    | .ok true => some (.ok path)
    | .ok false => none
    | .error fault => some (.error fault)

def walkFrom (d : Disk) (w : Wanted) (root : Path) : Nat → Path → List (Except Fault Path)
  | 0, _ => []
  | depth + 1, current =>
    match d.find current.toString with
    | .ok (.folder entries) =>
      let listed := sortedByName entries
      let isFolder entry := d.leadsToFolder (current.child entry.1) entry.2
      let others := listed.filter fun entry => !isFolder entry
      let entered := listed.filter fun entry => isFolder entry && (w.followLinks || !entry.2.isLink)
      d.wantedAmong w root (others.map fun entry => current.child entry.1) ++
        entered.flatMap fun entry => d.walkFrom w root depth (current.child entry.1)
    | _ => []

def listingRefusal? (d : Disk) (path : Path) : Option Refusal :=
  match d.find path.toString with
  | .ok (.folder _) => none
  | .ok _ => some .notADirectory
  | .error refusal => some refusal

/-- What a walk meets, in order. It ends at the first fault; what stands behind one is never met. Where
    links lead back up, it is the length of a path or the number of links on it that ends a walk: every
    level makes the path longer, and one of `longestPath` bytes leads nowhere. -/
def walk (d : Disk) (w : Wanted) (root : Path) : List (Except Fault Path) :=
  match d.listingRefusal? root with
  | some refusal =>
    [.error (.complaint
      (.fileAccess root ("Directory scan failed: " ++ refusal.message root.toString)))]
  | none => d.walkFrom w root longestPath root

end Disk

end SourceCensus.Files
