import SourceCensus.Fault
import SourceCensus.Files.Tree

/-! From paths to places. Links on the way are followed, and the last name if it is asked for; a path
   can also be resolved as far as it goes, whether or not anything is there. -/
namespace SourceCensus.Files

structure Disk where
  tree : Tree
  here : Place
  home : Place

def longestName : Nat := 255

def longestPath : Nat := 4096

def mostLinks : Nat := 40

/-- The names of a path text; an empty one at the end says that a folder is meant. -/
def stepsOf (path : String) : List String := (splitAtSlash path.toList).map String.ofList

def startOf (here : Place) (path : String) : Place :=
  if path.toList.head? = some '/' then [] else here

/-- Walks down name by name. `links` is how many links may still be followed. -/
def descend (tree : Tree) (links : Nat) (followLast : Bool) (here : Place) (steps : List String) :
    Except Refusal Place :=
  match steps with
  | [] => .ok here
  | name :: rest =>
    match tree.at? here with
    | some (.folder entries) =>
      if name = "" || name = "." then descend tree links followLast here rest
      else if name = ".." then descend tree links followLast here.dropLast rest
      else if longestName < name.utf8ByteSize then .error .nameTooLong
      else
        match entries.lookup name with
        | none => .error .missing
        | some (.link target) =>
          if rest.isEmpty && !followLast then .ok (here ++ [name])
          else
            match links with
            | 0 => .error .tooManyLinks
            | links + 1 =>
              if target = "" then .error .missing
              else descend tree links followLast (startOf here target) (stepsOf target ++ rest)
        | some _ => descend tree links followLast (here ++ [name]) rest
    | some _ => .error .notADirectory
    | none => .error .missing
  termination_by (links, steps.length)

namespace Disk

def locate (d : Disk) (path : String) (followLast : Bool) : Except Refusal Place :=
  if path = "" then .error .missing
  else if longestPath ≤ path.utf8ByteSize then .error .nameTooLong
  else descend d.tree mostLinks followLast (startOf d.here path) (stepsOf path)

def find (d : Disk) (path : String) : Except Refusal Tree := do
  let place ← d.locate path true
  match d.tree.at? place with
  | some t => return t
  | none => throw .missing

/-- What is there, if anything is. Only a name that is too long is an error of its own. -/
def look (d : Disk) (path : String) : Except Fault (Option Tree) :=
  match d.find path with
  | .ok t => .ok (some t)
  | .error .nameTooLong => .error (.refused .nameTooLong path)
  | .error _ => .ok none

def exists? (d : Disk) (path : String) : Except Fault Bool := (d.look path).map Option.isSome

def isFile? (d : Disk) (path : String) : Except Fault Bool :=
  (d.look path).map fun found => (found.map Tree.isFile).getD false

def isFolder (d : Disk) (path : String) : Bool :=
  match d.find path with
  | .ok (.folder _) => true
  | _ => false

end Disk

def pathText (place : Place) : String := "/" ++ "/".intercalate place

abbrev Seen := List (Place × Option Place)

/-- How far resolving came: the place reached, the names left over after a link that leads back to
   itself, and the links met. -/
structure Resolved where
  place : Place
  left : List String
  looped : Bool
  seen : Seen

def resolveSteps (tree : Tree) (fuel : Nat) (seen : Seen) (here : Place) (steps : List String) :
    Resolved :=
  match steps with
  | [] => ⟨here, [], false, seen⟩
  | name :: rest =>
    if name = "" || name = "." then resolveSteps tree fuel seen here rest
    else if name = ".." then resolveSteps tree fuel seen here.dropLast rest
    else
      let next := here ++ [name]
      match tree.at? next with
      | some (.link target) =>
        match seen.lookup next with
        | some (some place) => resolveSteps tree fuel seen place rest
        | some none => ⟨next, rest, true, seen⟩
        | none =>
          match fuel with
          | 0 => ⟨next, rest, true, seen⟩
          | less + 1 =>
            let inner := resolveSteps tree less ((next, none) :: seen) (startOf here target)
              (stepsOf target)
            if inner.looped then { inner with left := inner.left ++ rest }
            else resolveSteps tree (less + 1) ((next, some inner.place) :: inner.seen) inner.place rest
      | _ => resolveSteps tree fuel seen next rest
  termination_by (fuel, steps.length)

def appendNames (here : Place) (names : List String) : Place :=
  names.foldl (fun place name =>
    if name = "" || name = "." then place
    else if name = ".." then place.dropLast
    else place ++ [name]) here

namespace Disk

def resolve (d : Disk) (path : String) : Place :=
  let found := resolveSteps d.tree (d.tree.size + 1) [] (startOf d.here path) (stepsOf path)
  appendNames found.place found.left

def resolveFolder (d : Disk) (path : Path) : Except Fault Path := do
  let text := pathText (d.resolve path.toString)
  let resolved := Path.ofString text
  match d.find text with
  | .error .tooManyLinks =>
    throw (.complaint (.invalidPath path
      ("Cannot resolve path: Symlink loop from " ++ Text.quoted text)))
  | .error .nameTooLong => throw (.refused .nameTooLong text)
  | .error _ => throw (.complaint (.invalidPath resolved "Directory does not exist"))
  | .ok (.folder _) => return resolved
  | .ok _ => throw (.complaint (.invalidPath resolved "Not a directory"))

/-- Where a file can be written: the place of a file or of a name that is missing in its folder. Links
   at the end are followed, at most `links` of them. -/
def writablePlace (d : Disk) (links : Nat) (here : Place) (steps : List String) :
    Except Refusal Place := do
  let folder ← descend d.tree mostLinks true here steps.dropLast
  let name := steps.getLast?.getD ""
  match d.tree.at? folder with
  | some (.folder entries) =>
    if name = "" || name = "." || name = ".." then throw .isADirectory
    else if longestName < name.utf8ByteSize then throw .nameTooLong
    else
      match entries.lookup name with
      | some (.folder _) => throw .isADirectory
      | some (.link target) =>
        match links with
        | 0 => throw .tooManyLinks
        | links + 1 => d.writablePlace links (startOf folder target) (stepsOf target)
      | _ => return folder ++ [name]
  | some _ => throw .notADirectory
  | none => throw .missing

def settledText (d : Disk) (path : String) : String :=
  let text := pathText (appendNames (startOf d.here path) (stepsOf path))
  if Path.rootOf path.toList = "//" then "/" ++ text else text

def absolute (d : Disk) (path : Path) : Path := (Path.ofString (pathText d.here)).join path

def touch (d : Disk) (place : Place) : Disk :=
  if (d.tree.at? place).isSome then d else { d with tree := d.tree.put (.file []) place }

def append (d : Disk) (place : Place) (text : String) : Disk :=
  let before := match d.tree.at? place with
    | some (.file bytes) => bytes
    | _ => []
  { d with tree := d.tree.put (.file (before ++ text.toUTF8.toList)) place }

end Disk

end SourceCensus.Files
