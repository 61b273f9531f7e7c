import SourceCensus.Encoding.Basic

/-! A tree of files: folders with named entries, files with bytes, and links that hold a path. Places in
   it are lists of names from the top; no name of a place is a link to be followed. -/
namespace SourceCensus.Files
open Encoding

inductive Tree
  | file (bytes : Bytes)
  | link (target : String)
  | folder (entries : List (String × Tree))
  deriving Inhabited

abbrev Place := List String

namespace Tree

def entries : Tree → List (String × Tree)
  | .folder entries => entries
  | _ => []

def isFile : Tree → Bool
  | .file _ => true
  | _ => false

def isLink : Tree → Bool
  | .link _ => true
  | _ => false

def child? (t : Tree) (name : String) : Option Tree := t.entries.lookup name

def at? (t : Tree) : Place → Option Tree
  | [] => some t
  | name :: rest => (t.child? name).bind (·.at? rest)

def putEntry (name : String) (t : Tree) : List (String × Tree) → List (String × Tree)
  | [] => [(name, t)]
  | (k, u) :: rest => if k = name then (name, t) :: rest else (k, u) :: putEntry name t rest

def put (t new : Tree) : Place → Tree
  | [] => new
  | name :: rest =>
    .folder (putEntry name (((t.child? name).getD (.folder [])).put new rest) t.entries)

def makeFolder (t : Tree) (place : Place) : Tree :=
  if (t.at? place).isSome then t else t.put (.folder []) place

def remove (t : Tree) : Place → Tree
  | [] => t
  | [name] => .folder (t.entries.filter (·.1 ≠ name))
  | name :: rest =>
    match t.child? name with
    | some inner => .folder (putEntry name (inner.remove rest) t.entries)
    | none => t

mutual

/-- The number of links and folders, which bounds every chain through them. -/
def size : Tree → Nat
  | .file _ => 0
  | .link _ => 1
  | .folder entries => 1 + sizeOfEntries entries

def sizeOfEntries : List (String × Tree) → Nat
  | [] => 0
  | (_, t) :: rest => t.size + sizeOfEntries rest

end

end Tree

end SourceCensus.Files
