import SourceCensus.Toml.Failure

/-! Tables under construction. Members keep the order of their first mention. Marks on names say which
   tables were declared and which values may no longer grow. -/
namespace SourceCensus.Toml

abbrev Members := List (String × Setting)

def keyOf (part : List Char) : String := String.ofList part

def putMember (name : String) (value : Setting) : Members → Members
  | [] => [(name, value)]
  | (k, v) :: rest => if k = name then (name, value) :: rest else (k, v) :: putMember name value rest

/-- Changes the table under a path of names, which is made if it is missing. The last table of a list
   stands for the list if `throughLists` allows it. Nothing if something else is in the way. -/
def changeAt (throughLists : Bool) (change : Members → Option Members) :
    Name → Members → Option Members
  | [], members => change members
  | part :: path, members =>
    let name := keyOf part
    match members.lookup name with
    | none => (changeAt throughLists change path []).map fun inner =>
        putMember name (.table inner) members
    | some (.table inner) => (changeAt throughLists change path inner).map fun inner =>
        putMember name (.table inner) members
    | some (.list items) =>
      match throughLists, items.getLast? with
      | true, some (.table inner) => (changeAt throughLists change path inner).map fun inner =>
          putMember name (.list (items.dropLast ++ [.table inner])) members
      | _, _ => none
    | some _ => none

def tableAt? (throughLists : Bool) : Name → Members → Option Members
  | [], members => some members
  | part :: path, members =>
    match members.lookup (keyOf part) with
    | none => some []
    | some (.table inner) => tableAt? throughLists path inner
    | some (.list items) =>
      match throughLists, items.getLast? with
      | true, some (.table inner) => tableAt? throughLists path inner
      | _, _ => none
    | some _ => none

/-- Adds an empty table to the list of tables under a name, which is made if it is missing. -/
def appendTable (name : Name) (members : Members) : Option Members :=
  match name.getLast? with
  | none => none
  | some last =>
    changeAt true (fun inner =>
      match inner.lookup (keyOf last) with
      | none => some (putMember (keyOf last) (.list [.table []]) inner)
      | some (.list items) => some (putMember (keyOf last) (.list (items ++ [.table []])) inner)
      | some _ => none) name.dropLast members

inductive MarkKind
  | declared
  | frozen
  deriving DecidableEq, Repr

abbrev Marks := List (Name × MarkKind)

def isMarked (marks : Marks) (kind : MarkKind) (name : Name) : Bool :=
  !name.isEmpty && marks.any fun (marked, k) =>
    k = kind && (marked = name || (kind = .frozen && marked.isPrefixOf name))

def unmark (marks : Marks) (name : Name) : Marks :=
  marks.filter fun (marked, _) => !name.isPrefixOf marked

end SourceCensus.Toml
