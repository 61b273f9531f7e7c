import SourceCensus.Encoding.Name
import SourceCensus.Files.Locate

/-! Files as text. A file that is too large, cannot be opened or holds no text of the encoding is
   complained of; an encoding of the wrong type is a fault of its own, and so is a decoder that gives
   up. -/
namespace SourceCensus.Files
open Encoding

def folderSize : Nat := 4096

def Tree.byteCount : Tree → Nat
  | .file bytes => bytes.length
  | .link target => target.utf8ByteSize
  | .folder _ => folderSize

structure Reading where
  encoding : Setting
  handling : Handling
  mostBytes : Option Int

def systemReason (path : Path) (refusal : Refusal) : String :=
  "OS error: " ++ refusal.message path.toString

def sizeReason (size : Nat) (most : Int) : String :=
  s!"File size {size} exceeds limit of {most} bytes"

def inaccessible {α : Type} (path : Path) (reason : String) : Except Fault α :=
  .error (.complaint (.fileAccess path reason))

/-- A name with a null character in it cannot even be looked for. -/
def encodingName : Setting → Except Fault String
  | .text name => if name.toList.contains '\x00' then .error .nullCharacter else .ok name
  | .none => .ok "utf-8"
  | value => .error (.notAnEncodingName value.typeName)

def shownName (name : String) : String :=
  match decode .utf8 .replace (name.toUTF8.toList.take 400) with
  | .ok text => String.ofList text
  | .error _ => name

def decodedText (path : Path) : Except Failure (List Char) → Except Fault (List Char)
  | .ok text => .ok (unifyLineEnds text)
  | .error (.stopped words) => .error (.undecoded words)
  | .error failure => inaccessible path ("Encoding error: " ++ failure.message)

def checkSize (path : Path) (size : Nat) : Option Int → Except Fault Unit
  | none => .ok ()
  | some most => if most < size then inaccessible path (sizeReason size most) else .ok ()

namespace Disk

def open? (d : Disk) (path : Path) : Except Fault Tree :=
  match d.find path.toString with
  | .ok t => .ok t
  | .error refusal => inaccessible path (systemReason path refusal)

/-- The size is looked at first, if there is a limit, then the name of the encoding, then the file. -/
def read [Codecs] (d : Disk) (reading : Reading) (path : Path) : Except Fault (List Char) := do
  if reading.mostBytes.isSome then
    checkSize path (← d.open? path).byteCount reading.mostBytes
  let name ← encodingName reading.encoding
  match ← d.open? path with
  | .file bytes =>
    match Encoding.codec name with
    | .text decode => decodedText path (decode reading.handling bytes)
    | .notText =>
      inaccessible path (s!"Unknown encoding: '{shownName name}' is not a text encoding; " ++
        "use codecs.open() to handle arbitrary codecs")
    | .unknown => inaccessible path ("Unknown encoding: unknown encoding: " ++ name)
  | _ => inaccessible path (systemReason path .isADirectory)

end Disk

end SourceCensus.Files
