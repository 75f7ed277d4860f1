import ProfileBrowser.Files.Basic
import ProfileBrowser.Text.Utf8
/-!
# Folders

A folder in memory that holds files and no other folders, with the ways to get at them. A path leads
from the folder and may lead out of it, to the folders around it, which hold nothing but what is
written there.
-/

namespace ProfileBrowser

/-- A folder: the names of its files with their contents. The name of a file around it leads there
with double dots. -/
structure Folder where
  entries : List (String × List UInt8) := []
deriving Inhabited

namespace Folder

/-- The content of the file with a name. -/
def get? (f : Folder) (name : String) : Option (List UInt8) := f.entries.lookup name

/-- Puts a file into the folder, over the one of the same name. -/
def put (f : Folder) (name : String) (content : List UInt8) : Folder :=
  ⟨(name, content) :: f.entries.filter (·.1 ≠ name)⟩

/-- The names of the files in ascending order. -/
def names (f : Folder) : List String :=
  ((f.entries.map (·.1)).filter fun name => !name.toList.contains '/').mergeSort fun a b => a ≤ b

/-! ### Paths -/

/-- The greatest number of bytes in a path. -/
def maxPathBytes : Nat := 4095

/-- The greatest number of bytes in a name. -/
def maxNameBytes : Nat := 255

/-- What a path leads to. -/
inductive Place where
  | folder
  /-- A file that is there or may be made. With a slash at its end, a path asks for a folder. -/
  | file (name : String) (asFolder : Bool)
deriving DecidableEq, Repr, Inhabited

/-- Where the steps of a path lead, from the folder that `start` leads to. -/
def walk (f : Folder) (asFolder : Bool) (start : String) : List String → Except FileFault Place
  | [] => .ok .folder
  | step :: rest =>
    if step = "." then walk f asFolder start rest
    else if step = ".." then walk f asFolder (start ++ "../") rest
    else if maxNameBytes < step.utf8ByteSize then .error .nameTooLong
    else
      let name := start ++ step
      if rest.isEmpty then .ok (.file name asFolder)
      else .error (if (f.get? name).isSome then .notFolder else .missing)

/-- Where a path leads. Slashes in a row count as one. -/
def locate (f : Folder) (path : String) : Except FileFault Place :=
  let cs := path.toList
  if cs.contains (Char.ofNat 0) then .error .zeroInPath
  else if cs.isEmpty then .error .missing
  else if maxPathBytes < path.utf8ByteSize then .error .nameTooLong
  else
    let start := if cs.head? = some '/' then "/" else ""
    f.walk (cs.getLast? = some '/') start
      (((cs.splitOn '/').filter fun step => !step.isEmpty).map String.ofList)

/-- The content of the file that a path leads to. -/
def read (f : Folder) (path : String) : Except FileFault (List UInt8) := do
  match ← f.locate path with
  | .folder => throw .isFolder
  | .file name asFolder =>
    match f.get? name with
    | some content => if asFolder then throw .notFolder else return content
    | none => throw .missing

/-! ### Getting at the files -/

/-- Changes the content of the file that a path leads to; a new file starts out empty. -/
def change (path : String) (content : List UInt8 → List UInt8) :
    StateM Folder (Except FileFault Unit) := fun f =>
  match f.locate path with
  | .error fault => (.error fault, f)
  | .ok (.file name false) => (.ok (), f.put name (content ((f.get? name).getD [])))
  | .ok _ => (.error .isFolder, f)

/-- The files of a folder. -/
def files : Files (StateM Folder) where
  isFile path := fun f => ((f.read path).toBool, f)
  read path := fun f => (f.read path, f)
  touch path := change path id
  write path text := change path fun _ => Text.utf8 text.toList

end Folder

end ProfileBrowser
