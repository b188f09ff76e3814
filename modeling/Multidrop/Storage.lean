import Multidrop.Line
import Multidrop.Node.Document
import Multidrop.Text

/-!
# Storage

The files that a program sees, and the file in which a node keeps its configuration.
-/
namespace Multidrop

/-! ## Folders

Files by their paths, as a program that works in one folder sees them. A path is taken relative
to that folder, also where it starts with the folder's own path. -/

/-- What stands at a path. -/
inductive Entry where
  /-- A file with its bytes. -/
  | file (bytes : List UInt8)
  /-- A folder. -/
  | folder
  deriving Repr, DecidableEq

namespace Fault

/-- Nothing stands at a path. -/
def missing : Fault := ⟨.notFound, some "No such file or directory (os error 2)"⟩

/-- A folder stands where a file is needed. -/
def folder : Fault := ⟨.isADirectory, some "Is a directory (os error 21)"⟩

/-- A file stands where a folder is needed. -/
def notFolder : Fault := ⟨.other, some "Not a directory (os error 20)"⟩

/-- A file that should hold text does not. -/
def notText : Fault := ⟨.invalidData, some "stream did not contain valid UTF-8"⟩

end Fault

/-- A folder and all that is in it. -/
structure Folder where
  /-- The folder's own path. -/
  home : String := ""
  /-- What is in it, by paths relative to the folder. -/
  entries : List (String × Entry) := []
  deriving Repr, DecidableEq

namespace Folder

/-- The names along a path from the folder on. -/
def steps (folder : Folder) (path : String) : List String :=
  let local? := Text.afterFront? (folder.home ++ "/").toList path.toList
  let inside := if path = folder.home then "" else (local?.map String.ofList).getD path
  (inside.splitOn "/").filter fun name => name ≠ "" && name ≠ "."

/-- The path that leads along names. -/
def join (names : List String) : String := "/".intercalate names

/-- What stands at the end of names. The folder itself is at the end of none. -/
def entryAt? (names : List String) (folder : Folder) : Option Entry :=
  if names.isEmpty then some .folder else folder.entries.lookup (join names)

/-- Whether something can stand at the end of names: a folder is at the end of those before. -/
def reachable (names : List String) (folder : Folder) : Except Fault Unit :=
  match folder.entryAt? names.dropLast with
  | some .folder => .ok ()
  | some (.file _) => .error .notFolder
  | none => .error .missing

/-- What stands at a path, if anything does. -/
def entry? (path : String) (folder : Folder) : Option Entry :=
  if path.isEmpty then none else folder.entryAt? (folder.steps path)

/-- The bytes of a file. -/
def read (path : String) (folder : Folder) : Except Fault (List UInt8) :=
  match folder.entry? path with
  | some (.file bytes) => .ok bytes
  | some .folder => .error .folder
  | none =>
    match folder.reachable (folder.steps path) with
    | .error fault => .error fault
    | .ok () => .error .missing

/-- The text of a file. -/
def readText (path : String) (folder : Folder) : Except Fault String := do
  match String.fromUTF8? ⟨(← folder.read path).toArray⟩ with
  | some text => .ok text
  | none => .error .notText

/-- Put an entry at the end of names. -/
def put (names : List String) (entry : Entry) (folder : Folder) : Folder :=
  let path := join names
  { folder with
    entries := folder.entries.filter (fun other => other.1 ≠ path) ++ [(path, entry)] }

/-- Remove what stands at a path. -/
def remove (path : String) (folder : Folder) : Folder :=
  let path := join (folder.steps path)
  { folder with entries := folder.entries.filter fun other => other.1 ≠ path }

/-- Whether a file may be put at a path, over one that is there. -/
def admits (path : String) (folder : Folder) : Except Fault Unit := do
  folder.reachable (folder.steps path)
  match folder.entry? path with
  | some .folder => .error .folder
  | some (.file _) | none => .ok ()

/-- Write a file. -/
def write (path : String) (bytes : List UInt8) (folder : Folder) : Except Fault Folder := do
  folder.admits path
  .ok (folder.put (folder.steps path) (.file bytes))

/-- Move a file over another path. -/
def rename (source target : String) (folder : Folder) : Except Fault Folder := do
  let bytes ← folder.read source
  folder.admits target
  .ok ((folder.remove source).put (folder.steps target) (.file bytes))

/-- The names in the folder itself. -/
def names (folder : Folder) : List String :=
  (folder.entries.map Prod.fst).filter fun path => !path.contains '/'

/-- The files in the folder itself, with their bytes. -/
def files (folder : Folder) : List (String × List UInt8) :=
  folder.entries.filterMap fun (path, entry) =>
    match entry with
    | .file bytes => if path.contains '/' then none else some (path, bytes)
    | .folder => none

end Folder

/-! ## Configuration files

A store that keeps a configuration as a document in a file. The document is written to a file
beside it, which is then moved into its place, so the file is never half written. -/

/-- A configuration file. -/
structure ConfigFile where
  /-- The folder it is seen from. -/
  folder : Folder
  /-- Its path. -/
  path : String
  deriving Repr, DecidableEq

namespace ConfigFile

/-- The configuration in the file. A file that is not there keeps none. -/
def load (file : ConfigFile) : Except NodeError (Option NodeConfig) :=
  match file.folder.readText file.path with
  | .error fault =>
    if fault.kind = .notFound then .ok none else .error (.storage file.path fault)
  | .ok text =>
    match NodeConfig.ofText text with
    | .error error => .error (.document error)
    | .ok config => config.validate.map some

/-- The path that a document is written to first. -/
def draftPath (file : ConfigFile) : String := file.path ++ ".tmp"

/-- Write a document and move it into its place. -/
def replace (text : String) (file : ConfigFile) : Except Fault Folder := do
  let drafted ← file.folder.write file.draftPath text.toUTF8.toList
  drafted.rename file.draftPath file.path

/-- Keep a configuration. What a failed attempt has written is removed. -/
def save (file : ConfigFile) (config : NodeConfig) : Except NodeError Unit × ConfigFile :=
  match config.validate with
  | .error error => (.error error, file)
  | .ok config =>
    match file.replace config.toText with
    | .ok folder => (.ok (), { file with folder })
    | .error fault =>
      (.error (.storage file.path fault), { file with folder := file.folder.remove file.draftPath })

instance : ConfigStore ConfigFile where
  load file := (file.load, file)
  save := save

end ConfigFile

end Multidrop
