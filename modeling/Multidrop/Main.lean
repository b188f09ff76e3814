import Multidrop.Command.Session

/-!
# The program

The command line as a program. It shows the files along the path that the arguments name to the
command, and afterwards writes the file that it changed and its output.
-/
namespace Multidrop.Command

/-- What stands at a path, as far as reading it tells. -/
def lookAt (path : String) : IO (Option Entry) := do
  try
    return some (.file (← IO.FS.readBinFile path).toList)
  catch
    | .noFileOrDirectory .. => return none
    | _ => return some .folder

/-- Where the names along a path start. -/
def rootOf (path : String) : String := if path.startsWith "/" then "/" else ""

/-- What stands along a path, by the names that lead there. Nothing is beyond a file. -/
def entriesAlong (path : String) : IO (List (String × Entry)) := do
  let names := ({} : Folder).steps path
  let mut found := []
  for place in List.range names.length do
    let part := Folder.join (names.take (place + 1))
    let some entry ← lookAt (rootOf path ++ part) | break
    found := found ++ [(part, entry)]
    if entry ≠ .folder then break
  return found

/-- Write the file at a path if it is not what it was before. -/
def keep (before after : Folder) (path : String) : IO Unit := do
  match after.entry? path with
  | some (.file bytes) =>
    if before.entry? path ≠ some (.file bytes) then IO.FS.writeBinFile path ⟨bytes.toArray⟩
  | some .folder | none => pure ()

/-- Run a command line and return its exit status. -/
def program (arguments : List String) : IO UInt32 := do
  let paths := ((parse arguments).toOption.map fun given => given.order.paths).getD []
  let before : Folder := { entries := (← paths.mapM entriesAlong).flatten }
  let output ← IO.getStdout
  let preferred : OutputFormat := if ← output.isTty then .table else .json
  let (outcome, after) := offline before preferred arguments
  paths.forM (keep before after)
  output.write ⟨outcome.output.toArray⟩
  output.flush
  IO.eprint outcome.complaint
  return .ofNat outcome.status.code

end Multidrop.Command

/-- The program. -/
def main (arguments : List String) : IO UInt32 := Multidrop.Command.program arguments
