import OpsConsole.Backend.Client
import OpsConsole.Program.Basic

/-!
# The command line

A run is computed from what is found: the arguments, the variables and the token file. Then the log,
the token file and the report are written accordingly. There is no network here, so the backend
answers nothing.
-/

namespace OpsConsole

namespace Main

def variableNames : List String :=
  ["GPROC_BACKEND_URL", "GPROC_STATE_DIR", "GPROC_LOG_DIR", "GPROC_DEBUG", "GPROC_USERNAME",
    "GPROC_PASSWORD", "GPROC_LOG_LEVEL", "RUST_LOG"]

def environment : IO Environment := do
  let found ← variableNames.filterMapM fun name => do
    return (← IO.getEnv name).map fun value => (name, value)
  return fun name => found.lookup name

/-- An empty place, except for the token file or a directory in its stead. -/
def files (path : String) : IO Files := do
  let f := (Files.empty.makeDirectories (Files.directory path)).1
  try
    let bytes ← IO.FS.readBinFile path
    match f.write path bytes.toList with
    | .ok f => return f
    | .error _ => return f
  catch
    | .noFileOrDirectory .. => return f
    | _ => return (f.makeDirectories path).1

def bytesAt? (f : Files) (path : String) : Option (List UInt8) := (f.read path).toOption

def writeBack (path : String) (before after : Files) : IO Unit := do
  if bytesAt? before path ≠ bytesAt? after path then
    match bytesAt? after path with
    | none => IO.FS.removeFile path
    | some bytes =>
      let dir := Files.directory path
      if dir ≠ "" then IO.FS.createDirAll dir
      IO.FS.writeBinFile path bytes.toByteArray
      IO.setAccessRights path ⟨⟨true, true, false⟩, {}, {}⟩

def writeLog (dir text : String) : IO Unit := do
  IO.print text
  if !Text.allBlank dir then
    try
      IO.FS.createDirAll dir
      IO.FS.writeFile (Settings.within dir Program.logFileName) text
    catch e => IO.eprintln ("log_file_error: " ++ toString e)

end Main

end OpsConsole

open OpsConsole in
def main (args : List String) : IO UInt32 := do
  let env ← Main.environment
  match Program.configure args env with
  | .error ending =>
    let r : Run := .only .empty ending
    r.helpShown.forM IO.println
    r.errorLines.forM IO.eprintln
    return ending.code.toUInt32
  | .ok s =>
    let before ← Main.files s.tokenPath
    let r := Program.runWith s ⟨env, before, .plain fun _ _ => none⟩
    Main.writeLog s.logDir (Program.logText r.events)
    Main.writeBack s.tokenPath before r.files
    r.errorLines.forM IO.eprintln
    return r.ending.code.toUInt32
