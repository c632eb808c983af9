import PanelClient.CommandLine.Run

/-!
# The program

Reads the files that the arguments lead to, runs the command, writes the session back, and prints.
There is no network here, so that every request that could be sent fails to connect.
-/

namespace PanelClient.CommandLine

/-- What is at a path on the disk. -/
def readSpot (path : String) : IO Spot := do
  try
    return .file (← IO.FS.readFile path)
  catch
    | .noFileOrDirectory .. => return .vacant
    | _ => return .binary

/-- Where a path lies on the disk: the usual ones are under the user's home. -/
def locate (home path : String) : String :=
  if path == Files.configPath || path == Files.sessionPath then home ++ "/" ++ path else path

def folderOf (path : String) : String :=
  String.ofList (path.toList.reverse.dropWhile (· != '/')).reverse

/-- Writes a text to a path, and makes the folders that are missing on the way. -/
def writeText (path text : String) : IO Unit := do
  let folder := folderOf path
  if folder != "" then IO.FS.createDirAll folder
  IO.FS.writeFile path text

/-- The path of the configuration that the arguments lead to. -/
def configPathOf (arguments : List String) : String :=
  match ask arguments with
  | .run invocation => invocation.config.getD Files.configPath
  | _ => Files.configPath

/-- The path of the session that a configuration leads to. -/
def sessionPathOf (config : Spot) : String :=
  match Config.load (.holding config) with
  | .ok config => config.sessionPath.getD Files.sessionPath
  | .error _ => Files.sessionPath

end PanelClient.CommandLine

open PanelClient PanelClient.CommandLine

def main (arguments : List String) : IO UInt32 := do
  let home := (← IO.getEnv "HOME").getD "."
  let configPath := configPathOf arguments
  let config ← readSpot (locate home configPath)
  let sessionPath := sessionPathOf config
  let session ← readSpot (locate home sessionPath)
  let files := ((Files.mk []).put configPath config).put sessionPath session
  match CommandLine.run arguments .offline files with
  | .error message =>
    IO.eprintln message
    return 101
  | .ok report =>
    IO.print report.output
    match report.files.text? sessionPath with
    | some text =>
      if files.text? sessionPath != some text then writeText (locate home sessionPath) text
    | none => pure ()
    return UInt32.ofNat report.code
