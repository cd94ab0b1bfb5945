import Conformance.CommandLine.Run

/-!
# The program around a run

Reads the environment and the named files, and writes what a run leaves. All else is decided by
the run.
-/

namespace Conformance.CommandLine

def settingNames : List String :=
  ["SHAPECHECK_LOG_LEVEL", "SHAPECHECK_PRINT_LEVEL", "SHAPECHECK_OUTPUT_FORMAT",
    "SHAPECHECK_CACHE_ENABLED"]

def readEnvironment : IO Settings.Environment :=
  settingNames.filterMapM fun name => do
    return (← IO.getEnv name).map fun value => (name, value)

/-- The bytes of a file, or why they cannot be had. -/
def readFile (path : String) : IO Files.Tree := do
  match ← (IO.FS.readBinFile path).toBaseIO with
  | .ok bytes => return .file bytes.toList
  | .error (.permissionDenied _ _ _) => return .unreadable .denied
  | .error problem => return .unreadable (.failed (toString problem))

/-- What is at a place, down to a depth; `follow` says whether the place may be a link. -/
def readTree (follow : Bool) (names : List String) : Nat → IO (Option Files.Tree)
  | 0 => return none
  | depth + 1 => do
    let text := "/" ++ "/".intercalate names
    let path := System.mkFilePath [text]
    match ← (if follow then path.metadata else path.symlinkMetadata).toBaseIO with
    | .error _ => return none
    | .ok data =>
      match data.type with
      | .dir =>
        match ← path.readDir.toBaseIO with
        | .error _ => return some (.directory ⟨false, true⟩ [])
        | .ok found =>
          let entries ← found.toList.filterMapM fun entry => do
            return (← readTree false (names ++ [entry.fileName]) depth).map (entry.fileName, ·)
          return some (.directory .full entries)
      | .other => return some .pipe
      | _ => return some (← readFile text)

/-- The names from the top to where a path leads. -/
def namesFromTop (working : List String) (path : Files.Path) : List String :=
  let names := if path.root = .here then working ++ path.names else path.names
  names.foldl (fun names name => if name = ".." then names.dropLast else names ++ [name]) []

def readFiles (paths : List Files.Path) : IO Files.System := do
  let working := (Files.Path.ofText (← IO.currentDir).toString).names
  let top ← paths.foldlM (fun (top : Files.Tree) path => do
    let names := namesFromTop working path
    match ← readTree true names Files.pathLimit with
    | some tree => return top.put names tree
    | none => return top) (Files.Tree.empty.put working .empty)
  return ⟨top, working⟩

def pathsOf (settings : Settings) (arguments : List String) : List Files.Path :=
  match read settings arguments with
  | .ok (.check arguments) => arguments.paths.map .ofText
  | _ => []

/-- Runs the command line over the schemas of the given modules. -/
def runWith (modules : Modules) (arguments : List String) : IO UInt32 := do
  let settings := Settings.ofEnvironment (← readEnvironment)
  let files ← readFiles (pathsOf settings arguments)
  let loader := Loader.new .null settings.cacheEnabled
  let run := CommandLine.run standard ⟨settings, files, modules, loader⟩ arguments
  IO.print run.output
  IO.eprint run.error
  match run.ending with
  | .exit status => return UInt32.ofNat status
  | .fault fault => do
    IO.eprintln fault.message
    return UInt32.ofNat failedStatus

end Conformance.CommandLine
