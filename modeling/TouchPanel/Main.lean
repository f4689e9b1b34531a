import TouchPanel.Command.Basic

/-!
This module contains the program as it is run: the files that its arguments name are read, and those
that it changed are written back.
-/

namespace TouchPanel

def usage : String :=
  "usage: touch-panel <command> [options]\n" ++
    "  scan [--root PATH]\n" ++
    "  probe PATH\n" ++
    "  run [--config PATH] [--source NAME] [--device PATH] [--pattern NAME]\n" ++
    "      [--duration-ms N] [--mouse-emulation] [--trace PATH]\n" ++
    "  replay PATH [--expect PATH] [--width N] [--height N]\n" ++
    "  replay-raw PATH [--device PATH] [--x-max N] [--y-max N] [--slots N] [--compact]\n" ++
    "      [--expect PATH] [--width N] [--height N]\n"

/--
The words of the arguments that can be paths.
-/
def possiblePaths (arguments : List String) : List String :=
  (arguments.flatMap fun argument =>
    let (_, value?) := Command.splitOption argument
    argument :: value?.toList).filter fun path => !path.isEmpty

def pathTo (place : Files.Place) : String := "/".intercalate place

def isFolder (path : String) : IO Bool := do
  try (← IO.FS.realPath path).isDir catch _ => return false

def loadPath (files : Files) (path : String) : IO Files := do
  let names := Files.names path
  let places := (List.range names.length).map fun count =>
    (names.take (count + 1)).foldl Files.goTo []
  let folders ← places.filterM fun place => isFolder (pathTo place)
  let files := folders.foldl (fun files place => files.put place .folder) files
  try return files.add path (← IO.FS.readBinFile path).toList catch _ => return files

def storeFiles (before after : Files) : IO Unit :=
  for (place, entry) in after.entries do
    match entry with
    | .file bytes =>
      if before.entry? place != some entry then
        if place.length > 1 then
          IO.FS.createDirAll (pathTo place.dropLast)
        IO.FS.writeBinFile (pathTo place) ⟨bytes.toArray⟩
    | _ => pure ()

end TouchPanel

open TouchPanel in
def main (arguments : List String) : IO UInt32 := do
  let environment : Environment :=
    { level := ← IO.getEnv "PANEL_INPUT_LOG", logPath := ← IO.getEnv "PANEL_INPUT_LOG_JSON_PATH" }
  let paths := possiblePaths arguments ++ environment.logPath.toList
  let files ← paths.foldlM loadPath .system
  let outcome := program environment arguments files (UInt64.ofNat (← IO.monoMsNow))
  IO.print outcome.out
  IO.eprint outcome.err
  match outcome.fault with
  | none => pure ()
  | some .help => IO.print usage
  | some fault => IO.eprint s!"error: {fault.message}\n{usage}"
  storeFiles files outcome.files
  return UInt32.ofNat outcome.code
