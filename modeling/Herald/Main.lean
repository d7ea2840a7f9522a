import Herald.Launch

/-!
The command line program: reads the settings from the surroundings and shows what they come to.
-/
namespace Herald.Main

open Config (Entry)

def entryAt (path : String) : IO Entry := do
  if path.isEmpty then return .missing
  let file := (← IO.currentDir) / path
  if ← file.isDir then return .directory
  try
    let bytes ← IO.FS.readBinFile file
    return .file (Text.decodeLossy bytes.toList)
  catch _ => return .missing

def environment : IO (List (String × String)) := do
  try
    let block ← IO.FS.readBinFile "/proc/self/environ"
    return Config.variablesOf (Text.decodeLossy block.toList)
  catch _ => return []

def launch (line : CommandLine) : IO UInt32 := do
  let paths := Config.pathsOf (line.config.getD Launch.defaultFile)
  let entries ← paths.mapM fun path => return (path, ← entryAt path)
  let look (path : String) : Entry := (entries.lookup path).getD .missing
  match Launch.settings look (← environment) line with
  | .error fault =>
    IO.eprintln s!"Error: {fault.message}"
    return 1
  | .ok s =>
    if line.check then
      (Launch.summary "unknown" s).forM IO.println
      return 0
    else
      IO.eprintln "Error: the settings are sound; only --check can be run from the command line"
      return 1

def run (args : List String) : IO UInt32 := do
  match CommandLine.read args with
  | .ok line => launch line
  | .error .help =>
    CommandLine.usage.forM IO.println
    return 0
  | .error .version =>
    IO.println s!"relay-node {Launch.version}"
    return 0
  | .error stop =>
    IO.eprintln s!"error: {stop.message}"
    return 2

end Herald.Main

def main (args : List String) : IO UInt32 :=
  Herald.Main.run args
