import Herald.CommandLine
import Herald.Config.File
import Herald.Settings.Plan

/-!
From a command line to the settings of a node: those of a file, under those of the environment,
under those of the command line. They are checked before anything else is done.
-/
namespace Herald.Launch

open Config (Entry)

inductive Fault where
  | fileNotFound (path : String)
  | unreadable
  | layers (fault : Config.Fault)
  | value (fault : Settings.ValueFault)
  | settings (fault : Settings.Fault)
deriving DecidableEq, Repr

def Fault.message : Fault → String
  | .fileNotFound path => s!"Configuration file {path} not found (specified via --config)"
  | .unreadable => "failed to read configuration"
  | .layers .beforeFirst => "a list has no place before its first item"
  | .layers .outOfReach => "a list cannot reach that far"
  | .value fault => fault.message
  | .settings fault => fault.message

/-- The file that is read when none is named, if it is there. -/
def defaultFile : String := "config/relay.toml"

def chooseFile (look : String → Entry) (named : Option String) : Except Fault (Option String) :=
  match named with
  | some path => if look path = .missing then .error (.fileNotFound path) else .ok (some path)
  | none => .ok (if look defaultFile = .missing then none else some defaultFile)

def readFile (look : String → Entry) (path : String) :
    Except Fault (List (String × Config.Value)) :=
  match Config.readFile? look path with
  | some entries => .ok entries
  | none => .error .unreadable

/-- The settings of a file and the environment, the latter over the former. -/
def load (look : String → Entry) (environment : List (String × String)) (named : Option String) :
    Except Fault Settings := do
  let file ← chooseFile look named
  let layers ← file.toList.mapM (readFile look)
  let root ← (Config.ofLayers (layers ++ [Config.ofEnvironment environment])).mapError .layers
  let s ← (Settings.ofConfig root).mapError .value
  return { s with file }

def settings (look : String → Entry) (environment : List (String × String))
    (line : CommandLine) : Except Fault Settings := do
  let s ← load look environment line.config
  let s := line.override s
  s.validate.mapError .settings
  return s

def version : String := "0.1.0"

def summary (commit : String) (s : Settings) : List String :=
  [s!"relay-node {version} (commit {commit})",
    s!"  config:   {s.provenance}",
    s!"  store:    {s.storeMode.label} ({s.storeUrl})",
    s!"  channel:  {s.channelMode.label} ({s.channelUrl}) topic {s.topic}",
    s!"  ingest:   {s.ingestHost}:{s.ingestPort.toNat} every {s.pollInterval.toNat}ms",
    s!"  http:     {s.httpHost}:{s.httpPort.toNat}",
    "OK"]

end Herald.Launch
