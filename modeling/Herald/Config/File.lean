import Herald.Config.Directory
import Herald.Config.Value
import Herald.Json.Reader
import Herald.Toml.Document

/-!
Configuration files. The ending of a file's name tells what is written in it, TOML or JSON; the path
of a directory stands for a file beside it of the same name with such an ending.
-/
namespace Herald.Config

inductive Format where
  | toml
  | json
deriving DecidableEq, Repr

namespace Format

def all : List Format := [.toml, .json]

def ending : Format → String
  | .toml => "toml"
  | .json => "json"

def read? (f : Format) (text : String) : Option (List (String × Value)) :=
  let chars := Toml.dropMark text.toList
  match f with
  | .toml => Toml.read? (String.ofList chars)
  | .json =>
    match Json.parse (Text.encode (String.ofList chars)) with
    | .ok v => ofJson? v
    | .error _ => none

end Format

/-- What comes after the last point of a name, if there is something before it. -/
def ending? (name : String) : Option String :=
  match (Text.pieces (· = '.') name.toList).reverse with
  | last :: before :: more => if before.isEmpty && more.isEmpty then none else some (String.ofList last)
  | _ => none

def lastName? (path : String) : Option String :=
  ((segmentsOf path).reverse.dropWhile isHere).head?.filter (· ≠ "..")

def formatOf? (path : String) : Option Format := do
  let ending ← ending? (← lastName? path)
  Format.all.find? fun f => f.ending = ending

/-- The paths beside a directory that are looked at in its place. -/
def beside (path : String) : List (Format × String) :=
  match (segmentsOf path).reverse.dropWhile isHere with
  | [] => []
  | name :: above =>
    if name = ".." then []
    else Format.all.map fun f =>
      (f, "/".intercalate ((name ++ "." ++ f.ending) :: above).reverse)

def readFile? (look : String → Entry) (path : String) : Option (List (String × Value)) :=
  match look path with
  | .missing => none
  | .file text => (formatOf? path).bind fun f => f.read? text
  | .directory =>
    (beside path).findSome? (fun (f, path) =>
      match look path with
      | .file text => some (f.read? text)
      | _ => none) |>.join

def pathsOf (path : String) : List String :=
  path :: (beside path).map (·.2)

/-- The variables in a block of `name=text` entries, each with a zero behind it. -/
def variablesOf (block : String) : List (String × String) :=
  (Text.pieces (· = '\x00') block.toList).filterMap fun entry =>
    match entry.span (· ≠ '=') with
    | (name, _ :: text) => some (String.ofList name, String.ofList text)
    | (_, []) => none

def mark : String := "relay_"

/-- Variables with the mark in front are entries at the top. -/
def ofEnvironment (environment : List (String × String)) : List (String × Value) :=
  environment.filterMap fun (name, text) =>
    let name := (Text.lower name).toList
    if mark.toList.isPrefixOf name then
      some (String.ofList (name.drop mark.length), .text text)
    else none

end Herald.Config
