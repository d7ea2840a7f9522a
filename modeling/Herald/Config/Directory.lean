import Herald.Text.Pieces

/-!
What a path leads to, and a directory of text files in which paths are followed. A path goes through
directories only; nothing is known of what lies outside.
-/
namespace Herald.Config

inductive Entry where
  | missing
  | directory
  | file (text : String)
deriving DecidableEq, Repr

def segmentsOf (path : String) : List String :=
  (Text.pieces (· = '/') path.toList).map String.ofList

def isHere (segment : String) : Bool :=
  segment = "" || segment = "."

structure Directory where
  files : List (String × String)
deriving Repr

namespace Directory

/-- What stands at the end of a path that was followed already. -/
def entryAt (d : Directory) (names : List String) : Entry :=
  match d.files.find? fun f => segmentsOf f.1 = names with
  | some f => .file f.2
  | none =>
    if names.isEmpty || d.files.any fun f => names.isPrefixOf (segmentsOf f.1) then .directory
    else .missing

/-- Above the directory, where a path may only go up or stay. -/
def outside (segments : List String) : Entry :=
  if segments.all fun s => isHere s || s = ".." then .directory else .missing

def follow (d : Directory) (names : List String) : List String → Entry
  | [] => d.entryAt names
  | segment :: rest =>
    if d.entryAt names ≠ .directory then .missing
    else if isHere segment then follow d names rest
    else if segment = ".." then
      if names.isEmpty then outside rest else follow d names.dropLast rest
    else follow d (names ++ [segment]) rest

def look (d : Directory) (path : String) : Entry :=
  match segmentsOf path with
  | [""] => .missing
  | "" :: rest => outside rest
  | segments => d.follow [] segments

end Directory

end Herald.Config
