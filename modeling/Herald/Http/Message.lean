import Herald.Json.Value
import Herald.Json.Printer
import Herald.Text.Lowercase

/-!
Requests and responses. The path of a request target ends at the query or the fragment; an absolute
target has its path after the authority.
-/
namespace Herald.Http

inductive Method where
  | get
  | head
  | options
  | other (name : String)
deriving DecidableEq, Repr

def Method.named (name : String) : Method :=
  if name = "GET" then .get
  else if name = "HEAD" then .head
  else if name = "OPTIONS" then .options
  else .other name

structure Request where
  method : Method
  target : String
  headers : List (String × String)

def afterScheme? : List Char → Option (List Char)
  | [] => none
  | ':' :: '/' :: '/' :: rest => some rest
  | _ :: rest => afterScheme? rest

def Request.path (r : Request) : List Char :=
  match r.target.toList.takeWhile fun c => c ≠ '?' && c ≠ '#' with
  | '/' :: rest => '/' :: rest
  | other =>
    match afterScheme? other with
    | none => []
    | some rest =>
      match rest.dropWhile (· ≠ '/') with
      | [] => ['/']
      | path => path

/-- Header names are compared without regard to case. -/
def Request.header? (r : Request) (name : String) : Option String :=
  (r.headers.find? fun h => Text.lowerAscii h.1 = name).map (·.2)

structure Response where
  status : Nat
  headers : List (String × String)
  body : List UInt8

namespace Response

def empty (status : Nat) : Response := ⟨status, [], []⟩

def json (status : Nat) (v : Json.Value) : Response :=
  ⟨status, [("content-type", "application/json")], v.print⟩

def text (status : Nat) (contentType body : String) : Response :=
  ⟨status, [("content-type", contentType)], Text.encode body⟩

def withoutBody (r : Response) : Response :=
  { r with body := [] }

def header? (r : Response) (name : String) : Option String :=
  r.headers.lookup name

end Response

end Herald.Http
