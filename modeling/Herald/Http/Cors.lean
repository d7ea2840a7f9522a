import Herald.Http.Message

/-!
Cross-origin rules. Without configured origins every origin may read; with them only those do, and
what is no legal header value is left out of the list. A preflight request, of method OPTIONS, is
answered by these rules alone.
-/
namespace Herald.Http

inductive Cors where
  | anyOrigin
  | listed (origins : List String)
deriving DecidableEq, Repr

namespace Cors

def isLegalByte (b : UInt8) : Bool :=
  (0x20 ≤ b && b ≠ 0x7F) || b = 0x09

def isLegal (origin : String) : Bool :=
  (Text.encode origin).all isLegalByte

/-- The list names the wildcard, which stands for every origin and is none. -/
inductive Fault where
  | wildcard
deriving DecidableEq, Repr

def ofOrigins (origins : List String) : Except Fault Cors :=
  if origins.isEmpty then .ok .anyOrigin
  else
    let legal := origins.filter isLegal
    if legal.contains "*" then .error .wildcard else .ok (.listed legal)

def allowed? (c : Cors) (r : Request) : Option String :=
  match c with
  | .anyOrigin => some "*"
  | .listed origins => (r.header? "origin").filter origins.contains

def vary : String × String :=
  ("vary", "origin, access-control-request-method, access-control-request-headers")

def originHeaders (c : Cors) (r : Request) : List (String × String) :=
  vary :: ((c.allowed? r).map fun origin => ("access-control-allow-origin", origin)).toList

def headers (c : Cors) (r : Request) : List (String × String) :=
  c.originHeaders r ++
    match c with
    | .anyOrigin => [("access-control-expose-headers", "*")]
    | .listed _ => []

def preflightHeaders (c : Cors) (r : Request) : List (String × String) :=
  c.originHeaders r ++
    match c with
    | .anyOrigin => [("access-control-allow-methods", "*"), ("access-control-allow-headers", "*")]
    | .listed _ => [("access-control-allow-methods", "GET")]

end Cors

end Herald.Http
