import Herald.Store.Objects

/-!
Content stores as the relay meets them. An open store keeps objects; one that is down refuses every
call; a foreign one takes nothing and answers every identifier with the same bytes.
-/
namespace Herald

inductive Store.Access where
  | normal
  | down
  | foreign (bytes : List UInt8)
deriving DecidableEq

structure Store where
  access : Store.Access
  objects : Objects

namespace Store

def Access.label : Access → String
  | .normal => "memory"
  | .down => "down"
  | .foreign _ => "foreign"

def put (s : Store) (d : Document) : Except Failure ContentId × Store :=
  match s.access with
  | .normal =>
    let (id, objects) := s.objects.put d
    (.ok id, { s with objects })
  | .down => (.error (.store "connection refused"), s)
  | .foreign _ => (.error (.store "read only"), s)

def get (s : Store) (id : ContentId) : Except Failure Document :=
  match s.access with
  | .normal => s.objects.get id
  | .down => .error (.store "connection refused")
  | .foreign bytes => Document.load bytes

end Store

end Herald
