import Herald.Failure
import Herald.Number.Decimal

/-!
The cost of publishing. A sender must reach the target and may spend the given time on it; both must
be above zero, and the target finite.
-/
namespace Herald

structure Work where
  target : Float
  seconds : UInt32
deriving DecidableEq

namespace Work

def standard : Work := ⟨12.5, 10⟩

inductive Fault where
  | badTarget (target : Float)
  | noTime
deriving DecidableEq

def Fault.message : Fault → String
  | .badTarget target => s!"work target must be positive, got {Number.plain target}"
  | .noTime => "work time must be at least one second"

def check (w : Work) : Except Fault Unit :=
  if !w.target.isFinite || w.target ≤ 0.0 then .error (.badTarget w.target)
  else if w.seconds = 0 then .error .noTime
  else .ok ()

def validate (w : Work) : Except Failure Unit :=
  w.check.mapError fun fault => .invalid fault.message

end Work

end Herald
