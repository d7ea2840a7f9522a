import Herald.Channel.Hub

/-!
Announcement channels as the relay meets them: one that works, over a hub, and one that is down and
refuses every call.
-/
namespace Herald

inductive Channel.Access where
  | normal
  | down
deriving DecidableEq, Repr

structure Channel where
  access : Channel.Access
  hub : Hub

namespace Channel

def Access.label : Access → String
  | .normal => "memory"
  | .down => "down"

def offline : Failure := .channel "node offline"

def createFilter (c : Channel) (topic : Topic) (id : KeyId) : Except Failure (Filter × Channel) :=
  match c.access with
  | .down => .error offline
  | .normal => do
    let (filter, hub) ← c.hub.createFilter topic id
    return (filter, { c with hub })

def publish (c : Channel) (now : Nat) (a : Announcement) : Except Failure Channel :=
  match c.access with
  | .down => .error offline
  | .normal => return { c with hub := ← c.hub.publish now a }

def poll (c : Channel) (f : Filter) : Except Failure (List Received × Channel) :=
  match c.access with
  | .down => .error offline
  | .normal => do
    let (messages, hub) ← c.hub.poll f
    return (messages, { c with hub })

end Channel

end Herald
