import Herald.ContentId
import Herald.Key
import Herald.Work

/-!
Announcements: what is sent when a document has been stored, what a filter lets through, and the
handle under which a transport keeps a filter.
-/
namespace Herald

structure Announcement where
  payload : ContentId
  recipient : PublicKey
  topic : Topic
  work : Work
deriving DecidableEq

structure Received where
  payload : ContentId
  topic : Topic
  /-- Seconds, when the transport tells them. -/
  timestamp : Option Nat
  hash : Option String
deriving DecidableEq

structure Filter where
  text : String
deriving DecidableEq, Repr

end Herald
