import Herald.Document
import Herald.Http.Client
import Herald.Json.Record
import Herald.Text.Lowercase

/-!
The client of an IPFS node. Documents are added as files and read by their identifier through the
node's HTTP interface; an error of the node is told in its own words, and some of these words say
that the node has no such content.
-/
namespace Herald

open Http.Client (Pending)

structure Ipfs where
  base : Url
deriving DecidableEq

namespace Ipfs

def label : String := "ipfs"

def connect (build : Http.Client.Builder) (url : String) (timeout : UInt64) : Except Failure Ipfs := do
  (build timeout).mapError fun reason => .store s!"failed to build HTTP client: {reason}"
  let base ← (Url.read url).mapError fun fault =>
    .invalid s!"invalid IPFS API url {url}: {fault.message}"
  return ⟨base.directory⟩

def endpoint (node : Ipfs) (command query : String) : Except Failure Url :=
  match node.base.below ["api", "v0", command] with
  | .ok url => .ok { url with query := some query }
  | .error fault => .error (.invalid s!"invalid IPFS endpoint api/v0/{command}: {fault.message}")

structure Added.Draft where
  hash : Option String := none
  size : Option String := none

def added : Json.Shape Added.Draft String where
  title := "struct IpfsAddResponse"
  fields :=
    [.of "Hash" Added.Draft.hash (fun d s => { d with hash := some s }) Json.text false,
     .of "Size" Added.Draft.size (fun d s => { d with size := some s }) Json.text true]
  draft := {}
  build d := Json.need "Hash" d.hash

def complaint : Json.Shape (Option String) String where
  title := "struct IpfsErrorResponse"
  fields := [.of "Message" id (fun _ s => some s) Json.text false]
  draft := none
  build d := Json.need "Message" d

/-- The message of the node, or all that it wrote. -/
def errorMessage (body : List UInt8) : String :=
  match Json.whole complaint.read body with
  | .ok message => message
  | .error _ => Text.trim (Text.decodeLossy body)

def notFoundMarkers : List String :=
  ["not found", "invalid path", "invalid cid", "no link named", "failed to resolve"]

def saysNotFound (message : String) : Bool :=
  let lowered := (Text.lower message).toList
  notFoundMarkers.any fun marker => Text.holds marker.toList lowered

def addCall (node : Ipfs) (d : Document) : Except Failure Http.Call := do
  let url ← node.endpoint "add" (Url.formPair "pin" "true")
  return ⟨url, .upload
    ["Content-Disposition: form-data; name=\"file\"; filename=\"document.json\"",
      "Content-Type: application/json"] d.bytes⟩

def addRejected (answer : Http.Client.Answer) : Failure :=
  .store s!"IPFS add rejected (status {Http.Status.text answer.status}): {errorMessage answer.bytes}"

def readAdded (body : Option (List UInt8)) : Except Failure ContentId :=
  match body.map (Json.whole added.read) with
  | some (.ok hash) =>
    (ContentId.read hash).mapError fun f => .store s!"IPFS returned unusable hash: {f.message}"
  | _ => .error (.store s!"invalid IPFS add response: {Http.Client.Fault.badBody.message}")

def concludeAdd (sent : Except Http.Client.Fault Http.Client.Answer) : Except Failure ContentId :=
  match sent with
  | .error fault => .error (.store s!"IPFS add request failed: {fault.message}")
  | .ok answer =>
    if answer.isSuccess then readAdded answer.body else .error (addRejected answer)

def put (node : Ipfs) (d : Document) : Except Failure (Pending (Except Failure ContentId)) := do
  let call ← node.addCall d
  return ⟨call, fun reply => concludeAdd (Http.Client.send call reply)⟩

def catCall (node : Ipfs) (id : ContentId) : Except Failure Http.Call := do
  let url ← node.endpoint "cat" (Url.formPair "arg" id.text)
  return ⟨url, .none⟩

/-- An error of any status counts by its words. -/
def catRejected (id : ContentId) (answer : Http.Client.Answer) : Failure :=
  let message := errorMessage answer.bytes
  if saysNotFound message then .notFound s!"{id.text}: {message}"
  else .store s!"IPFS cat rejected (status {Http.Status.text answer.status}): {message}"

def readContent (body : Option (List UInt8)) : Except Failure Document :=
  match body with
  | some bytes => Document.load bytes
  | none => .error (.store s!"failed to read IPFS content: {Http.Client.Fault.badBody.message}")

def concludeCat (id : ContentId) (sent : Except Http.Client.Fault Http.Client.Answer) :
    Except Failure Document :=
  match sent with
  | .error fault => .error (.store s!"IPFS cat request failed: {fault.message}")
  | .ok answer =>
    if answer.isSuccess then readContent answer.body else .error (catRejected id answer)

def get (node : Ipfs) (id : ContentId) : Except Failure (Pending (Except Failure Document)) := do
  let call ← node.catCall id
  return ⟨call, fun reply => concludeCat id (Http.Client.send call reply)⟩

end Ipfs

end Herald
