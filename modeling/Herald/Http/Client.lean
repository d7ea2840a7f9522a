import Herald.Http.Status
import Herald.Text.Utf8
import Herald.Url

/-!
Requests to other nodes. A request is a value, and so is what the peer makes of it; an operation of a
client is the request that it sends, with what it concludes from the reply.
-/
namespace Herald.Http

inductive Content where
  | none
  | json (text : List UInt8)
  | upload (partHeaders : List String) (part : List UInt8)
deriving DecidableEq

structure Call where
  url : Url
  content : Content
deriving DecidableEq

inductive Reply where
  | lost
  | cut (status : Nat)
  | whole (status : Nat) (body : List UInt8)
deriving DecidableEq, Repr

/-- An operation of a client: the request that it makes, and what it concludes from the reply. -/
structure Client.Pending (α : Type) where
  call : Call
  conclude : Reply → α

inductive Client.Fault where
  | unsendable (url : Url)
  | lost (url : Url)
  | badBody
deriving DecidableEq

namespace Client

variable {α β : Type}

def Pending.map (f : α → β) (p : Pending α) : Pending β :=
  ⟨p.call, fun reply => f (p.conclude reply)⟩

/-- Makes a client that waits so many seconds for a reply, or says why it cannot. -/
def Builder : Type :=
  UInt64 → Except String Unit

def Fault.message : Fault → String
  | .unsendable url => s!"builder error for url ({url.text})"
  | .lost url => s!"error sending request for url ({url.text})"
  | .badBody => "error decoding response body"

/-- A request line cannot carry every host name. -/
def isSendable (url : Url) : Bool :=
  (url.scheme = "http" || url.scheme = "https") &&
    match url.authority.bind (·.host) with
    | some host => host.text.toList.all fun c => !("\"`\x7b\x7d".toList.contains c)
    | none => false

def unescaped? (part : String) : Option String :=
  Text.decode? (Text.Percent.decode (Text.encode part))

/-- Credentials travel in a header, and not in the URL. They are none if the user's name is not text,
and without a name if the password is not. -/
def withoutCredentials (url : Url) : Url :=
  match url.authority with
  | none => url
  | some a =>
    match unescaped? a.username with
    | none => url
    | some name =>
      if name = "" && (a.password.bind unescaped?).isNone then url
      else { url with authority := some { a with username := "", password := none } }

structure Answer where
  status : Nat
  /-- Absent when it broke off. -/
  body : Option (List UInt8)
deriving DecidableEq, Repr

def send (call : Call) (reply : Reply) : Except Fault Answer :=
  let url := withoutCredentials call.url
  if !isSendable url then .error (.unsendable url)
  else
    match reply with
    | .lost => .error (.lost url)
    | .cut status => .ok ⟨status, none⟩
    | .whole status body => .ok ⟨status, some body⟩

def Answer.isSuccess (a : Answer) : Bool :=
  Status.isSuccess a.status

def Answer.bytes (a : Answer) : List UInt8 :=
  a.body.getD []

end Client

end Herald.Http
