/-!
What can go wrong in the relay, by who is to blame: the producer's document, the content store, the
announcement channel, an identifier that nothing is stored under, or an argument.
-/
namespace Herald

inductive Kind where
  | malformedDocument
  | storeUnavailable
  | channelUnavailable
  | notFound
  | invalidInput
deriving DecidableEq, Repr

namespace Kind

def label : Kind → String
  | .malformedDocument => "malformed_document"
  | .storeUnavailable => "store_unavailable"
  | .channelUnavailable => "channel_unavailable"
  | .notFound => "not_found"
  | .invalidInput => "invalid_input"

def title : Kind → String
  | .malformedDocument => "malformed document"
  | .storeUnavailable => "content store unavailable"
  | .channelUnavailable => "announcement channel unavailable"
  | .notFound => "content not found"
  | .invalidInput => "invalid input"

def all : List Kind :=
  [.malformedDocument, .storeUnavailable, .channelUnavailable, .notFound, .invalidInput]

end Kind

structure Failure where
  kind : Kind
  detail : String
deriving DecidableEq, Repr

namespace Failure

def malformed (detail : String) : Failure := ⟨.malformedDocument, detail⟩

def store (detail : String) : Failure := ⟨.storeUnavailable, detail⟩

def channel (detail : String) : Failure := ⟨.channelUnavailable, detail⟩

def notFound (detail : String) : Failure := ⟨.notFound, detail⟩

def invalid (detail : String) : Failure := ⟨.invalidInput, detail⟩

def message (f : Failure) : String :=
  s!"{f.kind.title}: {f.detail}"

end Failure

end Herald
