import Herald.Http.Message

/-!
The resources of the retrieval service. A route is read off the path; the segment after `/cat/`
keeps its escapes, is not empty and ends the path.
-/
namespace Herald.Http

inductive Endpoint where
  | newMessages
  | cat
  | catLast
  | health
  | metrics
deriving DecidableEq, Repr

namespace Endpoint

def label : Endpoint → String
  | .newMessages => "get_new_messages"
  | .cat => "cat"
  | .catLast => "cat_last"
  | .health => "health"
  | .metrics => "metrics"

def all : List Endpoint := [.newMessages, .cat, .catLast, .health, .metrics]

end Endpoint

inductive Route where
  | newMessages
  | cat (segment : List Char)
  | catLast
  | health
  | metrics
deriving DecidableEq, Repr

namespace Route

def endpoint : Route → Endpoint
  | .newMessages => .newMessages
  | .cat _ => .cat
  | .catLast => .catLast
  | .health => .health
  | .metrics => .metrics

def ofPath? (path : List Char) : Option Route :=
  if path = "/get_new_messages".toList then some .newMessages
  else if path = "/cat_last".toList then some .catLast
  else if path = "/health".toList then some .health
  else if path = "/metrics".toList then some .metrics
  else
    match path with
    | '/' :: 'c' :: 'a' :: 't' :: '/' :: segment =>
      if segment.isEmpty || segment.contains '/' then none else some (.cat segment)
    | _ => none

end Route

end Herald.Http
