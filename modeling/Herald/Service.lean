import Herald.Relay
import Herald.Text.Percent
import Herald.Wire

/-!
The retrieval service. `/get_new_messages` empties the relay's filter, `/cat/…` shows a document,
`/cat_last` advances to the latest announcement and shows its document; `/health` and `/metrics`
tell about the relay. A request is counted before it is served, also when it then fails.
-/
namespace Herald.Relay

open Http (Cors Request Response Method Route Endpoint)

def errorBody (message : String) : Json.Value :=
  .object [("error", .string message)]

/-- The store and the channel are behind this service, so what they refuse is a bad gateway. -/
def status : Kind → Nat
  | .notFound => 404
  | .invalidInput => 400
  | .malformedDocument | .storeUnavailable | .channelUnavailable => 502

def refusal (f : Failure) : Response :=
  .json (status f.kind) (errorBody f.message)

def record (r : Relay) (e : Endpoint) : Relay :=
  { r.count (.requests e) with served := r.served + 1 }

def showDocument (r : Relay) (id : ContentId) : Response :=
  match r.store.get id with
  | .ok d => .json 200 d.value
  | .error f => refusal f

def serveNewMessages (r : Relay) : Response × Relay :=
  match r.poll r.filter with
  | .error f => (refusal f, r)
  | .ok (messages, r) =>
    (.json 200 (.object [("payloads", .array (messages.map (·.payload.json)))]), r)

/-- A text that is no identifier names nothing that was ever stored. -/
def serveCat (r : Relay) (text : String) : Response :=
  match ContentId.parse text with
  | .error _ => refusal (.notFound text)
  | .ok id => r.showDocument id

/-- What `/cat_last` shows before the first announcement. -/
def noMessages : String := "No msgs ever!"

def serveCatLast (r : Relay) : Response × Relay :=
  match r.advance r.filter with
  | .error f => (refusal f, r)
  | .ok (none, r) => (.json 200 (errorBody noMessages), r)
  | .ok (some id, r) => (r.showDocument id, r)

def serveHealth (r : Relay) (now : Nat) : Response :=
  .json 200 (.object [
    ("status", .string "ok"),
    ("uptime_secs", Json.ofNat (now - r.started)),
    ("req_total", Json.ofNat r.served.toNat),
    ("topic", r.target.topic.json),
    ("store_mode", .string r.store.access.label),
    ("channel_mode", .string r.channel.access.label)])

def serveMetrics (r : Relay) : Response :=
  if r.metered then .text 200 "text/plain; version=0.0.4" r.meter.exposition
  else .json 503 (errorBody "Prometheus exporter is disabled")

/-- A segment that is not UTF-8 is refused before it is counted. -/
def serve (r : Relay) (now : Nat) (route : Route) : Response × Relay :=
  let counted := r.record route.endpoint
  match route with
  | .newMessages => counted.serveNewMessages
  | .cat segment =>
    match Text.decode? (Text.Percent.decode (Text.encode (String.ofList segment))) with
    | none => (.text 400 "text/plain; charset=utf-8" "Invalid URL: Invalid UTF-8 in `content_id`", r)
    | some text => (counted.serveCat text, counted)
  | .catLast => counted.serveCatLast
  | .health => (counted.serveHealth now, counted)
  | .metrics => (counted.serveMetrics, counted)

def allowHeader : String × String := ("allow", "GET,HEAD")

/-- The answer without regard to origins; a request for a head alone has every effect of a full one. -/
def dispatch (r : Relay) (now : Nat) (method : Method) (path : List Char) : Response × Relay :=
  match Route.ofPath? path with
  | none => (.empty 404, r)
  | some route =>
    match method with
    | .get => r.serve now route
    | .head =>
      let (response, r) := r.serve now route
      (response.withoutBody, r)
    | .options | .other _ => (⟨405, [allowHeader], []⟩, r)

def preflight (rules : Cors) (request : Request) : Response :=
  let allow := (Route.ofPath? request.path).elim [] fun _ => [allowHeader]
  ⟨200, rules.preflightHeaders request ++ allow, []⟩

def respond (r : Relay) (now : Nat) (rules : Cors) (request : Request) : Response × Relay :=
  match request.method with
  | .options => (preflight rules request, r)
  | method =>
    let (response, after) := r.dispatch now method request.path
    ({ response with headers := response.headers ++ rules.headers request }, after)

def serviceRules (r : Relay) : Except Cors.Fault Cors :=
  Cors.ofOrigins r.origins

end Herald.Relay
