import Herald.Proofs.Requests

/-!
Which origins may read. A service with a list names an origin only to a request that comes from it, and
only if it is listed and is a legal value; nothing that a list holds opens the service to all.
-/
namespace Herald

open Http (Cors Request Response Route)

/-- The origins that a request tells, under a header name in any case. -/
def Http.Request.origins (q : Request) : List String :=
  (q.headers.filter fun h => Text.lowerAscii h.1 = "origin").map (·.2)

theorem Http.Request.header?_origin (q : Request) : q.header? "origin" = q.origins.head? := by
  simp [header?, origins]

/-- The response lets an origin read. -/
def Http.Response.Names (response : Response) (origin : String) : Prop :=
  ("access-control-allow-origin", origin) ∈ response.headers

/-- The response of a service that is kept to a list of origins. -/
structure Confined (origins : List String) (q : Request) (response : Response) : Prop where
  named : ∀ o, response.Names o ↔
    q.origins.head? = some o ∧ o ∈ origins ∧ Cors.isLegal o = true
  single : q.origins.length ≤ 1 → ∀ o, response.Names o ↔
    o ∈ q.origins ∧ o ∈ origins ∧ Cors.isLegal o = true
  closed : (∀ o ∈ origins, Cors.isLegal o = false) → ∀ o, ¬ response.Names o
  wildcard : ¬ response.Names "*"

section Rules

variable {origins : List String} {q : Request} {o : String}

theorem Http.Cors.mem_originHeaders_iff : ("access-control-allow-origin", o) ∈
    (Cors.listed (origins.filter Cors.isLegal)).originHeaders q ↔
      q.origins.head? = some o ∧ o ∈ origins ∧ Cors.isLegal o = true := by
  rw [← q.header?_origin]
  simp [originHeaders, vary, allowed?, Option.filter_eq_some_iff]

theorem confined_of_names {response : Response} (plain : "*" ∉ origins)
    (names : ∀ o, response.Names o ↔ ("access-control-allow-origin", o) ∈
      (Cors.listed (origins.filter Cors.isLegal)).originHeaders q) :
    Confined origins q response := by
  have named (o : String) : response.Names o ↔
      q.origins.head? = some o ∧ o ∈ origins ∧ Cors.isLegal o = true :=
    (names o).trans Cors.mem_originHeaders_iff
  refine ⟨named, ?_, ?_, ?_⟩
  · intro few o
    rw [named]
    apply and_congr_left'
    match origin : q.origins with
    | [] => simp
    | [only] => simp [eq_comm]
    | first :: second :: rest =>
      rw [origin] at few
      simp at few
  · intro illegal o allowed
    obtain ⟨_, listed, legal⟩ := (named o).1 allowed
    rw [illegal o listed] at legal
    contradiction
  · intro allowed
    exact plain ((named "*").1 allowed).2.1

end Rules

namespace Http.Response

variable {o : String}

@[simp] theorem not_names_empty (status : Nat) : ¬ (empty status).Names o := by
  simp [Names, empty]

@[simp] theorem not_names_json (status : Nat) (v : Json.Value) : ¬ (json status v).Names o := by
  simp [Names, json]

@[simp] theorem not_names_text (status : Nat) (kind body : String) :
    ¬ (text status kind body).Names o := by
  simp [Names, text]

end Http.Response

namespace Relay

variable {o : String}

@[simp] theorem not_names_refusal (f : Failure) : ¬ (refusal f).Names o :=
  Response.not_names_json _ _

@[simp] theorem not_names_showDocument (r : Relay) (id : ContentId) :
    ¬ (r.showDocument id).Names o := by
  unfold showDocument
  split <;> simp

theorem not_names_serve (r : Relay) (now : Nat) (route : Route) :
    ¬ (r.serve now route).1.Names o := by
  cases route with
  | newMessages =>
    change ¬ (r.record .newMessages).serveNewMessages.1.Names o
    unfold serveNewMessages
    split <;> simp
  | cat segment =>
    unfold serve serveCat
    dsimp only
    split
    · simp
    · split <;> simp
  | catLast =>
    change ¬ (r.record .catLast).serveCatLast.1.Names o
    unfold serveCatLast
    split <;> simp
  | health => exact Response.not_names_json _ _
  | metrics =>
    change ¬ (r.record .metrics).serveMetrics.Names o
    unfold serveMetrics
    split <;> simp

theorem not_names_dispatch (r : Relay) (now : Nat) (method : Http.Method) (path : List Char) :
    ¬ (r.dispatch now method path).1.Names o := by
  unfold dispatch
  split
  · simp
  · split
    · exact r.not_names_serve now _
    · exact r.not_names_serve now _
    · simp [Response.Names, allowHeader]
    · simp [Response.Names, allowHeader]

theorem respond_of_ne_options (r : Relay) (now : Nat) (rules : Cors) {q : Request}
    (other : q.method ≠ .options) : (r.respond now rules q).1 =
      { (r.dispatch now q.method q.path).1 with
        headers := (r.dispatch now q.method q.path).1.headers ++ rules.headers q } := by
  unfold respond
  cases method : q.method with
  | options => contradiction
  | _ => rfl

theorem names_preflight_iff (origins : List String) (q : Request) :
    (preflight (.listed origins) q).Names o ↔
      ("access-control-allow-origin", o) ∈ (Cors.listed origins).originHeaders q := by
  unfold Response.Names preflight Cors.preflightHeaders
  cases Route.ofPath? q.path <;> simp [allowHeader]

theorem names_respond_iff (r : Relay) (now : Nat) (origins : List String) (q : Request) :
    (r.respond now (.listed origins) q).1.Names o ↔
      ("access-control-allow-origin", o) ∈ (Cors.listed origins).originHeaders q := by
  by_cases preflight : q.method = .options
  · unfold respond
    rw [preflight]
    exact names_preflight_iff origins q
  · have silent := @not_names_dispatch o r now q.method q.path
    rw [r.respond_of_ne_options now _ preflight]
    simp only [Response.Names, Cors.headers, List.append_nil, List.mem_append] at silent ⊢
    exact or_iff_right silent

/-- A service with a list of origins, in which the wildcard is not, stands by it wherever a session
stands and whatever a request is for. The origin of the request is named in the response exactly if it is
listed and is a legal value, so what is no legal value opens nothing, even if the list has nothing else.
But for a preflight, neither the status nor the body depends on the list. -/
theorem origins_confined {s : Setup} {start : Nat} {r : Relay} (opened : s.relay start = .ok r)
    (some : s.origins ≠ []) (plain : "*" ∉ s.origins) (before : List (Nat × Step)) :
    ∃ answers state, r.run before = .ok (answers, state) ∧ ∀ now q, ∃ response,
      (state.step now (.request q)).1 = .ok (.response response) ∧ Confined s.origins q response ∧
      (q.method ≠ .options → response.status = (state.dispatch now q.method q.path).1.status ∧
        response.body = (state.dispatch now q.method q.path).1.body) := by
  have rules := Cors.ofOrigins_of_plain some plain
  rw [← (backed_of_opened opened).2.2] at rules
  obtain ⟨answers, state, ran⟩ := exists_run before rules
  have opens : state.serviceRules = .ok (.listed (s.origins.filter Cors.isLegal)) := by
    rw [serviceRules, (proceeds_run ran).origins, rules, (backed_of_opened opened).2.2]
  refine ⟨answers, state, ran, ?_⟩
  intro now q
  refine ⟨_, ?_, confined_of_names plain fun o => state.names_respond_iff now _ q, ?_⟩
  · rw [step, request, opens]
  · intro other
    rw [state.respond_of_ne_options now _ other]
    exact ⟨rfl, rfl⟩

def walled : Setup :=
  { plainSetup with origins := ["http://a.local", "http://b.local\n"] }

theorem origins_confined_walled : ∃ r answers state, walled.relay 0 = .ok r ∧
    r.run [(1, .ingest (Text.encode "[1]"))] = .ok (answers, state) ∧ ∀ now q, ∃ response,
      (state.step now (.request q)).1 = .ok (.response response) ∧
      Confined ["http://a.local", "http://b.local\n"] q response := by
  obtain ⟨r, opened⟩ : ∃ r, walled.relay 0 = .ok r := ⟨_, rfl⟩
  obtain ⟨answers, state, ran, confined⟩ :=
    origins_confined opened (by decide) (by decide) [(1, .ingest (Text.encode "[1]"))]
  refine ⟨r, answers, state, opened, ran, ?_⟩
  intro now q
  obtain ⟨response, replied, kept, _⟩ := confined now q
  exact ⟨response, replied, kept⟩

end Relay

end Herald
