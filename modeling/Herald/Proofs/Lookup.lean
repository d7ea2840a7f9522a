import Herald.Proofs.Stored

/-!
What is found under an identifier in a path. A segment that is no text is refused; one that names nothing
stored, or is no identifier at all, is not found; every other one is answered with what was stored under
the identifier first. Nothing but the counters of the service changes, and what `/get_new_messages` lists
can be put into a path as it is.
-/
namespace Herald

open Http (Request Response Route)

def segmentText? (segment : List Char) : Option String :=
  Text.decode? (Text.Percent.decode (Text.encode (String.ofList segment)))

/-- As a segment, the text of an identifier names it. -/
structure Names (segment : List Char) (id : ContentId) : Prop where
  route : Route.ofPath? ("/cat/".toList ++ segment) = some (.cat segment)
  text : ∃ text, segmentText? segment = some text ∧ ContentId.parse text = .ok id

theorem ContentId.names (id : ContentId) : Names id.text.toList id where
  route := ofPath?_document id
  text := by
    refine ⟨id.text, ?_, id.parse_text⟩
    rw [segmentText?, String.ofList_toList, id.decode_text, Text.decode?_encode]

/-- The answer shows the document that the bytes are, or that they are none. -/
structure IsReading (response : Response) (bytes : List UInt8) : Prop where
  legible : ∀ d, Document.load bytes = .ok d → response.status = 200 ∧ response.body = d.bytes
  illegible : ∀ f, Document.load bytes = .error f →
    response.status = 502 ∧ response.body = (Relay.errorBody f.message).print

/-- What is answered to a segment after the documents. -/
structure Lookup (ds : List Document) (segment : List Char) (response : Response) : Prop where
  refused : response.status = 400 ↔ segmentText? segment = none
  missing : response.status = 404 ↔
    ∃ text, segmentText? segment = some text ∧ ∀ d ∈ ds, d.id.text ≠ Text.trim text
  words : response.status = 404 → ∀ text, segmentText? segment = some text →
    (∀ id : ContentId, id.text = Text.trim text →
      response.body = (Relay.errorBody ("content not found: " ++ id.text)).print) ∧
    ((∀ id : ContentId, id.text ≠ Text.trim text) →
      response.body = (Relay.errorBody ("content not found: " ++ text)).print)
  found : ∀ text id d, segmentText? segment = some text → id.text = Text.trim text →
    ds.find? (·.id = id) = some d → IsReading response d.bytes

theorem Lookup.withHeaders {ds : List Document} {segment : List Char} {response : Response}
    (lookup : Lookup ds segment response) (headers : List (String × String)) :
    Lookup ds segment { response with headers } where
  refused := lookup.refused
  missing := lookup.missing
  words := lookup.words
  found := by
    intro text id d decoded name first
    obtain ⟨legible, illegible⟩ := lookup.found text id d decoded name first
    exact ⟨legible, illegible⟩

theorem Lookup.reads_of_names {ds : List Document} {segment : List Char} {response : Response}
    {id : ContentId} {d : Document} (lookup : Lookup ds segment response) (names : Names segment id)
    (first : ds.find? (·.id = id) = some d) : IsReading response d.bytes := by
  obtain ⟨text, decoded, parsed⟩ := names.text
  exact lookup.found text id d decoded (ContentId.parse_eq_ok_iff.1 parsed) first

namespace Relay

open Json (Rereads RereadsItems Spells)

theorem reads_showDocument {r : Relay} {id : ContentId} {bytes : List UInt8}
    (takes : r.store.access = .normal) (stored : r.store.objects.get? id = some bytes) :
    IsReading (r.showDocument id) bytes := by
  have found : r.store.get id = Document.load bytes := by
    rw [Store.get, takes]
    dsimp only
    rw [Objects.get, stored]
  rw [showDocument, found]
  constructor
  · intro d loaded
    rw [loaded]
    exact ⟨rfl, rfl⟩
  · intro f loaded
    rw [loaded]
    exact ⟨status_load loaded, rfl⟩

theorem found_of_reads {response : Response} {bytes : List UInt8} (reads : IsReading response bytes) :
    response.status ≠ 400 ∧ response.status ≠ 404 := by
  cases loaded : Document.load bytes with
  | ok d =>
    rw [(reads.legible d loaded).1]
    decide
  | error f =>
    rw [(reads.illegible f loaded).1]
    decide

theorem of_first {ds : List Document} {id : ContentId} {d : Document}
    (first : ds.find? (·.id = id) = some d) : d ∈ ds ∧ d.id = id :=
  ⟨List.mem_of_find?_eq_some first, by simpa using List.find?_some first⟩

theorem lookup_refused {ds : List Document} {segment : List Char} {response : Response}
    (none : segmentText? segment = none) (refused : response.status = 400) :
    Lookup ds segment response := by
  have undecoded (text : String) : segmentText? segment ≠ some text := by
    rw [none]
    nofun
  refine ⟨⟨fun _ => none, fun _ => refused⟩, ?_, ?_, ?_⟩
  · rw [refused]
    constructor
    · intro missing
      contradiction
    · rintro ⟨text, decoded, _⟩
      exact absurd decoded (undecoded text)
  · intro _ text decoded
    exact absurd decoded (undecoded text)
  · intro text _ _ decoded
    exact absurd decoded (undecoded text)

theorem lookup_absent {ds : List Document} {segment : List Char} {text detail : String}
    (decoded : segmentText? segment = some text) (absent : ∀ d ∈ ds, d.id.text ≠ Text.trim text)
    (named : ∀ id : ContentId, id.text = Text.trim text → detail = id.text)
    (nameless : (∀ id : ContentId, id.text ≠ Text.trim text) → detail = text) :
    Lookup ds segment (refusal (.notFound detail)) := by
  have missing : (refusal (.notFound detail)).status = 404 := rfl
  have words : (refusal (.notFound detail)).body =
      (errorBody ("content not found: " ++ detail)).print := rfl
  refine ⟨?_, ⟨fun _ => ⟨text, decoded, absent⟩, fun _ => missing⟩, ?_, ?_⟩
  · rw [missing, decoded]
    exact ⟨nofun, nofun⟩
  · intro _ text' same
    cases Option.some.inj (decoded.symm.trans same)
    rw [words]
    exact ⟨fun id name => by rw [named id name], fun none => by rw [nameless none]⟩
  · intro text' id d same name first
    cases Option.some.inj (decoded.symm.trans same)
    obtain ⟨mem, rfl⟩ := of_first first
    exact absurd name (absent d mem)

theorem lookup_present {ds : List Document} {segment : List Char} {text : String} {d : Document}
    {response : Response} (decoded : segmentText? segment = some text)
    (name : d.id.text = Text.trim text) (first : ds.find? (·.id = d.id) = some d)
    (reads : IsReading response d.bytes) : Lookup ds segment response := by
  obtain ⟨accepted, found⟩ := found_of_reads reads
  refine ⟨?_, ?_, fun missing => absurd missing found, ?_⟩
  · rw [decoded]
    exact ⟨fun refused => absurd refused accepted, nofun⟩
  · refine ⟨fun missing => absurd missing found, ?_⟩
    rintro ⟨text', same, absent⟩
    cases Option.some.inj (decoded.symm.trans same)
    exact absurd name (absent d (of_first first).1)
  · intro text' id d' same name' first'
    cases Option.some.inj (decoded.symm.trans same)
    cases ContentId.eq_of_text (name'.trans name.symm)
    cases Option.some.inj (first.symm.trans first')
    exact reads

theorem lookup_serveCat {r : Relay} {ds : List Document} (takes : r.store.access = .normal)
    (holds : ∀ id, r.store.objects.get? id = (ds.find? (·.id = id)).map (·.bytes))
    {segment : List Char} {text : String} (decoded : segmentText? segment = some text) :
    Lookup ds segment (r.serveCat text) := by
  unfold serveCat
  cases parsed : ContentId.parse text with
  | error fault =>
    have nameless (id : ContentId) : id.text ≠ Text.trim text := by
      intro name
      rw [ContentId.parse_eq_ok_iff.2 name] at parsed
      contradiction
    exact lookup_absent decoded (fun d _ => nameless d.id) (fun id name => absurd name (nameless id))
      fun _ => rfl
  | ok id =>
    have name := ContentId.parse_eq_ok_iff.1 parsed
    have stored := holds id
    cases first : ds.find? (·.id = id) with
    | none =>
      rw [first] at stored
      have unknown : r.showDocument id = refusal (.notFound id.text) := by
        rw [showDocument, Store.get, takes]
        dsimp only
        rw [Objects.get, stored]
        rfl
      dsimp only
      rw [unknown]
      refine lookup_absent decoded ?_ (fun other same => by rw [name, same]) fun nameless =>
        absurd name (nameless id)
      intro d mem same
      have other := List.find?_eq_none.1 first d mem
      exact other (by simpa using ContentId.eq_of_text (same.trans name.symm))
    | some d =>
      rw [first] at stored
      obtain ⟨_, rfl⟩ := of_first first
      exact lookup_present decoded name first (reads_showDocument takes stored)

structure Rests (r r' : Relay) : Prop where
  store : r'.store = r.store
  channel : r'.channel = r.channel
  latest : r'.latest = r.latest

theorem lookup_serve {r : Relay} {ds : List Document} (takes : r.store.access = .normal)
    (holds : ∀ id, r.store.objects.get? id = (ds.find? (·.id = id)).map (·.bytes)) (now : Nat)
    (segment : List Char) :
    Lookup ds segment (r.serve now (.cat segment)).1 ∧ r.Rests (r.serve now (.cat segment)).2 := by
  unfold serve
  dsimp only [Route.endpoint]
  cases decoded : segmentText? segment with
  | none =>
    rw [segmentText?] at decoded
    rw [decoded]
    exact ⟨lookup_refused decoded rfl, rfl, rfl, rfl⟩
  | some text =>
    have lookup := @lookup_serveCat (r.record .cat) ds takes holds segment text decoded
    rw [segmentText?] at decoded
    rw [decoded]
    dsimp only
    exact ⟨lookup, rfl, rfl, rfl⟩

theorem eq_of_rereadsItems {ids : List ContentId} : ∀ {list : List Json.Value},
    RereadsItems (ids.map (·.json)) list → list = ids.map (·.json) := by
  induction ids with
  | nil =>
    intro list reads
    cases reads
    rfl
  | cons id ids ih =>
    intro list reads
    obtain @⟨_⟩ | @⟨_, w, _, ws, first, others⟩ := reads
    cases first
    rw [ih others]
    rfl

theorem eq_payloadList {ids : List ContentId} {v : Json.Value}
    (spells : Spells [] (payloadList ids).print v) : v = payloadList ids := by
  cases Json.rereads_of_spells spells with
  | object members =>
    obtain _ | ⟨list, none⟩ := members
    cases none
    cases list with
    | array items =>
      rw [eq_of_rereadsItems items]
      rfl

def ListsNames (response : Response) : Prop :=
  ∃ ids, response.body = (payloadList ids).print ∧
    (∀ v, Spells [] response.body v → v = payloadList ids) ∧ ∀ id ∈ ids, Names id.text.toList id

theorem listsNames_payloadList (ids : List ContentId) : ListsNames (.json 200 (payloadList ids)) := by
  unfold Response.json
  refine ⟨ids, rfl, ?_, fun id _ => id.names⟩
  intro v spells
  exact eq_payloadList spells

theorem status_ne (k : Kind) : status k ≠ 200 := by
  cases k <;> decide

theorem listsNames_serveNewMessages {r : Relay} (told : r.serveNewMessages.1.status = 200) :
    ListsNames r.serveNewMessages.1 := by
  unfold serveNewMessages at told ⊢
  cases polled : r.poll r.filter with
  | error f =>
    rw [polled] at told
    exact absurd told (status_ne f.kind)
  | ok result =>
    obtain ⟨messages, after⟩ := result
    have list : Json.Value.object [("payloads", .array (messages.map (·.payload.json)))] =
        payloadList (messages.map (·.payload)) := by
      rw [payloadList, List.map_map]
      rfl
    dsimp only
    rw [list]
    exact listsNames_payloadList _

def Told (s : Step) (o : Outcome) : Prop :=
  ∀ q response, s = .request q → q.method = .get → Route.ofPath? q.path = some .newMessages →
    o = .response response → response.status = 200 → ListsNames response

theorem told_of_step (r : Relay) (now : Nat) (s : Step) {o : Outcome} (done : (r.step now s).1 = .ok o) :
    Told s o := by
  rintro q response rfl get path rfl status
  have replied : (r.step now (.request q)).1 =
      (.ok (.response response) : Except Failure Outcome).mapError .failure := done
  obtain ⟨headers, same, _⟩ := step_get get path replied
  cases same
  exact listsNames_serveNewMessages (r := r.record .newMessages) status

/-- Wherever a session over a working store stands, a segment of a path is answered with what was
stored under the identifier that it names, and it is not found exactly if it names nothing that was
stored. That leaves everything but the counters alone; and what any list of new messages shows names
itself in a path. -/
theorem lookup_exact {s : Setup} {start : Nat} {r final : Relay} {before behind : List (Nat × Step)}
    {now : Nat} {q : Request} {segment : List Char} {answers : List (Except Failure Outcome)}
    (opened : s.relay start = .ok r) (takes : s.store = .normal) (get : q.method = .get)
    (asked : q.path = "/cat/".toList ++ segment) (filled : segment ≠ []) (single : '/' ∉ segment)
    (ran : r.run (before ++ (now, .request q) :: behind) = .ok (answers, final)) :
    (∃ response, answers[before.length]? = some (.ok (.response response)) ∧
      Lookup (documents before) segment response ∧
      (r.after before).Rests (r.after (before ++ [(now, .request q)]))) ∧
    List.Forall₂ (fun t a => ∀ o, a = .ok o → Told t.2 o)
      (before ++ (now, .request q) :: behind) answers := by
  constructor
  · obtain ⟨_, answer, _, _, _, there, reached, replied, _⟩ := run_around ran
    have path : Route.ofPath? q.path = some (.cat segment) := by
      rw [asked]
      exact ofPath?_cat filled single
    have store := store_run reached
    rw [store_of_opened opened] at store
    obtain ⟨access, holds⟩ := Store.putAll_normal (s := ⟨s.store, .empty⟩) takes (documents before)
    rw [← store] at access holds
    simp only [Objects.get?_empty, Option.none_or] at holds
    obtain ⟨lookup, rests⟩ := lookup_serve access holds now segment
    obtain ⟨headers, rfl, behind⟩ := step_get get path replied
    refine ⟨_, there, lookup.withHeaders headers, ?_⟩
    rw [after_append, after, after, behind]
    exact rests
  · have step (r : Relay) (now : Nat) (s : Step) : True → True →
        True ∧ ∀ o, (r.step now s).1 = .ok o → Told s o :=
      fun _ _ => ⟨trivial, fun o done => told_of_step r now s done⟩
    exact @run_answers (fun _ => True) (fun _ => True) (fun _ => Told) step
      (fun _ _ _ _ _ _ _ told => told) _ _ _ _ trivial (fun _ _ => trivial) ran

theorem documents_ingest {time : Nat} {raw : List UInt8} {d : Document}
    (submitted : Document.submit raw = .ok d) : documents [(time, .ingest raw)] = [d] := by
  simp [documents, Step.document?, submitted, Except.toOption]

theorem first_singleton (d : Document) : [d].find? (·.id = d.id) = some d :=
  List.find?_cons_of_pos (decide_eq_true rfl)

theorem load_halves : Document.load halves.bytes = .ok halves := by
  decide +kernel

theorem lookup_exact_halves : ∃ r answers final response, plainSetup.relay 0 = .ok r ∧
    r.run (thenShown (Text.encode "[0.5, 1e300]") halves) = .ok (answers, final) ∧
    answers[1]? = some (.ok (.response response)) ∧ response.status = 200 ∧
    response.body = halves.bytes := by
  obtain ⟨r, later, final, opened, ran, _⟩ := exists_run_documentThen submit_halves
    [(2, ⟨.get, documentPath halves.id, []⟩)]
  obtain ⟨⟨response, answered, lookup, _⟩, _⟩ := @lookup_exact _ _ r final
    [(1, .ingest (Text.encode "[0.5, 1e300]"))] [] 2 _ _ _ opened rfl rfl (path_of_documentPath rfl)
    halves.id.nonempty halves.id.slash_not_mem ran
  rw [documents_ingest submit_halves] at lookup
  have reads := lookup.reads_of_names halves.id.names (first_singleton halves)
  exact ⟨r, _, final, response, opened, ran, answered, reads.legible halves load_halves⟩

end Relay

end Herald
