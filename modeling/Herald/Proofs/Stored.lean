import Herald.Proofs.Drains
import Herald.Proofs.Frame
import Herald.Proofs.Identifiers
import Herald.Proofs.Objects
import Herald.Proofs.RoundTrip

/-!
What is stored comes out again, as far as its text survives being read. The store holds the text of
the first document of each identifier and reads it again for every request; a document that was sent
is answered with its own text exactly if the texts of its floats survive.
-/
namespace Herald

open Http (Request Response Route)

def documentPath (id : ContentId) : String :=
  "/cat/" ++ id.text

theorem path_of_documentPath {q : Request} {id : ContentId} (asked : q.target = documentPath id) :
    q.path = '/' :: 'c' :: 'a' :: 't' :: '/' :: id.text.toList := by
  have chars : q.target.toList = '/' :: 'c' :: 'a' :: 't' :: '/' :: id.text.toList := by
    rw [asked, documentPath, String.toList_append]
    rfl
  have plain : ∀ c ∈ id.text.toList, (c ≠ '?' && c ≠ '#') = true := by
    intro c mem
    have letter := id.alphanumeric_of_mem mem
    simp [ContentId.ne_of_isAlphanumeric letter (d := '?') (by decide),
      ContentId.ne_of_isAlphanumeric letter (d := '#') (by decide)]
  have whole : q.target.toList.takeWhile (fun c => c ≠ '?' && c ≠ '#') = q.target.toList := by
    rw [List.takeWhile_eq_self_iff, chars]
    simpa using plain
  rw [Request.path, whole, chars]
  rfl

theorem ofPath?_cat {segment : List Char} (some : segment ≠ []) (single : '/' ∉ segment) :
    Route.ofPath? ('/' :: 'c' :: 'a' :: 't' :: '/' :: segment) = .some (.cat segment) := by
  have single : segment.contains '/' = false := by
    rw [List.contains_eq_mem]
    exact decide_eq_false single
  have some : segment.isEmpty = false := List.isEmpty_eq_false_iff.2 some
  -- No fixed path has a slash where this one has its second.
  have other {rest : List Char} {p : String} (h : p.toList[4]? ≠ Option.some '/') :
      '/' :: 'c' :: 'a' :: 't' :: '/' :: rest ≠ p.toList := by
    intro same
    rw [← same] at h
    exact h rfl
  unfold Route.ofPath?
  rw [if_neg (other (by decide)), if_neg (other (by decide)), if_neg (other (by decide)),
    if_neg (other (by decide))]
  simp only [some, single, Bool.or_self, Bool.false_eq_true, if_false]

theorem ContentId.slash_not_mem (id : ContentId) : '/' ∉ id.text.toList := by
  intro mem
  exact ne_of_isAlphanumeric (id.alphanumeric_of_mem mem) (d := '/') (by decide) rfl

theorem ofPath?_document (id : ContentId) :
    Route.ofPath? ('/' :: 'c' :: 'a' :: 't' :: '/' :: id.text.toList) = some (.cat id.text.toList) :=
  ofPath?_cat id.nonempty id.slash_not_mem

theorem ContentId.decode_text (id : ContentId) :
    Text.Percent.decode (Text.encode id.text) = Text.encode id.text := by
  apply Text.Percent.decode_eq_self
  rintro b mem rfl
  rw [Text.encode_eq_flatMap] at mem
  obtain ⟨c, inside, mark⟩ := List.mem_flatMap.1 mem
  have other := ne_of_isAlphanumeric (id.alphanumeric_of_mem inside) (d := '%') (by decide)
  exact Text.not_mem_utf8EncodeChar other (by decide) mark

/-- The document that a step puts into the store. -/
def Step.document? : Step → Option Document
  | .put raw | .ingest raw | .deliver (.complete raw) => (Document.submit raw).toOption
  | _ => none

def Store.putAll (s : Store) (ds : List Document) : Store :=
  ds.foldl (fun s d => (s.put d).2) s

def documents (steps : List (Nat × Step)) : List Document :=
  steps.flatMap (·.2.document?.toList)

namespace Relay

theorem store_ingest (r : Relay) (now : Nat) (raw : List UInt8) :
    (r.ingest now raw).2.store = r.store.putAll (Document.submit raw).toOption.toList := by
  unfold ingest relay
  cases Document.submit raw with
  | error f => rfl
  | ok d =>
    change _ = (r.store.put d).2
    dsimp only
    cases r.store.put d with
    | mk result store =>
      cases result with
      | error f => rfl
      | ok id =>
        dsimp only
        cases r.channel.publish now (r.target.announcement id) <;> rfl

theorem store_step (r : Relay) (now : Nat) (s : Step) :
    (r.step now s).2.store = r.store.putAll s.document?.toList := by
  cases s with
  | put raw =>
    unfold step put Step.document?
    dsimp only
    cases Document.submit raw <;> rfl
  | ingest raw => exact store_ingest r now raw
  | deliver delivery =>
    cases delivery with
    | complete raw => exact store_ingest r now raw
    | broken => rfl
  | _ => exact (r.spares_step now rfl).store

theorem store_run {steps : List (Nat × Step)} : ∀ {r final : Relay}
    {answers : List (Except Failure Outcome)}, r.run steps = .ok (answers, final) →
    final.store = r.store.putAll (documents steps) := by
  induction steps with
  | nil =>
    intro r final answers ran
    cases ran
    rfl
  | cons t rest ih =>
    intro r final answers ran
    obtain ⟨_, _, _, ran, _⟩ := run_cons_eq_ok.1 ran
    rw [ih ran, store_step, documents, documents, List.flatMap_cons, Store.putAll, Store.putAll,
      Store.putAll, List.foldl_append]

end Relay

theorem Store.putAll_eq {s : Store} (takes : s.access = .normal) (ds : List Document) :
    s.putAll ds = ⟨.normal, s.objects.after (ds.map .put)⟩ := by
  induction ds generalizing s with
  | nil =>
    rw [← takes]
    rfl
  | cons d ds ih =>
    have step : (s.put d).2 = ⟨.normal, (s.objects.put d).2⟩ := by
      rw [Store.put, takes]
    refine (congrArg (Store.putAll · ds) step).trans ?_
    exact ih rfl

theorem Store.putAll_normal {s : Store} (takes : s.access = .normal) (ds : List Document) :
    (s.putAll ds).access = .normal ∧ ∀ id, (s.putAll ds).objects.get? id =
      (s.objects.get? id).or ((ds.find? (·.id = id)).map (·.bytes)) := by
  have puts : Objects.puts (ds.map .put) = ds := by
    rw [Objects.puts, List.filterMap_map]
    exact List.filterMap_some
  rw [putAll_eq takes]
  refine ⟨rfl, fun id => ?_⟩
  rw [Objects.get?_after, puts]

namespace Relay

theorem serve_document (r : Relay) (now : Nat) (id : ContentId) :
    (r.serve now (.cat id.text.toList)).1 = r.showDocument id := by
  unfold serve
  dsimp only [Route.endpoint]
  rw [String.ofList_toList, id.decode_text, Text.decode?_encode]
  dsimp only
  rw [serveCat, ContentId.parse_text]
  rfl

theorem get_document {r : Relay} {now : Nat} {q : Request} {id : ContentId} (get : q.method = .get)
    (asked : q.target = documentPath id) {answer : Except Failure Outcome}
    (replied : (r.step now (.request q)).1 = answer.mapError .failure) :
    ∃ response, answer = .ok (.response response) ∧
      response.status = (r.showDocument id).status ∧ response.body = (r.showDocument id).body := by
  have path : Route.ofPath? q.path = some (.cat id.text.toList) := by
    rw [path_of_documentPath asked, ofPath?_document]
  obtain ⟨headers, rfl, _⟩ := step_get get path replied
  refine ⟨_, rfl, ?_⟩
  rw [serve_document]
  exact ⟨rfl, rfl⟩

theorem ingest_eq_ok {r : Relay} {now : Nat} {raw : List UInt8} {receipt : Receipt}
    (done : (r.ingest now raw).1 = .ok receipt) :
    ∃ d, Document.submit raw = .ok d ∧ receipt.id = d.id := by
  unfold ingest relay at done
  cases submitted : Document.submit raw with
  | error f =>
    rw [submitted] at done
    contradiction
  | ok d =>
    refine ⟨d, rfl, ?_⟩
    rw [submitted] at done
    dsimp only at done
    have outcome := (Store.put_cases r.store d).2
    cases stored : r.store.put d with
    | mk result store =>
      rw [stored] at done outcome
      obtain ⟨_, same⟩ | ⟨_, e, same⟩ := outcome
      · dsimp only at same
        subst same
        dsimp only at done
        cases announced : r.channel.publish now (r.target.announcement d.id) with
        | error f =>
          rw [announced] at done
          contradiction
        | ok channel =>
          rw [announced] at done
          cases done
          rfl
      · dsimp only at same
        subst same
        contradiction

theorem ingest_of_answer {r : Relay} {now : Nat} {raw : List UInt8} {receipt : Receipt}
    (replied : (r.step now (.ingest raw)).1 =
      (.ok (.ingested receipt) : Except Failure Outcome).mapError .failure) :
    (r.ingest now raw).1 = .ok receipt := by
  have done : (r.ingest now raw).1.map Outcome.ingested = .ok (.ingested receipt) :=
    answer_injective replied
  cases result : (r.ingest now raw).1 with
  | error f =>
    rw [result] at done
    contradiction
  | ok receipt' =>
    rw [result] at done
    cases done
    rfl

theorem normalize_of_submit {raw : List UInt8} {d : Document} (submitted : Document.submit raw = .ok d) :
    Document.normalize raw = .ok d := by
  unfold Document.submit at submitted
  cases result : Document.normalize raw with
  | error fault =>
    rw [result] at submitted
    contradiction
  | ok d' =>
    rw [result] at submitted
    cases submitted
    rfl

end Relay

theorem Store.get_eq_ok_iff {s : Store} {id : ContentId} {bytes : List UInt8} {d : Document}
    (takes : s.access = .normal) (stored : s.objects.get? id = some bytes) :
    s.get id = .ok d ↔ Document.ofBytes bytes = .ok d := by
  unfold get Objects.get Document.load
  rw [takes, stored]
  dsimp only
  cases Document.ofBytes bytes <;> simp [Except.mapError]

namespace Relay

theorem showDocument_of_get {r : Relay} {id : ContentId} {d : Document} (read : r.store.get id = .ok d) :
    (r.showDocument id).status = 200 ∧ (r.showDocument id).body = d.bytes := by
  rw [showDocument, read]
  exact ⟨rfl, rfl⟩

theorem showDocument_iff {r : Relay} {id : ContentId} {bytes : List UInt8}
    (takes : r.store.access = .normal) (stored : r.store.objects.get? id = some bytes) :
    (r.showDocument id).status = 200 ∧ (r.showDocument id).body = bytes ↔
      ∃ d, r.store.get id = .ok d ∧ d.bytes = bytes := by
  constructor
  · rintro ⟨status, body⟩
    cases found : r.store.get id with
    | error f =>
      rw [showDocument, found] at status
      rw [Store.get, takes] at found
      dsimp only at found
      rw [Objects.get, stored] at found
      have refused : (refusal f).status = 502 := status_load found
      rw [refused] at status
      contradiction
    | ok d => exact ⟨d, rfl, (showDocument_of_get found).2.symm.trans body⟩
  · rintro ⟨d, found, rfl⟩
    exact showDocument_of_get found

theorem store_of_opened {s : Setup} {start : Nat} {r : Relay} (opened : s.relay start = .ok r) :
    r.store = ⟨s.store, .empty⟩ := by
  unfold Setup.relay at opened
  simp only [bind_eq_ok_iff] at opened
  obtain ⟨_, _, _, _, _, _, _, _, same⟩ := opened
  cases same
  rfl

theorem find?_documents {before between : List Document} {d : Document}
    (distinct : ∀ d' ∈ before, d'.id = d.id → d'.bytes = d.bytes) :
    ((before ++ d :: between).find? (·.id = d.id)).map (·.bytes) = some d.bytes := by
  rw [List.find?_append]
  cases earlier : before.find? (·.id = d.id) with
  | none => simp
  | some d' =>
    have same := List.find?_some earlier
    exact congrArg some (distinct d' (List.mem_of_find?_eq_some earlier) (by simpa using same))

theorem shown_of_run {s : Setup} {start : Nat} {r final : Relay} {before between : List (Nat × Step)}
    {time now : Nat} {raw : List UInt8} {q : Request} {receipt : Receipt}
    {answers : List (Except Failure Outcome)} (opened : s.relay start = .ok r)
    (takes : s.store = .normal)
    (ran : r.run (before ++ (time, .ingest raw) :: (between ++ [(now, .request q)])) =
      .ok (answers, final))
    (ingested : answers[before.length]? = some (.ok (.ingested receipt)))
    (get : q.method = .get) (asked : q.target = documentPath receipt.id) :
    ∃ d, Document.normalize raw = .ok d ∧ receipt.id = d.id ∧ final.store.access = .normal ∧
      (∃ response, answers.getLast? = some (.ok (.response response)) ∧
        response.status = (final.showDocument receipt.id).status ∧
        response.body = (final.showDocument receipt.id).body) ∧
      ((∀ d' ∈ documents before, d'.id = d.id → d'.bytes = d.bytes) →
        final.store.objects.get? receipt.id = some d.bytes) := by
  obtain ⟨first, answer, rest, rfl, _, told, _, replied, onward⟩ := run_around ran
  cases Option.some.inj (told.symm.trans ingested)
  obtain ⟨d, submitted, same⟩ := ingest_eq_ok (ingest_of_answer replied)
  have put : documents (before ++ (time, .ingest raw) :: (between ++ [(now, .request q)])) =
      documents before ++ d :: documents between := by
    simp [documents, Step.document?, submitted, Except.toOption]
  have store := store_run ran
  rw [store_of_opened opened, put] at store
  obtain ⟨access, found⟩ := Store.putAll_normal (s := ⟨s.store, .empty⟩) takes
    (documents before ++ d :: documents between)
  rw [← store] at access
  refine ⟨d, normalize_of_submit submitted, same, access, ?_, ?_⟩
  · obtain ⟨later, shown, none, rfl, _, _, _, asked_for, ended⟩ := run_around onward
    cases ended
    obtain ⟨response, rfl, status, body⟩ := get_document get asked asked_for
    refine ⟨response, by simp [List.getLast?_append, List.getLast?_cons], ?_⟩
    have kept := store_step (((r.after before).step time (.ingest raw)).2.after between) now (.request q)
    rw [status, body, showDocument, showDocument, kept]
    exact ⟨rfl, rfl⟩
  · intro distinct
    rw [store, found, Objects.get?_empty, Option.none_or, same]
    exact find?_documents distinct

/-- Over a working store a document that came in is shown as it was, exactly if the text of each of its
floats survives being read; and it is read as the same document exactly if its floats are. -/
theorem shown_iff_kept {s : Setup} {start : Nat} {r final : Relay} {before between : List (Nat × Step)}
    {time now : Nat} {raw : List UInt8} {q : Request} {receipt : Receipt}
    {answers : List (Except Failure Outcome)} (opened : s.relay start = .ok r)
    (takes : s.store = .normal)
    (ran : r.run (before ++ (time, .ingest raw) :: (between ++ [(now, .request q)])) =
      .ok (answers, final))
    (ingested : answers[before.length]? = some (.ok (.ingested receipt)))
    (get : q.method = .get) (asked : q.target = documentPath receipt.id) :
    ∃ d, Document.normalize raw = .ok d ∧ receipt.id = .ofData d.bytes ∧
      ((∀ d' ∈ documents before, d'.id = d.id → d'.bytes = d.bytes) →
        (∃ response, answers.getLast? = some (.ok (.response response)) ∧
          (response.status = 200 ∧ response.body = d.bytes ↔
            ∀ x : Float, .float x ∈ d.value.numbers → (Json.Number.float x).Kept)) ∧
        (final.store.get receipt.id = .ok d ↔ ∀ x : Float, .float x ∈ d.value.numbers →
          Json.parse (Json.Number.float x).print = .ok (.number (.float x)))) := by
  obtain ⟨d, normalized, same, access, ⟨response, last, status, body⟩, stored⟩ :=
    shown_of_run opened takes ran ingested get asked
  refine ⟨d, normalized, same, ?_⟩
  intro distinct
  have legible := Document.legible_of_normalize normalized
  have read (d' : Document) : final.store.get receipt.id = .ok d' ↔ Document.ofBytes d.bytes = .ok d' :=
    Store.get_eq_ok_iff access (stored distinct)
  refine ⟨⟨response, last, ?_⟩, ?_⟩
  · rw [status, body, showDocument_iff access (stored distinct), ← legible.bytes_iff]
    simp only [read]
  · rw [read, legible.ofBytes_self_iff]

def thenShown (raw : List UInt8) (d : Document) : List (Nat × Step) :=
  documentThen raw [(2, ⟨.get, documentPath d.id, []⟩)]

def halves : Document :=
  .ofValue (.array [.number (.float 0.5), .number (.float 1e300)])

theorem submit_halves : Document.submit (Text.encode "[0.5, 1e300]") = .ok halves := by
  decide +kernel

theorem shown_iff_kept_halves : ∃ r answers final response, plainSetup.relay 0 = .ok r ∧
    r.run (thenShown (Text.encode "[0.5, 1e300]") halves) = .ok (answers, final) ∧
    answers.getLast? = some (.ok (.response response)) ∧ response.status = 200 ∧
    response.body = halves.bytes ∧ final.store.get halves.id = .ok halves := by
  obtain ⟨r, later, final, opened, ran, _⟩ := exists_run_documentThen submit_halves
    [(2, ⟨.get, documentPath halves.id, []⟩)]
  obtain ⟨d, normalized, _, shown⟩ := @shown_iff_kept _ _ r final [] [] 1 2 _ _ _ _ opened rfl ran
    rfl rfl rfl
  cases (normalize_of_submit submit_halves).symm.trans normalized
  have back : ∀ n ∈ halves.value.numbers, Json.parse n.print = .ok (.number n) := by decide +kernel
  obtain ⟨⟨response, last, kept⟩, same⟩ := shown nofun
  obtain ⟨status, body⟩ := kept.2 fun x mem => Json.kept_of_returns (back (.float x) mem)
  exact ⟨r, _, final, response, opened, ran, last, status, body, same.2 fun x => back (.float x)⟩

/-- The reader does not always find the nearest float: a document drifts when it is stored. -/
def drifting : Document :=
  .ofValue (.number (.float 5.0000000000000004e32))

def drifted : Document :=
  .ofValue (.number (.float 5e32))

theorem submit_drifting : Document.submit (Text.encode "5e32") = .ok drifting := by
  decide +kernel

theorem ofBytes_drifting : Document.ofBytes drifting.bytes = .ok drifted := by
  decide +kernel

theorem shown_drifted : ∃ r answers final response, plainSetup.relay 0 = .ok r ∧
    r.run (thenShown (Text.encode "5e32") drifting) = .ok (answers, final) ∧
    answers.head? = some (.ok (.ingested ⟨drifting.id, drifting.id.payload⟩)) ∧
    answers.getLast? = some (.ok (.response response)) ∧ response.status = 200 ∧
    drifting.bytes = Text.encode "5.0000000000000004e+32" ∧
    response.body = Text.encode "5e+32" ∧ final.store.get drifting.id ≠ .ok drifting := by
  obtain ⟨r, later, final, opened, ran, _⟩ := exists_run_documentThen submit_drifting
    [(2, ⟨.get, documentPath drifting.id, []⟩)]
  obtain ⟨d, normalized, _, access, ⟨response, last, status, body⟩, stored⟩ :=
    @shown_of_run _ _ r final [] [] 1 2 _ _ _ _ opened rfl ran rfl rfl rfl
  cases (normalize_of_submit submit_drifting).symm.trans normalized
  have read : final.store.get drifting.id = .ok drifted :=
    (Store.get_eq_ok_iff access (stored nofun)).2 ofBytes_drifting
  obtain ⟨ok, shown⟩ := showDocument_of_get read
  have before : drifting.bytes = Text.encode "5.0000000000000004e+32" := by decide +kernel
  have behind : drifted.bytes = Text.encode "5e+32" := by decide +kernel
  refine ⟨r, _, final, response, opened, ran, rfl, last, status.trans ok, before, ?_, ?_⟩
  · rw [body, shown, behind]
  · rw [read]
    intro same
    have texts := congrArg Document.bytes (Except.ok.inj same)
    rw [before, behind] at texts
    exact absurd texts (by decide +kernel)

end Relay

end Herald
