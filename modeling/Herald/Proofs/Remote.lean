import Herald.Proofs.Identifiers
import Herald.Proofs.Json.Record
import Herald.Proofs.Missing

/-!
An IPFS node in the place of a store in memory. A node that remembers uploads, under identifiers of its
own, answers every put and get as the store does, except that the identifiers are others: what one has
stored the other has, and what one does not know the other does not know.
-/
namespace Herald.Ipfs

open Http (Reply)
open Http.Client (Answer Pending heard?)
open Json (Slot Spells Value valuesOf)

def addedSlots : List (Slot Added.Draft) :=
  [⟨"Hash", Added.Draft.hash, fun d s => { d with hash := some s }, Json.text, false⟩,
   ⟨"Size", Added.Draft.size, fun d s => { d with size := some s }, Json.text, true⟩]

theorem lawful_addedSlots : Slot.Lawful addedSlots where
  nodup := by simp [addedSlots]
  get_set := by simp [addedSlots]
  get_other := by simp [addedSlots]
  ext d d' same := by
    cases d
    cases d'
    simpa [addedSlots] using same

/-- The answer to an upload is an object with the identifier as its hash, and with a size such as
`sized` says, if any. -/
def Confirms (sized : List Value → Prop) (body : List UInt8) (id : ContentId) : Prop :=
  ∃ members, Spells [] body (.object members) ∧ valuesOf "Hash" members = [.string id.text] ∧
    sized (valuesOf "Size" members)

def IsSize (vs : List Value) : Prop :=
  vs = [] ∨ ∃ text, vs = [.string text]

theorem readAdded_of_confirms {body : List UInt8} {id : ContentId} (confirms : Confirms IsSize body id) :
    readAdded (some body) = .ok id := by
  obtain ⟨members, spells, hash, size⟩ := confirms
  have takes : ∃ held, ∀ p ∈ addedSlots, p.Takes {} members ⟨some id.text, held⟩ := by
    have named : ∀ held, Slot.Takes
        ⟨"Hash", Added.Draft.hash, fun d s => { d with hash := some s }, Json.text, false⟩ {} members
        ⟨some id.text, held⟩ :=
      fun held => .inr ⟨_, _, hash, rfl, Json.reads_text _, rfl⟩
    obtain absent | ⟨text, told⟩ := size
    · refine ⟨none, List.forall_mem_cons.2 ⟨named none, List.forall_mem_singleton.2 ?_⟩⟩
      exact .inl ⟨absent, rfl⟩
    · refine ⟨some text, List.forall_mem_cons.2 ⟨named _, List.forall_mem_singleton.2 ?_⟩⟩
      exact .inr ⟨_, _, told, rfl, Json.reads_text text, rfl⟩
  obtain ⟨held, takes⟩ := takes
  have reads := Json.Shape.reads_object (s := added) (lawful_addedSlots.fills rfl takes) rfl
  have read : ContentId.read id.text = .ok id := by
    rw [ContentId.read, ContentId.parse_text]
    rfl
  rw [readAdded, Option.map_some, Json.whole_of_reads reads spells]
  simp [read, Except.mapError]

/-- An upload of the bytes, as its only file. -/
def Adds (call : Http.Call) (part : List UInt8) : Prop :=
  (∃ names, call.url.path = .segments (names ++ ["api", "v0", "add"])) ∧
    ∃ headers, call.content = .upload headers part

def Cats (call : Http.Call) (id : ContentId) : Prop :=
  (∃ names, call.url.path = .segments (names ++ ["api", "v0", "cat"])) ∧
    call.url.query = some ("arg=" ++ id.text) ∧ call.content = .none

/-- A node that keeps what is uploaded under the identifier that `cid` gives it. -/
structure Peer {σ : Type} (sized : List Value → Prop) (respond : σ → Http.Call → Reply × σ)
    (cid : List UInt8 → ContentId) (kept : σ → ContentId → Option (List UInt8)) : Prop where
  confirms : ∀ s call part, Adds call part →
    ∃ body, (respond s call).1 = .whole 200 body ∧ Confirms sized body (cid part)
  keeps : ∀ s call part, Adds call part → ∀ id,
    kept (respond s call).2 id = if id = cid part then some part else kept s id
  shows : ∀ s call id bytes, Cats call id → kept s id = some bytes →
    (respond s call).1 = .whole 200 bytes
  lacks : ∀ s call id, Cats call id → kept s id = none → ∃ body, (respond s call).1 = .whole 500 body ∧
    Refuses (some ⟨500, some body⟩) 500 "merkledag: not found"
  stays : ∀ s call id, Cats call id → kept (respond s call).2 = kept s

structure Reachable (node : Ipfs) (names : List String) : Prop where
  web : node.base.scheme = "http" ∨ node.base.scheme = "https"
  path : node.base.path = .segments names
  sendable : Http.Client.isSendable node.base = true

variable {σ : Type} {sized : List Value → Prop} {respond : σ → Http.Call → Reply × σ}
  {cid : List UInt8 → ContentId} {kept : σ → ContentId → Option (List UInt8)} {node : Ipfs}
  {names : List String} {s : σ} {o : Objects}

theorem web_of_isSendable {url : Url} (sendable : Http.Client.isSendable url = true) :
    url.scheme = "http" ∨ url.scheme = "https" := by
  simp only [Http.Client.isSendable, Bool.and_eq_true, Bool.or_eq_true, decide_eq_true_eq] at sendable
  exact sendable.1

theorem Reachable.heard? (reachable : Reachable node names) (status : Nat) (body : List UInt8) :
    heard? node.base (.whole status body) = some ⟨status, some body⟩ := by
  simp [Http.Client.heard?, reachable.sendable]

theorem exists_put (reachable : Reachable node names) (d : Document) : ∃ asked,
    node.put d = .ok asked ∧ Adds asked.call d.bytes ∧ ∀ body id, Confirms IsSize body id →
      asked.conclude (.whole 200 body) = .ok id := by
  obtain ⟨headers, called⟩ := addCall_eq (Url.isSpecial_of_web reachable.web).2 reachable.path d
  refine ⟨_, put_of_addCall called, ⟨⟨_, rfl⟩, headers, rfl⟩, fun body id confirms => ?_⟩
  have sent : Http.Client.send ⟨node.place names "add" "pin=true", .upload headers d.bytes⟩
      (.whole 200 body) = .ok ⟨200, some body⟩ := by
    rw [Http.Client.send_eq_ok_iff, heard?_place, reachable.heard?]
  dsimp only
  rw [sent]
  exact readAdded_of_confirms confirms

theorem exists_get_of_reachable (reachable : Reachable node names) (id : ContentId) : ∃ asked,
    node.get id = .ok asked ∧ Cats asked.call id ∧
      (∀ bytes, asked.conclude (.whole 200 bytes) = Document.load bytes) ∧
      ∀ body, Refuses (some ⟨500, some body⟩) 500 "merkledag: not found" →
        Failed .notFound (asked.conclude (.whole 500 body)) := by
  obtain ⟨asked, got, called, concluded⟩ := exists_get reachable.web reachable.path id
  have classified (status : Nat) (body : List UInt8) : Classified (fun _ => True)
      (some ⟨status, some body⟩) (asked.conclude (.whole status body)) := by
    obtain ⟨sent, result, same⟩ := concluded (.whole status body)
    rw [result, ← reachable.heard?, ← same]
    exact classified_concludeCat id sent
  refine ⟨asked, got, ?_, fun bytes => ?_, fun body refuses => ?_⟩
  · rw [called]
    exact ⟨⟨_, rfl⟩, rfl, rfl⟩
  · exact (classified 200 bytes).loaded bytes ⟨200, rfl, rfl⟩
  · have denies : Denies "merkledag: not found" := (saysNotFound_iff _).1 (by decide +kernel)
    exact (classified 500 body).missing.2 ⟨500, _, refuses, denies, trivial⟩

/-- What both stores are asked for; each knows what is put by an identifier of its own. -/
inductive Order where
  | put (d : Document)
  | get (remote own : ContentId)

inductive Outcome where
  | stored (result : Except Failure ContentId)
  | found (result : Except Failure Document)

def Outcome.isStored : Outcome → Bool
  | .stored (.ok _) => true
  | _ => false

/-- An order, the call that is made for it, and what becomes of it with the node and in memory. -/
structure Event where
  order : Order
  call : Except Failure Http.Call
  remote : Outcome
  own : Objects.Reply

def Order.own : Order → Objects.Call
  | .put d => .put d
  | .get _ id => .get id

/-- The call that an operation makes, if it makes one, with what it comes to and how the node goes on. -/
def exchanged {α : Type} (respond : σ → Http.Call → Reply × σ) (s : σ)
    (asked : Except Failure (Pending (Except Failure α))) :
    Except Failure Http.Call × Except Failure α × σ :=
  match asked with
  | .ok asked =>
    let (reply, s) := respond s asked.call
    (.ok asked.call, asked.conclude reply, s)
  | .error f => (.error f, .error f, s)

def event (respond : σ → Http.Call → Reply × σ) (node : Ipfs) (s : σ) (o : Objects) (order : Order) :
    Event × σ :=
  let own := (o.call order.own).1
  match order with
  | .put d =>
    let (call, result, s) := exchanged respond s (node.put d)
    (⟨order, call, .stored result, own⟩, s)
  | .get id _ =>
    let (call, result, s) := exchanged respond s (node.get id)
    (⟨order, call, .found result, own⟩, s)

def events (respond : σ → Http.Call → Reply × σ) (node : Ipfs) (s : σ) (o : Objects) :
    List Order → List Event
  | [] => []
  | order :: orders => (node.event respond s o order).1 ::
      events respond node (node.event respond s o order).2 (o.call order.own).2 orders

/-- Different texts among the documents have different identifiers, with the node and in memory. -/
structure Apart (cid : List UInt8 → ContentId) (ds : List Document) : Prop where
  remote : ∀ d ∈ ds, ∀ d' ∈ ds, cid d.bytes = cid d'.bytes → d.bytes = d'.bytes
  own : ∀ d ∈ ds, ∀ d' ∈ ds, d.id = d'.id → d.bytes = d'.bytes

theorem Apart.mono {ds ds' : List Document} (apart : Apart cid ds) (sub : ∀ d ∈ ds', d ∈ ds) :
    Apart cid ds' where
  remote d mem d' mem' := apart.remote d (sub d mem) d' (sub d' mem')
  own d mem d' mem' := apart.own d (sub d mem) d' (sub d' mem')

def Order.document? : Order → Option Document
  | .put d => some d
  | .get _ _ => none

def documents (orders : List Order) : List Document :=
  orders.filterMap Order.document?

/-- The stores are asked for the same: what one has answered a put with where the other has. -/
def Paired (es : List Event) : Prop :=
  ∀ before e behind, es = before ++ e :: behind → ∀ remote own, e.order = .get remote own →
    ∀ p ∈ before, p.remote = .stored (.ok remote) ↔ p.own = .stored own

structure Holds (cid : List UInt8 → ContentId) (kept : ContentId → Option (List UInt8)) (o : Objects)
    (ds : List Document) : Prop where
  remote : ∀ id bytes, kept id = some bytes ↔ ∃ d ∈ ds, cid d.bytes = id ∧ d.bytes = bytes
  own : ∀ id bytes, o.get? id = some bytes ↔ ∃ d ∈ ds, d.id = id ∧ d.bytes = bytes

theorem Holds.put {found : ContentId → Option (List UInt8)} {ds : List Document} {d : Document}
    (holds : Holds cid found o ds) (apart : Apart cid (d :: ds)) :
    Holds cid (fun id => if id = cid d.bytes then some d.bytes else found id) (o.put d).2 (d :: ds) := by
  have here : d ∈ d :: ds := .head ds
  constructor
  · intro id bytes
    by_cases same : id = cid d.bytes
    · simp only [same, if_true, Option.some.injEq]
      refine ⟨fun bytes => ⟨d, here, rfl, bytes⟩, ?_⟩
      rintro ⟨d', mem, alike, rfl⟩
      exact (apart.remote d' mem d here alike).symm
    · simp only [same, if_false, holds.remote, List.exists_mem_cons_iff, Ne.symm same, false_and, false_or]
  · intro id bytes
    rw [Objects.get?_put, Option.or_eq_some_iff, holds.own, List.exists_mem_cons_iff]
    by_cases same : id = d.id
    · subst same
      simp only [if_true, Option.some.injEq, true_and]
      constructor
      · rintro (known | ⟨_, bytes⟩)
        · exact .inr known
        · exact .inl bytes
      · rintro (rfl | known)
        · cases found : o.get? d.id with
          | none => exact .inr ⟨rfl, rfl⟩
          | some bytes =>
            obtain ⟨d', mem, alike, rfl⟩ := (holds.own _ _).1 found
            exact .inl ⟨d', mem, alike, apart.own d' (.tail d mem) d here alike⟩
        · exact .inl known
    · simp [same, Ne.symm same]

theorem event_put (peer : Peer IsSize respond cid kept) (reachable : Reachable node names) (s : σ)
    (o : Objects) (d : Document) : ∃ call after, Adds call d.bytes ∧
    node.event respond s o (.put d) =
      (⟨.put d, .ok call, .stored (.ok (cid d.bytes)), .stored d.id⟩, after) ∧
    ∀ id, kept after id = if id = cid d.bytes then some d.bytes else kept s id := by
  obtain ⟨asked, puts, adds, concluded⟩ := exists_put reachable d
  obtain ⟨body, replied, confirms⟩ := peer.confirms s asked.call d.bytes adds
  refine ⟨asked.call, (respond s asked.call).2, adds, ?_, peer.keeps s asked.call d.bytes adds⟩
  rw [event, puts]
  dsimp only [exchanged]
  rw [replied, concluded body _ confirms]
  rfl

theorem event_get (peer : Peer IsSize respond cid kept) (reachable : Reachable node names) (s : σ)
    (o : Objects) (remote own : ContentId) : ∃ call result after, Cats call remote ∧
    node.event respond s o (.get remote own) =
      (⟨.get remote own, .ok call, .found result, .found (o.get own)⟩, after) ∧
    (∀ bytes, kept s remote = some bytes → result = Document.load bytes) ∧
    (kept s remote = none → Failed .notFound result) ∧ kept after = kept s := by
  obtain ⟨asked, gets, cats, shown, lacking⟩ := exists_get_of_reachable reachable remote
  refine ⟨asked.call, asked.conclude (respond s asked.call).1, (respond s asked.call).2, cats, ?_, ?_, ?_,
    peer.stays s asked.call remote cats⟩
  · rw [event, gets]
    rfl
  · intro bytes there
    rw [peer.shows s asked.call remote bytes cats there, shown]
  · intro none
    obtain ⟨body, replied, refuses⟩ := peer.lacks s asked.call remote cats none
    rw [replied]
    exact lacking body refuses

theorem order_event (s : σ) (o : Objects) (order : Order) :
    (node.event respond s o order).1.order = order := by
  cases order <;> rfl

theorem holds_before (peer : Peer IsSize respond cid kept) (reachable : Reachable node names)
    {orders : List Order} {e : Event} {behind : List Event} : ∀ {before : List Event} {s : σ} {o : Objects}
    {ds : List Document}, Holds cid (kept s) o ds → Apart cid (ds ++ documents orders) →
    node.events respond s o orders = before ++ e :: behind → ∃ s' o' ds',
      e = (node.event respond s' o' e.order).1 ∧ Holds cid (kept s') o' ds' ∧
      ∀ d, d ∈ ds' ↔ d ∈ ds ∨ ∃ p ∈ before, p.order = .put d := by
  induction orders with
  | nil =>
    intro before s o ds _ _ ran
    cases before <;> contradiction
  | cons order orders ih =>
    intro before s o ds holds apart ran
    cases before with
    | nil =>
      cases ran
      exact ⟨s, o, ds, by rw [order_event], holds, by simp⟩
    | cons p before =>
      obtain ⟨rfl, later⟩ := List.cons.inj ran
      cases order with
      | put d =>
        obtain ⟨_, after, _, same, keeps⟩ := event_put peer reachable s o d
        have sub : ∀ d' ∈ d :: ds, d' ∈ ds ++ documents (.put d :: orders) := by
          simp +contextual [documents, Order.document?]
        have more := holds.put (apart.mono sub)
        rw [← funext keeps] at more
        have rest : ∀ d' ∈ (d :: ds) ++ documents orders, d' ∈ ds ++ documents (.put d :: orders) := by
          simp [documents, Order.document?, or_left_comm]
        rw [same] at later
        obtain ⟨s', o', ds', made, holds', mem⟩ := ih more (apart.mono rest) later
        refine ⟨s', o', ds', made, holds', fun d' => (mem d').trans ?_⟩
        simp only [List.mem_cons, exists_eq_or_imp, same, Order.put.injEq]
        tauto
      | get remote own =>
        obtain ⟨_, _, after, _, same, _, _, stays⟩ := event_get peer reachable s o remote own
        rw [← stays] at holds
        rw [same] at later
        obtain ⟨s', o', ds', made, holds', mem⟩ := ih holds apart later
        refine ⟨s', o', ds', made, holds', fun d' => (mem d').trans ?_⟩
        simp [same]

theorem exists_of_mem_events {orders : List Order} {e : Event} : ∀ {s : σ} {o : Objects},
    e ∈ node.events respond s o orders →
    e.order ∈ orders ∧ ∃ s' o', e = (node.event respond s' o' e.order).1 := by
  induction orders with
  | nil =>
    intro s o mem
    cases mem
  | cons order orders ih =>
    intro s o mem
    obtain rfl | mem := List.mem_cons.1 mem
    · rw [order_event]
      exact ⟨.head _, s, o, rfl⟩
    · obtain ⟨given, made⟩ := ih mem
      exact ⟨.tail _ given, made⟩

theorem mem_of_ran {es before behind : List Event} {e : Event} (ran : es = before ++ e :: behind) :
    e ∈ es ∧ ∀ p ∈ before, p ∈ es := by
  subst ran
  exact ⟨List.mem_append_right before (.head behind), fun p mem => List.mem_append_left _ mem⟩

theorem mem_documents {orders : List Order} {e : Event} (mem : e ∈ node.events respond s o orders)
    {d : Document} (order : e.order = .put d) : d ∈ documents orders :=
  List.mem_filterMap.2 ⟨_, (exists_of_mem_events mem).1, by rw [order]; rfl⟩

theorem answers_of_mem (peer : Peer IsSize respond cid kept) (reachable : Reachable node names)
    {orders : List Order} {p : Event} (mem : p ∈ node.events respond s o orders) :
    (∀ d, p.order = .put d → p.remote = .stored (.ok (cid d.bytes)) ∧ p.own = .stored d.id) ∧
    ∀ id, p.remote = .stored (.ok id) ∨ p.own = .stored id → ∃ d, p.order = .put d := by
  obtain ⟨_, s', o', made⟩ := exists_of_mem_events mem
  cases order : p.order with
  | put d =>
    rw [order] at made
    obtain ⟨call, _, _, same, _⟩ := event_put peer reachable s' o' d
    rw [made, same]
    refine ⟨?_, fun _ _ => ⟨d, rfl⟩⟩
    rintro _ ⟨⟩
    exact ⟨rfl, rfl⟩
  | get remote own =>
    rw [order] at made
    obtain ⟨call, result, _, _, same, _⟩ := event_get peer reachable s' o' remote own
    rw [made, same]
    exact ⟨by simp, by simp⟩

/-- Both have stored the document, which was uploaded as it is. The identifiers are those of the earlier
puts of the same text, and of no others. -/
structure PutAgrees (before : List Event) (e : Event) (d : Document) : Prop where
  uploads : ∃ call, e.call = .ok call ∧ Adds call d.bytes
  answers : ∃ remote own, e.remote = .stored (.ok remote) ∧ e.own = .stored own ∧
    ∀ p ∈ before, ∀ d', p.order = .put d' → (p.remote = .stored (.ok remote) ↔ d'.bytes = d.bytes) ∧
      (p.own = .stored own ↔ d'.bytes = d.bytes)

/-- Both find the document of an earlier put that was answered with the identifier, and nothing if there
is none. -/
structure GetAgrees (before : List Event) (e : Event) (id : ContentId) : Prop where
  asks : ∃ call, e.call = .ok call ∧ Cats call id
  known : ∀ p ∈ before, p.remote = .stored (.ok id) → ∃ d, p.order = .put d ∧
    e.remote = .found (Document.load d.bytes) ∧ e.own = .found (Document.load d.bytes)
  unknown : (∀ p ∈ before, p.remote ≠ .stored (.ok id)) → ∃ remote own, e.remote = .found remote ∧
    e.own = .found own ∧ Failed .notFound remote ∧ Failed .notFound own

theorem putAgrees_of_events (peer : Peer IsSize respond cid kept) (reachable : Reachable node names)
    {orders : List Order} {before behind : List Event} {e : Event} (apart : Apart cid (documents orders))
    (ran : node.events respond s o orders = before ++ e :: behind) {d : Document}
    (order : e.order = .put d) : PutAgrees before e d := by
  obtain ⟨mine, earlier⟩ := mem_of_ran ran
  obtain ⟨_, s', o', made⟩ := exists_of_mem_events mine
  rw [order] at made
  obtain ⟨call, _, adds, same, _⟩ := event_put peer reachable s' o' d
  rw [same] at made
  refine ⟨⟨call, by rw [made], adds⟩, cid d.bytes, d.id, by rw [made], by rw [made], ?_⟩
  intro p mem d' put
  obtain ⟨remote, own⟩ := (answers_of_mem peer reachable (earlier p mem)).1 d' put
  have first := mem_documents (earlier p mem) put
  have second := mem_documents mine order
  rw [remote, own]
  constructor
  · simp only [Outcome.stored.injEq, Except.ok.injEq]
    exact ⟨apart.remote d' first d second, fun bytes => by rw [bytes]⟩
  · simp only [Objects.Reply.stored.injEq]
    exact ⟨apart.own d' first d second, fun bytes => by rw [Document.id, bytes, Document.id]⟩

theorem getAgrees_of_events (peer : Peer IsSize respond cid kept) (reachable : Reachable node names)
    (fresh : ∀ id, kept s id = none) {orders : List Order} {before behind : List Event} {e : Event}
    (apart : Apart cid (documents orders)) (paired : Paired (node.events respond s .empty orders))
    (ran : node.events respond s .empty orders = before ++ e :: behind) {remote own : ContentId}
    (order : e.order = .get remote own) : GetAgrees before e remote := by
  have start : Holds cid (kept s) .empty [] := ⟨by simp [fresh], by simp⟩
  obtain ⟨s', o', ds, made, holds, mem⟩ := holds_before peer reachable start apart ran
  rw [order] at made
  obtain ⟨call, result, _, cats, same, shown, lacking, _⟩ := event_get peer reachable s' o' remote own
  rw [same] at made
  have answers := fun p mem => answers_of_mem peer reachable ((mem_of_ran ran).2 p mem)
  have pair := paired before e behind ran remote own order
  refine ⟨⟨call, by rw [made], cats⟩, ?_, ?_⟩
  · intro p there stored
    obtain ⟨d, put⟩ := (answers p there).2 remote (.inl stored)
    obtain ⟨first, second⟩ := (answers p there).1 d put
    have known : d ∈ ds := (mem d).2 (.inr ⟨p, there, put⟩)
    have named : cid d.bytes = remote := by simpa [first] using stored
    have named' : d.id = own := by simpa [second] using (pair p there).1 stored
    have found := shown _ ((holds.remote _ _).2 ⟨d, known, named, rfl⟩)
    have found' : o'.get own = Document.load d.bytes := by
      rw [Objects.get, (holds.own _ _).2 ⟨d, known, named', rfl⟩]
    exact ⟨d, put, by rw [made, found], by rw [made, found']⟩
  · intro absent
    have missing : kept s' remote = none := by
      rw [Option.eq_none_iff_forall_ne_some]
      intro bytes there
      obtain ⟨d, known, rfl, _⟩ := (holds.remote _ _).1 there
      obtain ⟨p, there, put⟩ := ((mem d).1 known).resolve_left nofun
      exact absent p there ((answers p there).1 d put).1
    have missing' : o'.get? own = none := by
      rw [Option.eq_none_iff_forall_ne_some]
      intro bytes there
      obtain ⟨d, known, rfl, _⟩ := (holds.own _ _).1 there
      obtain ⟨p, there, put⟩ := ((mem d).1 known).resolve_left nofun
      exact absent p there ((pair p there).2 ((answers p there).1 d put).2)
    refine ⟨result, o'.get own, by rw [made], by rw [made], lacking missing, ?_⟩
    rw [Objects.get, missing']
    exact ⟨_, rfl, rfl⟩

/-- A node that remembers what is uploaded can stand for the store in memory. -/
theorem events_agree {build : Http.Client.Builder} {url : String} {timeout : UInt64}
    (connected : connect build url timeout = .ok node)
    (sendable : Http.Client.isSendable node.base = true) (peer : Peer IsSize respond cid kept)
    (fresh : ∀ id, kept s id = none) {orders : List Order} (apart : Apart cid (documents orders))
    (paired : Paired (node.events respond s .empty orders)) {before behind : List Event} {e : Event}
    (ran : node.events respond s .empty orders = before ++ e :: behind) :
    (∀ d, e.order = .put d → PutAgrees before e d) ∧
    ∀ remote own, e.order = .get remote own → GetAgrees before e remote := by
  have web := web_of_isSendable sendable
  obtain ⟨names, path⟩ := exists_segments_of_connect connected web
  have reachable : Reachable node names := ⟨web, path, sendable⟩
  exact ⟨fun d order => putAgrees_of_events peer reachable apart ran order,
    fun remote own order => getAgrees_of_events peer reachable fresh apart paired ran order⟩

def otherId : ContentId :=
  twoId

def numbering (part : List UInt8) : ContentId :=
  if part = Objects.whole.bytes then oneId else otherId

def confirmation (size : Value) (id : ContentId) : Value :=
  .object [("Name", .string "document.json"), ("Hash", .string id.text), ("Size", size)]

def absence : List UInt8 :=
  Text.encode "\x7b\"Message\":\"merkledag: not found\",\"Code\":0,\"Type\":\"error\"\x7d"

def asked? (call : Http.Call) : Option ContentId :=
  call.url.query.bind fun query => (ContentId.parse (String.ofList (query.toList.drop 4))).toOption

def keeper (size : Value) (kept : ContentId → Option (List UInt8)) (call : Http.Call) :
    Reply × (ContentId → Option (List UInt8)) :=
  match call.content with
  | .upload _ part => (.whole 200 (confirmation size (numbering part)).print,
      fun id => if id = numbering part then some part else kept id)
  | _ =>
    match (asked? call).bind kept with
    | some bytes => (.whole 200 bytes, kept)
    | none => (.whole 500 absence, kept)

theorem asked?_of_cats {call : Http.Call} {id : ContentId} (cats : Cats call id) :
    asked? call = some id := by
  obtain ⟨_, query, _⟩ := cats
  rw [asked?, query, Option.bind_some, String.toList_append]
  change (ContentId.parse (String.ofList id.text.toList)).toOption = _
  rw [String.ofList_toList, ContentId.parse_text]
  rfl

theorem peer_keeper {size : Value} (back : ∀ n ∈ size.numbers, Json.parse n.print = .ok (.number n))
    (fits : sized [size]) : Peer sized (keeper size) numbering id where
  confirms s call part adds := by
    obtain ⟨_, headers, content⟩ := adds
    have reads : Json.Rereads (confirmation size (numbering part)) (confirmation size (numbering part)) :=
      (.object (.cons (.string _) (.cons (.string _) (.cons (Json.rereads_self size back) .nil))))
    have denotes := Json.denotes_print reads []
    rw [List.append_nil] at denotes
    refine ⟨_, by rw [keeper, content], _, ⟨_, [], .nil, denotes, .nil⟩, rfl, fits⟩
  keeps s call part adds id := by
    obtain ⟨_, headers, content⟩ := adds
    rw [keeper, content]
    rfl
  shows s call id bytes cats there := by
    have there : s id = some bytes := there
    rw [keeper, cats.2.2, asked?_of_cats cats]
    simp [there]
  lacks s call id cats missing := by
    have missing : s id = none := missing
    refine ⟨absence, ?_, .told rfl (by decide +kernel)⟩
    rw [keeper, cats.2.2, asked?_of_cats cats]
    simp [missing]
  stays s call id cats := by
    rw [keeper, cats.2.2, asked?_of_cats cats]
    simp only [Option.bind_some]
    split <;> rfl

def vacant : Document :=
  .ofValue (.object [("a", .null)])

def fewOrders : List Order :=
  [.put Objects.whole, .get otherId vacant.id, .put vacant, .put Objects.whole, .get oneId Objects.whole.id]

theorem paired_of_ids (peer : Peer IsSize respond cid kept) (reachable : Reachable node names)
    {orders : List Order} (same : ∀ remote own, .get remote own ∈ orders → ∀ d ∈ documents orders,
      cid d.bytes = remote ↔ d.id = own) : Paired (node.events respond s o orders) := by
  intro before e behind ran remote own order p mem
  obtain ⟨mine, earlier⟩ := mem_of_ran ran
  have given : .get remote own ∈ orders := order ▸ (exists_of_mem_events mine).1
  obtain ⟨answers, stored⟩ := answers_of_mem peer reachable (earlier p mem)
  have put : ∀ d, p.order = .put d → (p.remote = .stored (.ok remote) ↔ p.own = .stored own) := by
    intro d put
    obtain ⟨first, second⟩ := answers d put
    rw [first, second]
    simpa using same remote own given d (mem_documents (earlier p mem) put)
  constructor
  · intro told
    obtain ⟨d, order⟩ := stored remote (.inl told)
    exact (put d order).1 told
  · intro told
    obtain ⟨d, order⟩ := stored own (.inr told)
    exact (put d order).2 told

theorem reachable_localNode : Reachable localNode [""] :=
  ⟨.inl rfl, rfl, by decide⟩

theorem events_agree_keeper : connect (fun _ => .ok ()) "http://127.0.0.1:5001" 5 = .ok localNode ∧
    ∀ before e behind, localNode.events (keeper (.string "3")) (fun _ => none) .empty fewOrders =
      before ++ e :: behind → (∀ d, e.order = .put d → PutAgrees before e d) ∧
      ∀ remote own, e.order = .get remote own → GetAgrees before e remote := by
  have peer : Peer IsSize (keeper (.string "3")) numbering id := peer_keeper nofun (.inr ⟨_, rfl⟩)
  have apart : Apart numbering (documents fewOrders) := by
    constructor
    · decide +kernel
    · decide +kernel
  have same : ∀ remote own, .get remote own ∈ fewOrders → ∀ d ∈ documents fewOrders,
      numbering d.bytes = remote ↔ d.id = own := by
    intro remote own mem
    simp only [fewOrders, List.mem_cons, List.not_mem_nil, reduceCtorEq, Order.get.injEq, false_or,
      or_false] at mem
    obtain ⟨rfl, rfl⟩ | ⟨rfl, rfl⟩ := mem
    · decide +kernel
    · decide +kernel
  have paired := paired_of_ids (s := fun _ => none) (o := .empty) peer reachable_localNode same
  exact ⟨connect_localNode, fun before e behind ran =>
    events_agree connect_localNode (by decide) peer (fun _ => rfl) apart paired ran⟩

/-- A size that is a number makes the client give up an upload that the node has taken. -/
theorem put_fails_counted : ∃ e, connect (fun _ => .ok ()) "http://127.0.0.1:5001" 5 = .ok localNode ∧
    Peer (fun _ => True) (keeper (.number (.int 3))) numbering id ∧ Apart numbering [Objects.whole] ∧
    localNode.events (keeper (.number (.int 3))) (fun _ => none) .empty [.put Objects.whole] = [e] ∧
    Paired [e] ∧ ¬ PutAgrees [] e Objects.whole := by
  have back : ∀ n ∈ (Value.number (.int 3)).numbers, Json.parse n.print = .ok (.number n) := by
    intro n mem
    cases List.mem_singleton.1 mem
    exact Json.parse_int_print ⟨by decide, by decide⟩
  refine ⟨_, connect_localNode, peer_keeper back trivial, ?_, rfl, ?_, ?_⟩
  · exact ⟨by decide +kernel, by decide +kernel⟩
  · intro before e behind split remote own order p mem
    cases before with
    | nil => cases mem
    | cons q before => simp at split
  · rintro ⟨_, remote, own, stored, _⟩
    have failed : (localNode.event (keeper (.number (.int 3))) (fun _ => none) .empty
        (.put Objects.whole)).1.remote.isStored = false := by decide +kernel
    rw [stored] at failed
    contradiction

end Herald.Ipfs
