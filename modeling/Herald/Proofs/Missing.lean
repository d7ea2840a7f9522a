import Herald.Proofs.Json.Makes
import Herald.Proofs.Objects
import Herald.Proofs.Replies
import Herald.Proofs.Text.Lowercase

/-!
What a client of an IPFS node concludes from the reply to a request for content. Content that arrived is
read as a document; an error that says in its words that there is no such content counts for that, with
whatever status it comes; everything else leaves the store unavailable.
-/
namespace Herald.Ipfs

open Http (Reply)
open Http.Client (Answer heard?)
open Json (Slot Spells Value Written valuesOf)

def Brings (heard : Option Answer) (body : List UInt8) : Prop :=
  ∃ status, heard = some ⟨status, some body⟩ ∧ Http.Status.isSuccess status = true

/-- An error of the node, its status and its words: those of its message, or else all that arrived. -/
inductive Refuses : Option Answer → Nat → String → Prop
  | told {status : Nat} {body : List UInt8} {message : String} : Http.Status.isSuccess status = false →
      Json.whole complaint.read body = .ok message → Refuses (some ⟨status, some body⟩) status message
  | wrote {status : Nat} {body : List UInt8} : Http.Status.isSuccess status = false →
      (∀ message, Json.whole complaint.read body ≠ .ok message) →
      Refuses (some ⟨status, some body⟩) status (Text.trim (Text.decodeLossy body))
  | cut {status : Nat} : Http.Status.isSuccess status = false → Refuses (some ⟨status, none⟩) status ""

/-- The message has one of the words for missing content in it, in letters of any case. -/
def Denies (message : String) : Prop :=
  ∃ marker ∈ notFoundMarkers, Text.Mentions message.toList marker.toList

/-- What a request for content comes to. An error counts for missing content if `may` allows its status
to. -/
structure Classified (may : Nat → Prop) (heard : Option Answer) (result : Except Failure Document) :
    Prop where
  loaded : ∀ body, Brings heard body → result = Document.load body
  arrived : ((∃ d, result = .ok d) ∨ Failed .malformedDocument result) ↔ ∃ body, Brings heard body
  missing : Failed .notFound result ↔
    ∃ status message, Refuses heard status message ∧ Denies message ∧ may status
  unavailable : Failed .storeUnavailable result ↔ (∀ body, ¬ Brings heard body) ∧
    ∀ status message, Refuses heard status message → Denies message → ¬ may status

/-- The error of the node, as a value: an object with the message, or a list of nothing else. -/
inductive Complains : Value → String → Prop
  | object {members : List (String × Value)} {message : String} :
      valuesOf "Message" members = [.string message] → Complains (.object members) message
  | list {message : String} : Complains (.array [.string message]) message

def messageSlot : Slot (Option String) :=
  ⟨"Message", id, fun _ s => some s, Json.text, false⟩

theorem lawful_messageSlot : Slot.Lawful [messageSlot] where
  nodup := by simp
  get_set := by simp [messageSlot]
  get_other := by simp [messageSlot]
  ext := by simp [messageSlot]

theorem build_complaint_iff {d : Option String} {message : String} :
    complaint.build d = .ok message ↔ d = some message := by
  cases d with
  | none => exact ⟨nofun, nofun⟩
  | some told => exact ⟨fun same => congrArg some (Except.ok.inj same), fun same => by cases same; rfl⟩

theorem whole_complaint_iff {body : List UInt8} {w : Value} (spells : Spells [] body w)
    {message : String} : Json.whole complaint.read body = .ok message ↔ Complains w message := by
  have faithful : ∀ p ∈ [messageSlot], Json.Faithful p.read :=
    List.forall_mem_singleton.2 Json.faithful_text
  have fields := Slot.faithful_fields (s := complaint) rfl faithful
  have written := Written.of_spells spells
  rw [(Json.Shape.faithful_read fields).whole_iff spells]
  constructor
  · intro reads
    cases Json.Shape.makes_of_reads fields written reads with
    | object fills built =>
      cases build_complaint_iff.1 built
      obtain ⟨_, none⟩ | ⟨v, told, alone, _, reads, held⟩ :=
        lawful_messageSlot.takes rfl faithful fills written.member _ (.head _)
      · contradiction
      · cases held
        cases (Json.reads_text_iff (written.valuesOf alone)).1 reads
        exact .object alone
    | list fills built =>
      cases build_complaint_iff.1 built
      cases fills with
      | @cons _ _ _ _ _ v vs first rest =>
        have solid := written.item v (.head _)
        obtain ⟨told, reads, rfl⟩ := Slot.exists_reads_of_fill (p := messageSlot)
          Json.faithful_text solid first
        cases (Json.reads_text_iff solid).1 reads
        cases rest
        exact .list
  · intro complains
    have made := build_complaint_iff.2 (rfl : some message = some message)
    cases complains with
    | object alone =>
      have takes : messageSlot.Takes none _ (some message) :=
        .inr ⟨_, message, alone, rfl, Json.reads_text message, rfl⟩
      exact Json.Shape.reads_object (lawful_messageSlot.fills rfl (List.forall_mem_singleton.2 takes)) made
    | list =>
      have first := Slot.reads_fill (p := messageSlot) (Json.reads_text message) none
      exact Json.Shape.reads_of_makes (.list (.cons first (.done nofun)) made)

theorem sturdy_of_mem_notFoundMarkers {marker : String} (mem : marker ∈ notFoundMarkers) :
    ∃ c word, marker.toList = c :: word ∧ Text.Sturdy (c :: word) := by
  simp only [notFoundMarkers, List.mem_cons, List.not_mem_nil, or_false] at mem
  obtain rfl | rfl | rfl | rfl | rfl := mem <;>
    exact ⟨_, _, rfl, .of_all (by decide) (by decide)⟩

theorem saysNotFound_iff (message : String) : saysNotFound message = true ↔ Denies message := by
  unfold saysNotFound Denies
  rw [List.any_eq_true]
  refine exists_congr fun marker => and_congr_right fun mem => ?_
  obtain ⟨c, word, same, sturdy⟩ := sturdy_of_mem_notFoundMarkers mem
  rw [same]
  exact Text.holds_lower_iff sturdy

theorem refuses_of_heard {answer : Answer} (failed : answer.isSuccess = false) :
    Refuses (some answer) answer.status (errorMessage answer.bytes) := by
  obtain ⟨status, body⟩ := answer
  cases body with
  | none => exact .cut failed
  | some body =>
    simp only [Http.Client.Answer.bytes, Option.getD_some, errorMessage]
    split
    · next told => exact .told failed told
    · next untold =>
      refine .wrote failed fun message told => ?_
      rw [told] at untold
      contradiction

theorem Refuses.unique {heard : Option Answer} {status status' : Nat} {message message' : String}
    (first : Refuses heard status message) (second : Refuses heard status' message') :
    status = status' ∧ message = message' := by
  cases first with
  | told _ told =>
    cases second with
    | told _ told' => exact ⟨rfl, Except.ok.inj (told.symm.trans told')⟩
    | wrote _ untold => exact absurd told (untold _)
  | wrote _ untold =>
    cases second with
    | told _ told => exact absurd told (untold _)
    | wrote => exact ⟨rfl, rfl⟩
  | cut =>
    cases second
    exact ⟨rfl, rfl⟩

theorem Refuses.not_brings {heard : Option Answer} {status : Nat} {message : String}
    (refuses : Refuses heard status message) {body : List UInt8} : ¬ Brings heard body := by
  rintro ⟨_, same, success⟩
  cases refuses with
  | told failed =>
    cases same
    rw [failed] at success
    contradiction
  | wrote failed =>
    cases same
    rw [failed] at success
    contradiction
  | cut => cases same

def Words (w : Value) (body : List UInt8) (message : String) : Prop :=
  Complains w message ∨
    (∀ told, ¬ Complains w told) ∧ message = Text.trim (Text.decodeLossy body)

theorem refuses_iff {status : Nat} {body : List UInt8} {w : Value}
    (failed : Http.Status.isSuccess status = false) (spells : Spells [] body w) {message : String} :
    Refuses (some ⟨status, some body⟩) status message ↔ Words w body message := by
  have told (m : String) : Json.whole complaint.read body = .ok m ↔ Complains w m :=
    whole_complaint_iff spells
  constructor
  · intro refuses
    cases refuses with
    | told _ read => exact .inl ((told message).1 read)
    | wrote _ unread => exact .inr ⟨fun m complains => unread m ((told m).2 complains), rfl⟩
  · rintro (complains | ⟨silent, rfl⟩)
    · exact .told failed ((told message).2 complains)
    · exact .wrote failed fun m read => silent m ((told m).1 read)

theorem classified_load {heard : Option Answer} {body : List UInt8} (brings : Brings heard body)
    (may : Nat → Prop) : Classified may heard (Document.load body) := by
  have silent : ∀ status message, ¬ Refuses heard status message := fun _ _ refuses =>
    refuses.not_brings brings
  have one : ∀ other, Brings heard other → other = body := by
    rintro other ⟨_, same, _⟩
    obtain ⟨_, heard, _⟩ := brings
    rw [same] at heard
    cases heard
    rfl
  have only : ∀ kind, Failed kind (Document.load body) → kind = .malformedDocument := by
    rintro kind ⟨f, failed, rfl⟩
    exact Objects.kind_of_load failed
  refine ⟨fun other arrived => by rw [one other arrived], ?_, ?_, ?_⟩
  · refine iff_of_true ?_ ⟨body, brings⟩
    cases read : Document.load body with
    | ok d => exact .inl ⟨d, rfl⟩
    | error f => exact .inr ⟨f, rfl, Objects.kind_of_load read⟩
  · refine iff_of_false (fun failed => by cases only _ failed) ?_
    rintro ⟨status, message, refuses, _⟩
    exact silent status message refuses
  · refine iff_of_false (fun failed => by cases only _ failed) ?_
    rintro ⟨nothing, _⟩
    exact nothing body brings

theorem classified_notFound {heard : Option Answer} {f : Failure} {may : Nat → Prop} {status : Nat}
    {message : String} (kind : f.kind = .notFound) (refuses : Refuses heard status message)
    (denies : Denies message) (allowed : may status) : Classified may heard (.error f) where
  loaded body brings := absurd brings refuses.not_brings
  arrived := by
    have nothing : ∀ body, ¬ Brings heard body := fun _ => refuses.not_brings
    simpa [kind] using nothing
  missing := by
    simpa [kind] using ⟨status, message, refuses, denies, allowed⟩
  unavailable := by
    simp only [failed_error, kind, reduceCtorEq, false_iff, not_and]
    exact fun _ unable => unable status message refuses denies allowed

theorem classified_unavailable {heard : Option Answer} {f : Failure} {may : Nat → Prop}
    (kind : f.kind = .storeUnavailable) (nothing : ∀ body, ¬ Brings heard body)
    (unable : ∀ status message, Refuses heard status message → Denies message → ¬ may status) :
    Classified may heard (.error f) where
  loaded body brings := absurd brings (nothing body)
  arrived := by
    simpa [kind] using nothing
  missing := by
    simpa [kind] using unable
  unavailable := by
    simpa [kind] using ⟨nothing, unable⟩

theorem classified_concludeCat (id : ContentId) (sent : Except Http.Client.Fault Answer) :
    Classified (fun _ => True) sent.toOption (concludeCat id sent) := by
  cases sent with
  | error fault => exact classified_unavailable rfl nofun nofun
  | ok answer =>
    change Classified _ (some answer) (if answer.isSuccess then _ else _)
    cases success : answer.isSuccess with
    | true =>
      rw [if_pos rfl]
      obtain ⟨status, body⟩ := answer
      cases body with
      | some body => exact classified_load ⟨status, rfl, success⟩ _
      | none =>
        refine classified_unavailable rfl nofun ?_
        rintro s m (_ | _ | failed)
        rw [Http.Client.Answer.isSuccess, failed] at success
        contradiction
    | false =>
      rw [if_neg (by simp)]
      have refuses := refuses_of_heard success
      unfold catRejected
      by_cases denied : saysNotFound (errorMessage answer.bytes) = true
      · simp only [denied, if_true]
        exact classified_notFound rfl refuses ((saysNotFound_iff _).1 denied) trivial
      · simp only [denied]
        refine classified_unavailable rfl (fun body => refuses.not_brings) fun s m refuses' denies => ?_
        obtain ⟨_, rfl⟩ := refuses.unique refuses'
        exact absurd ((saysNotFound_iff _).2 denies) denied

theorem exists_get {node : Ipfs} {names : List String}
    (web : node.base.scheme = "http" ∨ node.base.scheme = "https")
    (path : node.base.path = .segments names) (id : ContentId) : ∃ asked, node.get id = .ok asked ∧
      asked.call = ⟨node.place names "cat" ("arg=" ++ id.text), .none⟩ ∧
      ∀ reply, ∃ sent, asked.conclude reply = concludeCat id sent ∧ sent.toOption = heard? node.base reply := by
  have called := catCall_eq (Url.isSpecial_of_web web).2 path id
  refine ⟨_, get_of_catCall called, rfl, fun reply => ⟨_, rfl, ?_⟩⟩
  rw [Http.Client.toOption_send, heard?_place]

theorem Classified.strict_iff {heard : Option Answer} {result : Except Failure Document}
    (classified : Classified (fun _ => True) heard result) : Classified (· = 500) heard result ↔
      ∀ status message, Refuses heard status message → Denies message → status = 500 := by
  constructor
  · intro strict status message refuses denies
    have missing := classified.missing.2 ⟨status, message, refuses, denies, trivial⟩
    obtain ⟨_, _, refuses', _, rfl⟩ := strict.missing.1 missing
    exact (refuses.unique refuses').1
  · intro only
    refine ⟨classified.loaded, classified.arrived, classified.missing.trans ?_,
      classified.unavailable.trans (and_congr_right fun _ => ?_)⟩
    · refine exists_congr fun s => exists_congr fun m => and_congr_right fun refuses => ?_
      exact and_congr_right fun denies => iff_of_true trivial (only s m refuses denies)
    · refine forall_congr' fun s => forall_congr' fun m => forall_congr' fun refuses => ?_
      refine forall_congr' fun denies => not_congr (iff_of_true trivial (only s m refuses denies))

/-- Any status that is no success may say that there is no such content, and only the words count: the
message of an error that is one as a value, and else the whole text. That a node which has not got it
says so with the status 500 is what decides between missing content and an unavailable store just when
no error of another status uses these words. -/
theorem get_classified {build : Http.Client.Builder} {url : String} {timeout : UInt64} {node : Ipfs}
    (connected : connect build url timeout = .ok node)
    (web : node.base.scheme = "http" ∨ node.base.scheme = "https") (id : ContentId) (reply : Reply) :
    ∃ asked, node.get id = .ok asked ∧
    Classified (fun _ => True) (heard? node.base reply) (asked.conclude reply) ∧
    (∀ status body w, heard? node.base reply = some ⟨status, some body⟩ →
      Http.Status.isSuccess status = false → Spells [] body w → ∀ message,
        (Refuses (heard? node.base reply) status message ↔ Words w body message)) ∧
    (Classified (· = 500) (heard? node.base reply) (asked.conclude reply) ↔
      ∀ status message, Refuses (heard? node.base reply) status message → Denies message →
        status = 500) := by
  obtain ⟨names, path⟩ := exists_segments_of_connect connected web
  obtain ⟨asked, got, _, concluded⟩ := exists_get web path id
  obtain ⟨sent, result, same⟩ := concluded reply
  have classified := classified_concludeCat id sent
  rw [← result, same] at classified
  refine ⟨asked, got, classified, ?_, classified.strict_iff⟩
  intro status body w heard failed spells message
  rw [heard]
  exact refuses_iff failed spells

def localNode : Ipfs :=
  ⟨⟨"http", some ⟨"", none, some (.address (.v4 0x7F000001)), some 5001⟩, .segments [""], none, none⟩⟩

theorem connect_localNode : connect (fun _ => .ok ()) "http://127.0.0.1:5001" 5 = .ok localNode := by
  decide +kernel

def absentId : ContentId :=
  ⟨"QmX", by decide, by decide, by decide⟩

def missingWords : List UInt8 :=
  Text.encode "\x7b\"Message\":\"merkledag: NOT FOUND\",\"Code\":0,\"Type\":\"error\"\x7d"

def noPageWords : List UInt8 :=
  Text.encode "404 page not found\n"

theorem heard?_localNode (status : Nat) (body : List UInt8) :
    heard? localNode.base (.whole status body) = some ⟨status, some body⟩ := by
  unfold heard?
  rw [if_pos (by decide)]

theorem get_classified_missing : connect (fun _ => .ok ()) "http://127.0.0.1:5001" 5 = .ok localNode ∧
    ∃ asked, localNode.get absentId = .ok asked ∧
      Classified (· = 500) (some ⟨500, some missingWords⟩) (asked.conclude (.whole 500 missingWords)) ∧
      Failed .notFound (asked.conclude (.whole 500 missingWords)) := by
  obtain ⟨asked, got, classified, _, strict⟩ :=
    get_classified connect_localNode (.inl rfl) absentId (.whole 500 missingWords)
  rw [heard?_localNode] at classified strict
  have refuses := @refuses_of_heard ⟨500, some missingWords⟩ rfl
  have denies := (saysNotFound_iff (errorMessage missingWords)).1 (by decide +kernel)
  refine ⟨connect_localNode, asked, got, strict.2 ?_,
    classified.missing.2 ⟨_, _, refuses, denies, trivial⟩⟩
  intro status message refuses' _
  exact (refuses'.unique refuses).1

theorem get_mistakes_noPage : connect (fun _ => .ok ()) "http://127.0.0.1:5001" 5 = .ok localNode ∧
    ∃ asked, localNode.get absentId = .ok asked ∧
      ¬ Classified (· = 500) (some ⟨404, some noPageWords⟩) (asked.conclude (.whole 404 noPageWords)) := by
  obtain ⟨asked, got, _, concluded⟩ := @exists_get localNode [""] (.inl rfl) rfl absentId
  refine ⟨connect_localNode, asked, got, fun strict => ?_⟩
  obtain ⟨sent, result, same⟩ := concluded (.whole 404 noPageWords)
  have classified := classified_concludeCat absentId sent
  rw [← result, same, heard?_localNode] at classified
  have refuses := @refuses_of_heard ⟨404, some noPageWords⟩ rfl
  have denies := (saysNotFound_iff (errorMessage noPageWords)).1 (by decide +kernel)
  exact absurd (classified.strict_iff.1 strict _ _ refuses denies) (by decide)

end Herald.Ipfs
