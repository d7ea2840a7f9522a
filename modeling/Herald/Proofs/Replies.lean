import Herald.Proofs.Escapes
import Herald.Proofs.Results
import Herald.Store.Ipfs

/-!
Where the requests to an IPFS node go, and what is heard of the replies. Every URL of the usual kind has
a place for the interface below it; a request to it is sent unless the name of the host cannot be, and
then it is as if the connection were lost.
-/
namespace Herald

def Failed {α : Type} (kind : Kind) (result : Except Failure α) : Prop :=
  ∃ f, result = .error f ∧ f.kind = kind

@[simp] theorem failed_error {α : Type} {kind : Kind} {f : Failure} :
    Failed kind (.error f : Except Failure α) ↔ f.kind = kind := by
  constructor
  · rintro ⟨_, ⟨⟩, same⟩
    exact same
  · intro same
    exact ⟨f, rfl, same⟩

namespace Http.Client

/-- What is heard of a reply to a request that goes to `url`. -/
def heard? (url : Url) (reply : Reply) : Option Answer :=
  if isSendable url then
    match reply with
    | .lost => none
    | .cut status => some ⟨status, none⟩
    | .whole status body => some ⟨status, some body⟩
  else none

theorem isSendable_congr {u v : Url} (scheme : u.scheme = v.scheme)
    (host : u.authority.bind (·.host) = v.authority.bind (·.host)) : isSendable u = isSendable v := by
  rw [isSendable, isSendable, scheme, host]

theorem withoutCredentials_eq (url : Url) : ∃ a, withoutCredentials url = { url with authority := a } ∧
    a.bind (·.host) = url.authority.bind (·.host) ∧ a.bind (·.port) = url.authority.bind (·.port) := by
  unfold withoutCredentials
  split
  · exact ⟨_, rfl, rfl, rfl⟩
  · next a authority =>
    split
    · exact ⟨_, rfl, rfl, rfl⟩
    · split
      · exact ⟨_, rfl, rfl, rfl⟩
      · exact ⟨_, rfl, by rw [authority]; rfl, by rw [authority]; rfl⟩

theorem isSendable_withoutCredentials (url : Url) :
    isSendable (withoutCredentials url) = isSendable url := by
  obtain ⟨a, same, host, _⟩ := withoutCredentials_eq url
  rw [same]
  exact isSendable_congr rfl host

theorem toOption_send (call : Call) (reply : Reply) :
    (send call reply).toOption = heard? call.url reply := by
  unfold send heard?
  simp only [isSendable_withoutCredentials]
  cases isSendable call.url with
  | false => rfl
  | true => cases reply <;> rfl

theorem send_eq_ok_iff {call : Call} {reply : Reply} {answer : Answer} :
    send call reply = .ok answer ↔ heard? call.url reply = some answer := by
  rw [← toOption_send]
  cases send call reply <;> simp [Except.toOption]

end Http.Client

namespace Url

theorem path_of_readHierarchy {scheme : String} {cs : List Char} {u : Url}
    (read : readHierarchy scheme cs = .ok u) :
    u.scheme = scheme ∧ ∃ path, u.path = readPath (isSpecial scheme) path := by
  simp only [readHierarchy, bind_eq_ok_iff, Prod.exists] at read
  obtain ⟨authority, rest, _, read⟩ := read
  cases read
  exact ⟨rfl, _, rfl⟩

theorem scheme_of_readFile {cs : List Char} {u : Url} (read : readFile cs = .ok u) :
    u.scheme = "file" := by
  unfold readFile at read
  dsimp only at read
  -- With an authority and without one, a host is looked for or there is no place for it.
  split at read
  · split at read
    · cases read
      rfl
    · obtain ⟨host, _, read⟩ := bind_eq_ok_iff.1 read
      cases read
      rfl
  · split at read
    · cases read
      rfl
    · obtain ⟨host, _, read⟩ := bind_eq_ok_iff.1 read
      cases read
      rfl

theorem isSpecial_of_web {scheme : String} (web : scheme = "http" ∨ scheme = "https") :
    isSpecial scheme = true ∧ scheme ≠ "file" := by
  obtain rfl | rfl := web <;> decide +kernel

theorem path_of_read {text : String} {u : Url} (read : Url.read text = .ok u)
    (web : u.scheme = "http" ∨ u.scheme = "https") : ∃ cs, u.path = .segments (segmentsOf true cs) := by
  obtain ⟨special, noFile⟩ := isSpecial_of_web web
  unfold Url.read at read
  simp only at read
  split at read
  · exact absurd (scheme_of_readFile read) noFile
  · next scheme rest _ _ =>
    unfold readScheme at read
    split at read
    · next usual =>
      obtain ⟨_, cs, path⟩ := path_of_readHierarchy read
      rw [path, usual, readPath, Bool.not_true, Bool.and_false, if_neg Bool.false_ne_true]
      exact ⟨_, rfl⟩
    · next plain =>
      -- A scheme of another kind is that of the URL.
      have same : u.scheme = scheme := by
        split at read
        · exact (path_of_readHierarchy read).1
        · cases read
          rfl
        · cases read
          rfl
      exact absurd (same ▸ special) plain
  · contradiction

theorem resolveDots_of_plain {path : List String}
    (plain : ∀ segment ∈ path, isDoubleDot segment = false ∧ isSingleDot segment = false) :
    ∀ segments, resolveDots false segments path = segments ++ path := by
  have step : ∀ segments, ∀ segment ∈ path, ∀ last,
      addSegment false segments segment last = segments ++ [segment] := by
    intro segments segment mem last
    obtain ⟨double, single⟩ := plain segment mem
    simp [addSegment, double, single]
  clear plain
  induction path with
  | nil => simp [resolveDots]
  | cons segment rest ih =>
    intro segments
    have first := step segments segment (.head _)
    cases rest with
    | nil => rw [resolveDots, first]
    | cons next rest =>
      rw [resolveDots, first, ih fun segments s mem => step segments s (.tail _ mem)]
      · simp
      · exact nofun

theorem withPath_segments {u : Url} {names : List String} (path : u.path = .segments names)
    (text : List Char) : u.withPath text =
      let special := isSpecial u.scheme
      { u with path := .segments (resolveDots (u.scheme = "file") []
        (rawSegments special (dropSlash special (withoutGaps text)))) } := by
  unfold withPath
  rw [path]

theorem scheme_directory (u : Url) : u.directory.scheme = u.scheme := by
  simp only [directory]
  split
  · rfl
  · unfold withPath
    split <;> rfl

end Url

namespace Ipfs

def place (node : Ipfs) (names : List String) (command query : String) : Url :=
  { node.base with
    path := .segments (names.dropLast ++ ["api", "v0", command])
    query := some query
    fragment := none }

theorem exists_url_of_connect {build : Http.Client.Builder} {url : String} {timeout : UInt64}
    {node : Ipfs} (connected : connect build url timeout = .ok node) :
    ∃ u, Url.read url = .ok u ∧ node.base = u.directory := by
  unfold connect at connected
  simp only [bind_eq_ok_iff] at connected
  obtain ⟨_, _, u, read, same⟩ := connected
  cases same
  exact ⟨u, mapError_eq_ok_iff.1 read, rfl⟩

theorem exists_segments_of_connect {build : Http.Client.Builder} {url : String} {timeout : UInt64}
    {node : Ipfs} (connected : connect build url timeout = .ok node)
    (web : node.base.scheme = "http" ∨ node.base.scheme = "https") :
    ∃ names, node.base.path = .segments names := by
  obtain ⟨u, read, same⟩ := exists_url_of_connect connected
  rw [same, u.scheme_directory] at web
  obtain ⟨cs, path⟩ := Url.path_of_read read web
  rw [same]
  simp only [Url.directory]
  split
  · exact ⟨_, path⟩
  · rw [Url.withPath_segments path]
    exact ⟨_, rfl⟩

theorem endpoint_eq {node : Ipfs} {names : List String} {command : String}
    (web : node.base.scheme ≠ "file") (path : node.base.path = .segments names)
    (known : command = "add" ∨ command = "cat") (query : String) :
    node.endpoint command query = .ok (node.place names command query) := by
  have plain : ∀ segment ∈ ["api", "v0", command],
      Url.isDoubleDot segment = false ∧ Url.isSingleDot segment = false := by
    obtain rfl | rfl := known <;> decide +kernel
  unfold endpoint Url.below
  rw [path]
  simp only [web, decide_false, Url.resolveDots_of_plain plain]
  rfl

theorem addCall_eq {node : Ipfs} {names : List String} (web : node.base.scheme ≠ "file")
    (path : node.base.path = .segments names) (d : Document) : ∃ headers,
      node.addCall d = .ok ⟨node.place names "add" "pin=true", .upload headers d.bytes⟩ := by
  rw [addCall, Url.formPair_pin, endpoint_eq web path (.inl rfl)]
  exact ⟨_, rfl⟩

theorem catCall_eq {node : Ipfs} {names : List String} (web : node.base.scheme ≠ "file")
    (path : node.base.path = .segments names) (id : ContentId) :
    node.catCall id = .ok ⟨node.place names "cat" ("arg=" ++ id.text), .none⟩ := by
  rw [catCall, Url.formPair_arg, endpoint_eq web path (.inr rfl)]
  rfl

theorem put_of_addCall {node : Ipfs} {d : Document} {call : Http.Call}
    (called : node.addCall d = .ok call) :
    node.put d = .ok ⟨call, fun reply => concludeAdd (Http.Client.send call reply)⟩ := by
  rw [put, called]
  rfl

theorem get_of_catCall {node : Ipfs} {id : ContentId} {call : Http.Call}
    (called : node.catCall id = .ok call) :
    node.get id = .ok ⟨call, fun reply => concludeCat id (Http.Client.send call reply)⟩ := by
  rw [get, called]
  rfl

theorem heard?_place (node : Ipfs) (names : List String) (command query : String) (reply : Http.Reply) :
    Http.Client.heard? (node.place names command query) reply = Http.Client.heard? node.base reply := by
  have same := @Http.Client.isSendable_congr (node.place names command query) node.base rfl rfl
  simp only [Http.Client.heard?, same]

end Ipfs

end Herald
