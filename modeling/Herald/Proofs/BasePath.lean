import Herald.Proofs.Replies
import Herald.Proofs.Text.Pieces
import Mathlib.Data.List.Induction

/-!
The base of an IPFS node's interface. The path of a URL of the web is in its final form: reading its text
again changes nothing, since no segment has anything left in it to be escaped, cut or resolved. So the
base keeps every segment that it was given, and the commands lie right below.
-/
namespace Herald

namespace Url

/-- A segment that is read as it is written. -/
structure Settled (segment : String) : Prop where
  plain : ∀ c ∈ segment.toList, Plain inPath c ∧ isSlash true c = false
  double : isDoubleDot segment = false
  single : isSingleDot segment = false

theorem inPath_of_large (b : UInt8) (large : 0x80 ≤ b) : inPath b = true := by
  have control : 0x7F ≤ b := UInt8.le_trans (by decide) large
  simp [inPath, inFragment, Host.isControl, control]

theorem plain_of_isMark {c : Char} (mark : Text.Percent.isMark c = true) :
    Plain inPath c ∧ isSlash true c = false := by
  have all : "%0123456789ABCDEF".toList.all fun c =>
      (c.toNat < 0x80 ∧ inPath (UInt8.ofNat c.toNat) = false) ∧ isSlash true c = false := by decide +kernel
  exact (of_decide_eq_true (List.all_eq_true.1 all c (List.contains_iff_mem.1 mark)) :)

theorem settled_empty : Settled "" :=
  ⟨nofun, by decide +kernel, by decide +kernel⟩

theorem resolveDots_cons (mends : Bool) (front : List String) (segment : String) (rest : List String) :
    resolveDots mends front (segment :: rest) =
      resolveDots mends (addSegment mends front segment rest.isEmpty) rest := by
  cases rest <;> simp [resolveDots]

theorem mem_addSegment {front : List String} {added segment : String} {last : Bool}
    (mem : segment ∈ addSegment false front added last) : segment ∈ front ∨ segment = "" ∨
      (segment = added ∧ isDoubleDot segment = false ∧ isSingleDot segment = false) := by
  have kept : ∀ x ∈ shorten front, x ∈ front := by
    unfold shorten
    split
    · exact fun _ mem => mem
    · exact fun _ mem => List.dropLast_subset _ mem
  unfold addSegment at mem
  rw [Bool.false_and, Bool.false_and, if_neg Bool.false_ne_true] at mem
  split_ifs at mem with double final single final <;>
    simp only [List.mem_append, List.mem_singleton, List.not_mem_nil, or_false] at mem
  · exact mem.imp (kept _) .inl
  · exact .inl (kept _ mem)
  · exact mem.imp id .inl
  · exact .inl mem
  · exact mem.imp id fun same => .inr (by subst same; exact ⟨rfl, by simpa using double, by simpa using single⟩)

theorem mem_resolveDots {raw : List String} : ∀ {front : List String} {segment : String},
    segment ∈ resolveDots false front raw → segment ∈ front ∨ segment = "" ∨
      (segment ∈ raw ∧ isDoubleDot segment = false ∧ isSingleDot segment = false) := by
  induction raw with
  | nil => exact fun mem => .inl mem
  | cons added rest ih =>
    intro front segment mem
    rw [resolveDots_cons] at mem
    obtain front | rfl | ⟨later, dots⟩ := ih mem
    · obtain here | rfl | ⟨rfl, dots⟩ := mem_addSegment front
      · exact .inl here
      · exact .inr (.inl rfl)
      · exact .inr (.inr ⟨.head _, dots⟩)
    · exact .inr (.inl rfl)
    · exact .inr (.inr ⟨.tail _ later, dots⟩)

theorem settled_of_mem_segmentsOf {cs : List Char} {segment : String} (mem : segment ∈ segmentsOf true cs) :
    Settled segment := by
  obtain here | rfl | ⟨raw, double, single⟩ := mem_resolveDots mem
  · cases here
  · exact settled_empty
  · refine ⟨fun c inside => ?_, double, single⟩
    obtain ⟨piece, cut, rfl⟩ := List.mem_map.1 raw
    obtain ⟨here, plain⟩ | mark := mem_escaped inPath_of_large inside
    · exact ⟨plain, (Text.solid_of_mem_pieces cut here).2⟩
    · exact plain_of_isMark mark

theorem toList_text (names : List String) :
    (Path.segments names).text.toList = names.flatMap ('/' :: ·.toList) := by
  simp [Path.text, String.toList_join, List.flatMap_map]

theorem text_append (front back : List String) :
    (Path.segments (front ++ back)).text = (Path.segments front).text ++ (Path.segments back).text := by
  rw [← String.toList_inj, String.toList_append, toList_text, toList_text, toList_text, List.flatMap_append]

theorem isGap_of_plain {c : Char} (plain : Plain inPath c) : isGap c = false := by
  cases gap : isGap c with
  | false => rfl
  | true =>
    have here : (c = '\t' ∨ c = '\n') ∨ c = '\r' := by simpa [isGap] using gap
    have control : inPath (UInt8.ofNat c.toNat) = true := by
      obtain (rfl | rfl) | rfl := here <;> decide +kernel
    rw [plain.2] at control
    contradiction

theorem withoutGaps_of_settled {names : List String} (settled : ∀ name ∈ names, Settled name) :
    withoutGaps (Path.segments names).text.toList = (Path.segments names).text.toList := by
  refine List.filter_eq_self.2 fun c mem => ?_
  rw [toList_text] at mem
  obtain ⟨name, here, inside⟩ := List.mem_flatMap.1 mem
  obtain rfl | inside := List.mem_cons.1 inside
  · decide
  · rw [isGap_of_plain ((settled name here).plain c inside).1]
    rfl

theorem segmentsOf_text {first : String} {rest : List String}
    (settled : ∀ name ∈ first :: rest, Settled name) :
    segmentsOf true (dropSlash true (withoutGaps (Path.segments (first :: rest)).text.toList)) =
      first :: rest := by
  have cut : Text.pieces (isSlash true) (first.toList ++ rest.flatMap ('/' :: ·.toList)) =
      (first :: rest).map String.toList := by
    have solid : ∀ piece ∈ first.toList :: rest.map String.toList, ∀ c ∈ piece, isSlash true c = false := by
      rw [← List.map_cons, List.forall_mem_map]
      exact fun name mem c inside => ((settled name mem).plain c inside).2
    have joined := Text.pieces_joined (rfl : isSlash true '/' = true) solid
    rwa [List.flatMap_map] at joined
  have raw : rawSegments true (first.toList ++ rest.flatMap ('/' :: ·.toList)) = first :: rest := by
    rw [rawSegments, cut, List.map_map]
    refine (List.map_congr_left fun name mem => ?_).trans (List.map_id _)
    rw [Function.comp_apply, escaped_eq_self fun c inside => ((settled name mem).plain c inside).1,
      String.ofList_toList, id_eq]
  have resolved := resolveDots_of_plain fun name mem => ⟨(settled name mem).double, (settled name mem).single⟩
  rw [withoutGaps_of_settled settled, toList_text, List.flatMap_cons, List.cons_append, dropSlash,
    if_pos (show isSlash true '/' = true from rfl), segmentsOf, raw, resolved, List.nil_append]

theorem getLast?_text_iff {names : List String} (settled : ∀ name ∈ names, Settled name) :
    (Path.segments names).text.toList.getLast? = some '/' ↔ ∃ front, names = front ++ [""] := by
  constructor
  · intro ends
    rw [toList_text] at ends
    cases names using List.reverseRecOn with
    | nil => contradiction
    | append_singleton front last =>
      refine ⟨front, ?_⟩
      rw [List.flatMap_append, List.flatMap_singleton, List.getLast?_append_cons] at ends
      cases chars : last.toList with
      | nil => rw [← String.ofList_toList (s := last), chars, String.ofList_nil]
      | cons c rest =>
        rw [chars, List.getLast?_cons_cons] at ends
        -- A slash inside the last segment would have divided it.
        have inside : '/' ∈ last.toList := chars ▸ List.mem_of_getLast? ends
        have solid := ((settled last (by simp)).plain '/' inside).2
        contradiction
  · rintro ⟨front, rfl⟩
    rw [toList_text, List.flatMap_append, List.flatMap_singleton, List.getLast?_append_cons]
    rfl

theorem directory_of_settled {u : Url} {names : List String} (path : u.path = .segments names)
    (settled : ∀ name ∈ names, Settled name) (web : u.scheme = "http" ∨ u.scheme = "https") :
    ∃ front, u.directory = { u with path := .segments (front ++ [""]) } ∧
      (Path.segments (front ++ [""])).text =
        if u.path.text.toList.getLast? = some '/' then u.path.text else u.path.text ++ "/" := by
  obtain ⟨special, noFile⟩ := isSpecial_of_web web
  simp only [directory]
  split
  · next ends =>
    rw [path] at ends ⊢
    obtain ⟨front, rfl⟩ := (getLast?_text_iff settled).1 ends
    exact ⟨front, by rw [← path], rfl⟩
  · have settled' : ∀ name ∈ names ++ [""], Settled name := by
      simpa [or_imp, forall_and, settled_empty] using settled
    have longer : (Path.segments (names ++ [""])).text = u.path.text ++ "/" := by
      rw [text_append, path]
      rfl
    -- The longer path is read from its text, which finds the segments that it was written from.
    obtain ⟨first, rest, cut⟩ := List.exists_cons_of_ne_nil (List.append_ne_nil_of_right_ne_nil names
      (List.cons_ne_nil "" []))
    have again := segmentsOf_text (cut ▸ settled')
    rw [← cut, longer, String.toList_append] at again
    refine ⟨names, ?_, longer⟩
    rw [withPath_segments path]
    simp only [special, noFile, decide_false]
    exact congrArg (fun names => { u with path := .segments names }) again

end Url

namespace Ipfs

structure Below (base : Url) (tail query : String) (u : Url) : Prop where
  scheme : u.scheme = base.scheme
  host : u.authority.bind (·.host) = base.authority.bind (·.host)
  port : u.authority.bind (·.port) = base.authority.bind (·.port)
  path : u.path.text = base.path.text ++ tail
  query : u.query = some query
  fragment : u.fragment = none

theorem below_place {node : Ipfs} {front : List String} (path : node.base.path = .segments (front ++ [""]))
    (command query : String) : Below node.base ("api/v0/" ++ command) query
      (node.place (front ++ [""]) command query) := by
  refine ⟨rfl, rfl, rfl, ?_, rfl, rfl⟩
  rw [place, List.dropLast_concat, path, Url.text_append, Url.text_append, String.append_assoc]
  congr 1

theorem Below.withoutCredentials {base u : Url} {tail query : String} (below : Below base tail query u) :
    Below base tail query (Http.Client.withoutCredentials u) := by
  obtain ⟨a, same, host, port⟩ := Http.Client.withoutCredentials_eq u
  rw [same]
  exact ⟨below.scheme, host.trans below.host, port.trans below.port, below.path, below.query, below.fragment⟩

/-- A request that is made, and sent, to the place of a command right below the base. -/
def Asks (node : Ipfs) (command query : String) (call : Http.Call) : Prop :=
  Below node.base ("api/v0/" ++ command) query call.url ∧
    Below node.base ("api/v0/" ++ command) query (Http.Client.withoutCredentials call.url)

/-- The base of a node has the path that it was given, with a slash at its end, and all commands lie right
below it: whatever else the URL held, there are no other segments and there is no other query. -/
theorem base_path_kept {build : Http.Client.Builder} {text : String} {timeout : UInt64} {node : Ipfs}
    (connected : connect build text timeout = .ok node)
    (web : node.base.scheme = "http" ∨ node.base.scheme = "https") :
    (∃ u, Url.read text = .ok u ∧ node.base = { u with path := node.base.path } ∧
      node.base.path.text =
        if u.path.text.toList.getLast? = some '/' then u.path.text else u.path.text ++ "/") ∧
    (∀ d, ∃ asked, node.put d = .ok asked ∧ node.addCall d = .ok asked.call ∧
      node.Asks "add" "pin=true" asked.call) ∧
    ∀ id, ∃ asked, node.get id = .ok asked ∧ node.catCall id = .ok asked.call ∧
      node.Asks "cat" ("arg=" ++ id.text) asked.call := by
  obtain ⟨u, read, given⟩ := exists_url_of_connect connected
  rw [given, u.scheme_directory] at web
  obtain ⟨cs, path⟩ := Url.path_of_read read web
  obtain ⟨front, same, ending⟩ :=
    Url.directory_of_settled path (fun _ => Url.settled_of_mem_segmentsOf) web
  rw [← given] at same
  have base : node.base.path = .segments (front ++ [""]) := by rw [same]
  have noFile : node.base.scheme ≠ "file" := by
    rw [same]
    exact (Url.isSpecial_of_web web).2
  have asks (command query : String) (content : Http.Content) :
      node.Asks command query ⟨node.place (front ++ [""]) command query, content⟩ := by
    have below := below_place base command query
    exact ⟨below, below.withoutCredentials⟩
  refine ⟨⟨u, read, ?_, ?_⟩, fun d => ?_, fun id => ?_⟩
  · rw [base, same]
  · rw [base, ending]
  · obtain ⟨headers, called⟩ := addCall_eq noFile base d
    exact ⟨_, put_of_addCall called, called, asks "add" "pin=true" _⟩
  · have called := catCall_eq noFile base id
    exact ⟨_, get_of_catCall called, called, asks "cat" _ _⟩

def dottedNode : Ipfs :=
  ⟨⟨"https", some ⟨"me", some "pw", some (.name "node"), some 8443⟩,
    .segments ["a", "", "c%20d%2Fe", ""], some "x=1", some "y"⟩⟩

theorem base_path_kept_dotted :
    connect (fun _ => .ok ()) "HTTPS://me:pw@Node:8443/a/./b/..//%2e/c d%2Fe?x=1#y" 5 = .ok dottedNode ∧
      ∃ asked, dottedNode.get ⟨"Qm1", by decide, by decide, by decide⟩ = .ok asked ∧
        asked.call.url.path.text = "/a//c%20d%2Fe/api/v0/cat" ∧
        asked.call.url.query = some "arg=Qm1" ∧ asked.call.url.fragment = none := by
  have connected : connect (fun _ => .ok ()) "HTTPS://me:pw@Node:8443/a/./b/..//%2e/c d%2Fe?x=1#y" 5 =
      .ok dottedNode := by decide +kernel
  obtain ⟨_, _, cats⟩ := base_path_kept connected (.inr rfl)
  obtain ⟨asked, gets, _, below, _⟩ := cats ⟨"Qm1", by decide, by decide, by decide⟩
  exact ⟨connected, asked, gets, below.path.trans (by decide +kernel), below.query, below.fragment⟩

end Ipfs

end Herald
