import Herald.Failure
import Herald.Http.Route

/-!
Counters and their exposition text. A counter that was never incremented has no line; one that was
incremented too often starts again from zero.
-/
namespace Herald

inductive Counter where
  | requests (endpoint : Http.Endpoint)
  | documents
  | failures (kind : Kind)
deriving DecidableEq, Repr

structure Meter where
  entries : List (Counter × UInt64)

namespace Meter

def zero : Meter := ⟨[]⟩

def find? (m : Meter) (c : Counter) : Option UInt64 :=
  m.entries.lookup c

def count (m : Meter) (c : Counter) : UInt64 :=
  (m.find? c).getD 0

def increment (m : Meter) (c : Counter) : Meter :=
  ⟨(c, m.count c + 1) :: m.entries.filter (·.1 ≠ c)⟩

theorem lookup_filter_ne {α β : Type} [DecidableEq α] {c d : α} (h : d ≠ c)
    (entries : List (α × β)) :
    (entries.filter (·.1 ≠ c)).lookup d = entries.lookup d := by
  induction entries with
  | nil => rfl
  | cons e rest ih =>
    obtain ⟨k, n⟩ := e
    by_cases hk : k = c
    · subst hk
      simpa [List.lookup_cons, beq_false_of_ne h] using ih
    · simp only [ne_eq, decide_not] at ih
      simp [hk, List.lookup_cons, ih]

theorem find?_increment (m : Meter) (c d : Counter) :
    (m.increment c).find? d = if d = c then some (m.count c + 1) else m.find? d := by
  by_cases h : d = c
  · subst h; simp [find?, increment]
  · have other : (d == c) = false := beq_false_of_ne h
    simp only [find?, increment, List.lookup_cons, other, if_neg h]
    exact lookup_filter_ne h m.entries

theorem count_increment (m : Meter) (c d : Counter) :
    (m.increment c).count d = m.count d + if d = c then 1 else 0 := by
  rw [count, find?_increment]
  by_cases h : d = c
  · subst h; simp
  · simp [h, count]

structure Family where
  name : String
  members : List (Counter × String)

def requests : Family where
  name := "relay_http_requests_total"
  members := Http.Endpoint.all.map fun e => (.requests e, "\x7bendpoint=\"" ++ e.label ++ "\"\x7d")

def documents : Family where
  name := "relay_ingest_documents_total"
  members := [(.documents, "")]

def failures : Family where
  name := "relay_ingest_failures_total"
  members := Kind.all.map fun k => (.failures k, "\x7bkind=\"" ++ k.label ++ "\"\x7d")

def line? (m : Meter) (name : String) (member : Counter × String) : Option String :=
  (m.find? member.1).map fun n => name ++ member.2 ++ " " ++ n.toNat.repr

def lines (m : Meter) (f : Family) : List String :=
  match f.members.filterMap (m.line? f.name) with
  | [] => []
  | counts => ("# TYPE " ++ f.name ++ " counter") :: counts ++ [""]

def shown (m : Meter) : List String :=
  [requests, documents, failures].flatMap m.lines

def exposition (m : Meter) : String :=
  String.join (m.shown.map (· ++ "\n"))

end Meter

end Herald
