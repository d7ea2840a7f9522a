import Herald.Document

/-!
Objects kept by content: the canonical text of a document under the digest of that text. An object
that is there stays as it is; storing its document again changes nothing.
-/
namespace Herald

structure Objects where
  entries : List (ContentId × List UInt8)

namespace Objects

def empty : Objects := ⟨[]⟩

def get? (o : Objects) (id : ContentId) : Option (List UInt8) :=
  o.entries.lookup id

def contains (o : Objects) (id : ContentId) : Bool :=
  (o.get? id).isSome

def size (o : Objects) : Nat :=
  o.entries.length

def put (o : Objects) (d : Document) : ContentId × Objects :=
  (d.id, if o.contains d.id then o else ⟨(d.id, d.bytes) :: o.entries⟩)

/-- What is stored is read again whenever it is asked for. -/
def get (o : Objects) (id : ContentId) : Except Failure Document :=
  match o.get? id with
  | some bytes => Document.load bytes
  | none => .error (.notFound id.text)

@[simp] theorem get?_empty (id : ContentId) : empty.get? id = none :=
  rfl

theorem get?_put (o : Objects) (d : Document) (id : ContentId) :
    (o.put d).2.get? id = (o.get? id).or (if id = d.id then some d.bytes else none) := by
  by_cases there : o.contains d.id
  · obtain ⟨bytes, found⟩ := Option.isSome_iff_exists.1 there
    by_cases same : id = d.id <;> simp [put, there, same, found]
  · have absent : o.entries.lookup d.id = none :=
      Option.not_isSome_iff_eq_none.1 (by simpa only [contains, get?] using there)
    by_cases same : id = d.id
    · simp [put, there, same, get?, absent]
    · have other : (id == d.id) = false := beq_false_of_ne same
      simp [put, there, same, get?, List.lookup_cons, other]

end Objects

end Herald
