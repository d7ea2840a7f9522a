import Herald.ContentId
import Herald.Json.Canonical
import Herald.Json.Printer
import Herald.Json.Reader
import Herald.Repair

/-!
Documents: JSON values in canonical form. A document has one text, and the digest of that text is
its identifier. Producers' bytes are repaired before they are read; stored bytes are read as they
are.
-/
namespace Herald

structure Document where
  value : Json.Value
  ordered : value.Ordered
deriving DecidableEq

namespace Document

def ofValue (v : Json.Value) : Document :=
  ⟨v.canonical, v.ordered_canonical⟩

def bytes (d : Document) : List UInt8 :=
  d.value.print

def id (d : Document) : ContentId :=
  .ofData d.bytes

inductive Fault where
  | notUtf8 (fault : Text.Utf8Fault)
  | notJson (text : List UInt8) (fault : Json.Fault)
deriving DecidableEq

/-- Reads bytes from a producer. -/
def normalize (raw : List UInt8) : Except Fault Document :=
  match Text.decode raw with
  | .error fault => .error (.notUtf8 fault)
  | .ok _ =>
    match Json.parse (Repair.text raw) with
    | .error fault => .error (.notJson (Repair.text raw) fault)
    | .ok v => .ok (ofValue v)

/-- Reads stored bytes. -/
def ofBytes (bytes : List UInt8) : Except Json.Fault Document :=
  (Json.parse bytes).map ofValue

def Fault.message : Fault → String
  | .notUtf8 fault => s!"input is not UTF-8: {fault.message}"
  | .notJson text fault => s!"invalid JSON: {fault.message text}"

def submit (raw : List UInt8) : Except Failure Document :=
  (normalize raw).mapError fun fault => .malformed fault.message

def load (bytes : List UInt8) : Except Failure Document :=
  (ofBytes bytes).mapError fun fault =>
    .malformed s!"stored content is not JSON: {fault.message bytes}"

theorem ofValue_value (d : Document) : ofValue d.value = d := by
  obtain ⟨v, h⟩ := d
  simp [ofValue, Json.Value.canonical_of_ordered v h]

end Document

end Herald
