import Herald.Text.Pieces
import Herald.Text.Utf8
import Herald.Url.Label

/-!
Domain names in ASCII. Their text is brought into normal form and cut at its points into labels. If
some label is written from the right, each must keep to one direction.
-/
namespace Herald.Url.Domain

def keepsOrder (labels : List Label) : Bool :=
  !labels.any Label.isFromRight || labels.all Label.isOneRun

def toAscii? (bytes : List UInt8) : Option String := do
  let text ← Text.decode? bytes
  let cs ← Folding.normal? text.toList
  let labels ← (Text.pieces (· = '.') cs).mapM Label.ofChars?
  guard (keepsOrder labels)
  return String.ofList (['.'].intercalate (labels.map (·.written)))

end Herald.Url.Domain
