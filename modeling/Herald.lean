import Herald.Main
import Herald.Proofs.Apostrophes
import Herald.Proofs.BasePath
import Herald.Proofs.Calls
import Herald.Proofs.Failing
import Herald.Proofs.Forms
import Herald.Proofs.Ingests
import Herald.Proofs.Lookup
import Herald.Proofs.Newest
import Herald.Proofs.Node
import Herald.Proofs.NormalForm
import Herald.Proofs.Nulls
import Herald.Proofs.Opening
import Herald.Proofs.Origins
import Herald.Proofs.Payloads
import Herald.Proofs.Permissive
import Herald.Proofs.Remote
import Herald.Proofs.Requests
import Herald.Proofs.Spellings
import Herald.Proofs.Whisper
import Herald.Settings.Backends
import Herald.Wire
