import Haske.Lib.Js
import Haske.Lightning.Proof
import Haske.Shared.Types

/-!
# The invoice API on the wire

The bodies of the answers, as the service writes them and as a script reads them.
-/

namespace Haske.Lightning

open Json Js

/-- The members of the serialised response, in the order of the fields. -/
def InvoiceResponse.members (response : InvoiceResponse) : List (String × Value) :=
  [("invoice_id", .str response.invoiceId), ("amount_msat", .nat response.amountMsat.toNat),
    ("invoice", .str response.invoice), ("invoice_qr_png", .str response.invoiceQrPng),
    ("invoice_qr_ascii", .str response.invoiceQrAscii),
    ("expires_at", .nat response.expiresAt.toNat)]

def InvoiceResponse.toText (response : InvoiceResponse) : String :=
  (Value.obj response.members).toText

def StatusResponse.members (response : StatusResponse) : List (String × Value) :=
  [("status", .str response.status), ("expires_at", .nat response.expiresAt.toNat),
    ("access_token", ofOption (response.accessToken.map .str)),
    ("access_qr_png", ofOption (response.accessQrPng.map .str)),
    ("access_qr_ascii", ofOption (response.accessQrAscii.map .str))]

def StatusResponse.toText (response : StatusResponse) : String :=
  (Value.obj response.members).toText

/-- The value that a script reads the body as. -/
def readInvoice (response : InvoiceResponse) : Value :=
  .obj [("invoice_id", .str response.invoiceId),
    ("amount_msat", .nat (toDouble response.amountMsat.toNat)),
    ("invoice", .str response.invoice), ("invoice_qr_png", .str response.invoiceQrPng),
    ("invoice_qr_ascii", .str response.invoiceQrAscii),
    ("expires_at", .nat (toDouble response.expiresAt.toNat))]

def readReport (response : StatusResponse) : Value :=
  .obj [("status", .str response.status),
    ("expires_at", .nat (toDouble response.expiresAt.toNat)),
    ("access_token", ofOption (response.accessToken.map .str)),
    ("access_qr_png", ofOption (response.accessQrPng.map .str)),
    ("access_qr_ascii", ofOption (response.accessQrAscii.map .str))]

lemma parse_invoice (response : InvoiceResponse) :
    Js.parse response.toText = some (readInvoice response) := by
  rw [InvoiceResponse.toText, Js.parse_toText (by
    simp [InvoiceResponse.members, Value.NoLiteral, NoLiteralMembers])]
  simp [reread, rereadMembers, InvoiceResponse.members, setMember, readInvoice]

lemma parse_report (response : StatusResponse) :
    Js.parse response.toText = some (readReport response) := by
  have hfield : ∀ field : Option String, (ofOption (field.map Value.str)).NoLiteral ∧
      reread (ofOption (field.map .str)) = ofOption (field.map .str) := by
    intro field
    cases field with
    | none => exact ⟨True.intro, rfl⟩
    | some text => exact ⟨True.intro, rfl⟩
  have hliteral : (Value.obj response.members).NoLiteral := by
    simp [StatusResponse.members, Value.NoLiteral, NoLiteralMembers, hfield]
  rw [StatusResponse.toText, Js.parse_toText hliteral, StatusResponse.members, reread]
  simp only [rereadMembers, hfield, readReport]
  simp [reread, setMember]

end Haske.Lightning
