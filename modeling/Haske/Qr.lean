import Haske.Lib.Base64

/-!
# QR codes

The rendering of a text as a QR code, as text and as a PNG in a data URL.  The QR and
the image library are a `QrLibrary`: building a code fails for a text that is too
long, and writing a PNG may fail.
-/

namespace Haske

structure QrLibrary where
  Code : Type
  /-- `QrCode::new`. -/
  new : List UInt8 → Option Code
  /-- The code drawn with characters, two to a module, without quiet zone. -/
  renderChar : Code → String
  /-- The PNG file of the code, at most `size` pixels wide and high. -/
  renderPng : Code → (size : ℕ) → Option (List UInt8)

section

variable (qr : QrLibrary)

def renderAsciiQr (payload : String) : Option String :=
  (qr.new (Utf8.asBytes payload)).map qr.renderChar

def renderPngDataUrl (payload : String) (size : ℕ) : Option String := do
  let code ← qr.new (Utf8.asBytes payload)
  let buf ← qr.renderPng code size
  let encoded := Base64.encode Base64.standard true buf
  some ("data:image/png;base64," ++ encoded)

end

/-- A library that draws every text. -/
def QrLibrary.total : QrLibrary where
  Code := Unit
  new _ := some ()
  renderChar _ := ""
  renderPng _ _ := some []

end Haske
