import Haske.Checkout.Page

/-!
# What the page draws

`render` as far as it can be seen when it does not throw: the codes and the buttons, the bar
below them, and the payment.  What is hidden, and the diagnosis that is written out after an
error, are not.  The page draws the code of the payment or that of the pass or its placeholder,
and one of them only (`one_code`).
-/

namespace Haske.Checkout

open Json Js

/-- The bar that says how far the payment is. -/
structure StatusBar where
  appearance : String
  main : String
  details : String
  note : String

/-- The payment that is written below a pass. -/
structure PaymentDetails where
  txHash : Value
  memo : Value
  asset : Value

structure View where
  /-- The code to scan. -/
  paymentQr : Option Value
  /-- The code to show at the entry. -/
  accessQr : Option Value
  placeholder : Bool
  dimmed : Bool
  /-- What the button opens; it is disabled without. -/
  wallet : Option Value
  /-- The bar, if it is written anew. -/
  status : Option StatusBar
  details : Option PaymentDetails
  /-- The label of the button for another try. -/
  retryButton : Option String
  newPassButton : Bool

section

variable (engine : Engine) (app : App)

/-- The value, if it is truthy. -/
def given (value : Option Value) : Option Value := if engine.truthy value then value else none

/-- A text that is neither missing nor empty, or the other one. -/
def textOr (text : Option String) (other : String) : String :=
  match text with
  | some text => if text = "" then other else text
  | none => other

def statusBar : Option StatusBar :=
  match app.state with
  | .init => none
  | .waiting => some
      { appearance := ""
        main := "Waiting for payment..."
        details := textOr (some app.statusText) "Secure session active"
        note := "Scan the QR or open it in a Stellar wallet to pay." }
  | .detected => some
      { appearance := "is-detected"
        main := "Payment detected"
        details := "Confirming on-chain"
        note := "Still waiting... This can take up to 30 seconds." }
  | .confirmed => some
      { appearance := "is-confirmed"
        main := "Verified & Ready"
        details := "Works offline"
        note := "Payment confirmed. Show this pass at entry." }
  | .expired => some
      { appearance := "is-expired"
        main := "Session expired"
        details := "Generate new pass"
        note := "The current payment session can no longer be used." }
  | .error => some
      { appearance := "is-error"
        main := "Something went wrong"
        details := "Retry"
        note := textOr app.lastError "Network recovery failed. Try again." }

def render : View :=
  let paymentQr :=
    if app.state = .confirmed then none else given engine (app.paymentProp "qr_png")
  let accessQr :=
    if app.state = .confirmed then given engine (app.accessProp "access_qr_png") else none
  { paymentQr := paymentQr
    accessQr := accessQr
    placeholder := !(paymentQr.isSome || accessQr.isSome)
    dimmed := app.state = .detected
    wallet := if app.state.isOpen then given engine (app.paymentProp "qr_payload") else none
    status := statusBar app
    details :=
      if app.state = .confirmed then some
        { txHash := orNull (engine.or (app.accessProp "tx_hash") (some (.str "n/a")))
          memo := orNull (engine.or (app.paymentProp "memo") (some (.str "n/a")))
          asset := orNull (engine.or (app.paymentProp "asset") (some (.str "n/a"))) }
      else none
    retryButton :=
      if app.state = .error then some "Retry"
      else if app.state = .expired then some "Try again"
      else none
    newPassButton := app.state = .expired }

end

variable {engine : Engine} {app : App}

lemma given_eq_some {value : Option Value} {v : Value} :
    given engine value = some v ↔ value = some v ∧ engine.truthy (some v) = true := by
  rw [given]
  constructor
  · intro h
    split at h
    · rename_i htruthy
      subst h
      exact ⟨rfl, htruthy⟩
    · cases h
  · rintro ⟨rfl, htruthy⟩
    exact if_pos htruthy

lemma render_paymentQr {v : Value} :
    (render engine app).paymentQr = some v ↔
      app.state ≠ .confirmed ∧ app.paymentProp "qr_png" = some v ∧
        engine.truthy (some v) = true := by
  rw [← given_eq_some, render]
  dsimp only
  split
  · rename_i hconfirmed
    exact iff_of_false nofun fun h => h.1 hconfirmed
  · rename_i hnot
    exact (and_iff_right hnot).symm

lemma render_accessQr {v : Value} :
    (render engine app).accessQr = some v ↔
      app.state = .confirmed ∧ app.accessProp "access_qr_png" = some v ∧
        engine.truthy (some v) = true := by
  rw [← given_eq_some, render]
  dsimp only
  split
  · rename_i hconfirmed
    exact (and_iff_right hconfirmed).symm
  · rename_i hnot
    exact iff_of_false nofun fun h => hnot h.1

lemma render_wallet {v : Value} :
    (render engine app).wallet = some v ↔
      app.state.isOpen = true ∧ app.paymentProp "qr_payload" = some v ∧
        engine.truthy (some v) = true := by
  rw [← given_eq_some, render]
  dsimp only
  split
  · rename_i hopen
    exact (and_iff_right hopen).symm
  · rename_i hnot
    exact iff_of_false nofun fun h => hnot h.1

/-- One of the two codes is drawn, or the placeholder. -/
lemma one_code (engine : Engine) (app : App) :
    ((render engine app).paymentQr = none ∨ (render engine app).accessQr = none) ∧
      ((render engine app).placeholder = true ↔
        (render engine app).paymentQr = none ∧ (render engine app).accessQr = none) := by
  constructor
  · by_cases hconfirmed : app.state = .confirmed
    · exact Or.inl (if_pos hconfirmed)
    · exact Or.inr (if_neg hconfirmed)
  · show (!((render engine app).paymentQr.isSome || (render engine app).accessQr.isSome)) = true ↔ _
    simp

end Haske.Checkout
