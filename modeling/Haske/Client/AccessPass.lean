import Haske.Client.Store
import Haske.Verifier.Rendering

/-!
# The pass on the page

What the page draws once the payment is confirmed: the code that came with the pass, or one
of the pass as the page writes it, the payment, and the seconds that the pass is still valid.

The page has the pass as the value that it read.  Written again, this value is a pass with the
same token, as long as the page reads the expiry as it is (`stringify_of_represents`).
-/

namespace Haske

open Json Js Serde

/-- What `AccessPass` draws. -/
structure PassView where
  qrValue : String
  /-- The image that is drawn in the place of a code of `qrValue`. -/
  image : Option Value
  txHash : Value
  memo : Value
  asset : Value

section

variable (engine : Engine) (large : ℕ → String)

/-- The text of the code that `AccessPass` draws itself. -/
def qrValue : Value → String
  | .str text => text
  | value => stringify large value

/-- `AccessPass`; nothing is drawn without a pass. -/
def accessPass (state : PaymentState) : Option PassView :=
  if engine.truthy (some state.accessToken) then
    let png := prop state.accessData "access_qr_png"
    some
      { qrValue := qrValue large state.accessToken
        image := if engine.truthy png then png else none
        txHash := orNull (engine.or (prop state.accessData "tx_hash") (some (.str "n/a")))
        memo := orNull (engine.or (prop state.paymentData "memo") (some (.str "n/a")))
        asset := orNull (engine.or (prop state.paymentData "asset") (some (.str "n/a"))) }
  else none

/-- The seconds that `Countdown` shows at the time `ms`; of values that are no natural numbers
this is left open. -/
def countdown (expiresAt : Value) (ms : ℕ) : Option ℕ :=
  match expiresAt with
  | .nat n => some (n - ms / 1000)
  | value => if engine.truthy (some value) then none else some 0

end

lemma accessPass_of_truthy {engine : Engine} {state : PaymentState}
    (h : engine.truthy (some state.accessToken) = true) (large : ℕ → String) :
    ∃ view, accessPass engine large state = some view ∧
      view.qrValue = qrValue large state.accessToken ∧
      ∀ png, prop state.accessData "access_qr_png" = some png →
        engine.truthy (some png) = true → view.image = some png := by
  refine ⟨_, if_pos h, rfl, ?_⟩
  intro png hpng htruthy
  simp only [hpng]
  exact if_pos htruthy

/-! ### The pass written again -/

namespace SignedAccessToken

variable {signed : SignedAccessToken} {v : Value}

/-- The members of a token are numbers and strings, and all but the expiry are small. -/
lemma simple_of_mem_members {t : AccessToken} (hexpires : t.expiresAt.toNat < 2 ^ 53)
    {m : String × Value} (hm : m ∈ t.members) : Simple m.2 := by
  simp only [AccessToken.members, List.mem_cons, List.not_mem_nil, or_false] at hm
  have h₈ := t.version.toNat_lt
  have h₃₂ := t.ledger.toNat_lt
  rcases hm with rfl | rfl | rfl | rfl | rfl | rfl | rfl | rfl | rfl | rfl | rfl
  all_goals first
    | exact True.intro
    | exact hexpires
    | (simp only [Simple]; omega)

/-- A script reads and writes a pass as it is. -/
lemma Represents.unchanged (h : signed.Represents v)
    (hexpires : signed.token.expiresAt.toNat < 2 ^ 53) (large : ℕ → String) :
    reread v = v ∧ printed large v = v := by
  obtain ⟨tms, ms, htoken, hms, rfl⟩ := h
  have hsimple : ∀ m ∈ tms, Simple m.2 :=
    fun m hm => simple_of_mem_members hexpires (htoken.subset hm)
  have htms : reread (.obj tms) = .obj tms ∧ printed large (.obj tms) = .obj tms := by
    refine ⟨reread_obj ?_ fun m hm => reread_simple (hsimple m hm),
      printed_obj fun m hm => printed_simple (hsimple m hm)⟩
    exact (htoken.map Prod.fst).nodup_iff.2 signed.token.members_nodup
  have hmem : ∀ m ∈ ms, reread m.2 = m.2 ∧ printed large m.2 = m.2 := by
    intro m hm
    have hcases := hms.subset hm
    simp only [List.mem_cons, List.not_mem_nil, or_false] at hcases
    rcases hcases with rfl | rfl
    · exact htms
    · exact ⟨rfl, rfl⟩
  refine ⟨reread_obj ?_ fun m hm => (hmem m hm).1, printed_obj fun m hm => (hmem m hm).2⟩
  exact (hms.map Prod.fst).nodup_iff.2 (by simp)

lemma Represents.stringify_reread (h : signed.Represents v)
    (hexpires : signed.token.expiresAt.toNat < 2 ^ 53) (large : ℕ → String) :
    stringify large (reread v) = v.toText := by
  obtain ⟨hread, hprinted⟩ := h.unchanged hexpires large
  rw [hread, stringify, hprinted]

end SignedAccessToken

/-- The code that the page would draw is one of a rendering of the pass. -/
lemma rendering_qrValue {signed : SignedAccessToken} {v : Value}
    (hread : fromStr (readValue recursionLimit) (signedTokenToJson signed) = some v)
    (hrep : signed.Represents v) (hexpires : signed.token.expiresAt.toNat < 2 ^ 53)
    (large : ℕ → String) : Rendering (signedTokenToJson signed) (qrValue large (reread v)) := by
  have hvalue : qrValue large (reread v) = v.toText := by
    rw [← hrep.stringify_reread hexpires large]
    obtain ⟨tms, ms, -, -, rfl⟩ := hrep
    rfl
  have h : Rendering (signedTokenToJson signed) (String.ofList ([] ++ v.toText.toList ++ [])) :=
    Rendering.rewritten (by simp) (by simp) hread (Reorder.refl v)
  rw [hvalue]
  simpa using h

end Haske
