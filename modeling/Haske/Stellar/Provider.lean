import Haske.Shared.Types

/-!
# The Stellar payment provider

What the server learns of payments: a page of Horizon's payment records, from which the
provider picks the first that matches a session.  A record is first turned into a
`PaymentEvent`, in which the three fields that say what was paid with have become one
string, and a missing memo the empty one.

The loop over the records is `findConfirmedPayment`; it returns the event of the first
record that `Matches` (`findConfirmedPayment_eq`).
-/

namespace Haske

structure PaymentRecord where
  id : String
  transactionHash : String
  from_ : String
  to_ : String
  amount : String
  assetType : String
  assetCode : Option String
  transactionSuccessful : Bool
  memo : Option String
  ledger : Option UInt32
  recordType : String
deriving DecidableEq

/-- `str::eq_ignore_ascii_case`. -/
def eqIgnoreAsciiCase (a b : String) : Bool :=
  a.toList.map Char.toLower = b.toList.map Char.toLower

lemma eqIgnoreAsciiCase_refl (a : String) : eqIgnoreAsciiCase a a = true := by
  simp [eqIgnoreAsciiCase]

/-- The asset of a record, as one string. -/
def parsedAsset (record : PaymentRecord) : String :=
  if record.assetType = "native" then "XLM"
  else record.assetCode.getD record.assetType

/-- The event of a record; the parser never fails. -/
def parsePayment (record : PaymentRecord) : PaymentEvent where
  txHash := if record.transactionHash = "" then record.id else record.transactionHash
  sourceAccount := record.from_
  destinationAccount := record.to_
  amount := record.amount
  asset := parsedAsset record
  memo := record.memo.getD ""
  ledgerSequence := record.ledger.getD 0
  confirmedAt := 0

/-- The loop over the records of a page. -/
def findConfirmedPayment (records : List PaymentRecord) (destination memo amount asset : String) :
    Option PaymentEvent :=
  match records with
  | [] => none
  | record :: records =>
      if !record.transactionSuccessful || record.recordType ≠ "payment" then
        findConfirmedPayment records destination memo amount asset
      else
        let event := parsePayment record
        if event.destinationAccount = destination ∧ event.memo = memo ∧ event.amount = amount ∧
            eqIgnoreAsciiCase event.asset asset = true then
          some event
        else findConfirmedPayment records destination memo amount asset

/-- `memo` is what `generate_memo` returns; the configured address is the destination. -/
def createPaymentRequest (destinationAddress : String) (request : CreatePaymentRequest)
    (memo : Alphanumeric 12) : PaymentRequest where
  sessionId := memo.text
  destination := destinationAddress
  amount := request.amount
  asset := request.asset
  memo := memo.text
  qrPayload := "web+stellar:pay?destination=" ++ destinationAddress ++ "&amount=" ++
    request.amount ++ "&memo=" ++ memo.text
  expiresAt := 0

/-! ### What matches -/

/-- A successful payment of the amount to the destination with the memo, in whatever
asset; a record without memo counts as one with the empty memo. -/
def PaymentRecord.PaysTo (record : PaymentRecord) (destination memo amount : String) : Prop :=
  record.transactionSuccessful = true ∧ record.recordType = "payment" ∧ record.to_ = destination ∧
    record.memo.getD "" = memo ∧ record.amount = amount

instance (record : PaymentRecord) (destination memo amount : String) :
    Decidable (record.PaysTo destination memo amount) :=
  inferInstanceAs (Decidable (_ ∧ _))

/-- The record settles a request. -/
def PaymentRecord.Matches (record : PaymentRecord) (destination memo amount asset : String) :
    Prop :=
  record.PaysTo destination memo amount ∧ eqIgnoreAsciiCase (parsedAsset record) asset = true

instance (record : PaymentRecord) (destination memo amount asset : String) :
    Decidable (record.Matches destination memo amount asset) :=
  inferInstanceAs (Decidable (_ ∧ _))

variable {records : List PaymentRecord} {destination memo amount asset : String}

/-- **The first record that matches.** -/
theorem findConfirmedPayment_eq :
    findConfirmedPayment records destination memo amount asset =
      (records.find? fun record => record.Matches destination memo amount asset).map
        parsePayment := by
  induction records with
  | nil => rfl
  | cons record records ih =>
      rw [findConfirmedPayment, List.find?_cons, ih]
      -- the loop skips what is no payment, and then compares the fields
      by_cases hkind : record.transactionSuccessful = true ∧ record.recordType = "payment"
      · have hgo : ¬ ((!record.transactionSuccessful || record.recordType ≠ "payment") = true) := by
          simp [hkind]
        rw [if_neg hgo]
        by_cases hmatch : record.Matches destination memo amount asset
        · have hfields := hmatch
          obtain ⟨⟨-, -, hto, hmemo, hamount⟩, hasset⟩ := hfields
          rw [if_pos ⟨hto, hmemo, hamount, hasset⟩]
          simp [hmatch]
        · have hnot : ¬ ((parsePayment record).destinationAccount = destination ∧
              (parsePayment record).memo = memo ∧ (parsePayment record).amount = amount ∧
              eqIgnoreAsciiCase (parsePayment record).asset asset = true) := by
            rintro ⟨hto, hmemo, hamount, hasset⟩
            exact hmatch ⟨⟨hkind.1, hkind.2, hto, hmemo, hamount⟩, hasset⟩
          rw [if_neg hnot]
          simp [hmatch]
      · have hskip : (!record.transactionSuccessful || record.recordType ≠ "payment") = true := by
          rw [not_and_or] at hkind
          simpa using hkind
        have hnot : ¬ record.Matches destination memo amount asset :=
          fun h => hkind ⟨h.1.1, h.1.2.1⟩
        rw [if_pos hskip]
        simp [hnot]

lemma findConfirmedPayment_isSome :
    (findConfirmedPayment records destination memo amount asset).isSome ↔
      ∃ record ∈ records, record.Matches destination memo amount asset := by
  rw [findConfirmedPayment_eq, Option.isSome_map, List.find?_isSome]
  simp

lemma findConfirmedPayment_eq_none :
    findConfirmedPayment records destination memo amount asset = none ↔
      ∀ record ∈ records, ¬ record.Matches destination memo amount asset := by
  rw [← Option.not_isSome_iff_eq_none, findConfirmedPayment_isSome]
  simp

/-- An event that is found is that of a record that matches. -/
lemma exists_record_of_found {event : PaymentEvent}
    (h : findConfirmedPayment records destination memo amount asset = some event) :
    ∃ record ∈ records, record.Matches destination memo amount asset ∧
      event = parsePayment record := by
  rw [findConfirmedPayment_eq, Option.map_eq_some_iff] at h
  obtain ⟨record, hfind, rfl⟩ := h
  exact ⟨record, List.mem_of_find?_eq_some hfind, by simpa using List.find?_some hfind, rfl⟩

end Haske
