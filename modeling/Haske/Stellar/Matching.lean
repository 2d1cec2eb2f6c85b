import Haske.Lib.Decimal
import Haske.Stellar.Provider

/-!
# What a payment is matched by

Two properties that matching by strings does not have.

* Asset identity.  The string `XLM` stands for the native asset, but anybody may issue a
  credit asset with that code, in any case, and its payments have the same string as
  asset.  The native payment is the one returned only if it comes first on the page
  (`native_returned_iff`).
* Amounts by value.  Horizon writes amounts with seven fractional digits, and a session
  keeps the spelling its client sent.  A payment of the right amount is found only if the
  client spelled it as Horizon does (`found_iff_canonical`).
-/

namespace Haske

variable {records : List PaymentRecord} {destination memo amount asset : String}

/-! ### Asset identity -/

/-- The record at which the loop stops: it finds nothing in the records before this one,
and the event of this one once it comes to it. -/
def ReturnedFrom (records : List PaymentRecord) (destination memo amount asset : String)
    (record : PaymentRecord) : Prop :=
  ∃ before after, records = before ++ record :: after ∧
    findConfirmedPayment before destination memo amount asset = none ∧
    findConfirmedPayment (before ++ [record]) destination memo amount asset =
      some (parsePayment record)

/-- The loop stops at the first record that matches. -/
lemma returnedFrom_iff {record : PaymentRecord} :
    ReturnedFrom records destination memo amount asset record ↔
      ∃ before after, records = before ++ record :: after ∧
        (∀ r ∈ before, ¬ r.Matches destination memo amount asset) ∧
        record.Matches destination memo amount asset := by
  constructor
  · rintro ⟨before, after, rfl, hbefore, hrecord⟩
    rw [findConfirmedPayment_eq_none] at hbefore
    refine ⟨before, after, rfl, hbefore, ?_⟩
    obtain ⟨r, hr, hmatch, -⟩ := exists_record_of_found hrecord
    rcases List.mem_append.1 hr with hr | hr
    · exact absurd hmatch (hbefore r hr)
    · rwa [List.mem_singleton.1 hr] at hmatch
  · rintro ⟨before, after, rfl, hbefore, hmatch⟩
    refine ⟨before, after, rfl, findConfirmedPayment_eq_none.2 hbefore, ?_⟩
    have hnone : (before.find? fun r => r.Matches destination memo amount asset) = none := by
      simpa using hbefore
    rw [findConfirmedPayment_eq, List.find?_append, hnone]
    simp [hmatch]

/-- The asset is not the native one but is spelled like it: its code, or its type where
there is no code, is `XLM` up to case. -/
def PaymentRecord.SpoofsXlm (record : PaymentRecord) : Prop :=
  record.assetType ≠ "native" ∧
    eqIgnoreAsciiCase (record.assetCode.getD record.assetType) "XLM" = true

lemma PaymentRecord.matches_xlm_iff {record : PaymentRecord} :
    record.Matches destination memo amount "XLM" ↔
      record.PaysTo destination memo amount ∧ (record.assetType = "native" ∨ record.SpoofsXlm) := by
  by_cases hnative : record.assetType = "native"
  · simp [PaymentRecord.Matches, parsedAsset, hnative, eqIgnoreAsciiCase_refl]
  · simp [PaymentRecord.Matches, PaymentRecord.SpoofsXlm, parsedAsset, hnative]

/-- **When a request for XLM is settled by XLM.**  The payment returned for a request in
`XLM` is in the native asset if and only if every payment on the page that has the
destination, the memo and the amount of the request, and an asset spelled like the native
one, comes after a native payment with that destination, memo and amount. -/
theorem native_returned_iff :
    (∀ record, ReturnedFrom records destination memo amount "XLM" record →
        record.assetType = "native") ↔
      ∀ before record after, records = before ++ record :: after →
        record.PaysTo destination memo amount → record.SpoofsXlm →
        ∃ r ∈ before, r.PaysTo destination memo amount ∧ r.assetType = "native" := by
  constructor
  · intro h before record after hpage hpays hspoof
    have hmatch := PaymentRecord.matches_xlm_iff.2 ⟨hpays, Or.inr hspoof⟩
    -- the loop has stopped at the spoof at the latest
    have hsome : ((before ++ [record]).find?
        fun r => r.Matches destination memo amount "XLM").isSome := by
      rw [List.find?_isSome]
      exact ⟨record, by simp, by simpa using hmatch⟩
    obtain ⟨first, hfirst⟩ := Option.isSome_iff_exists.1 hsome
    rw [List.find?_eq_some_iff_append] at hfirst
    obtain ⟨hfirst, front, back, hsplit, hfront⟩ := hfirst
    simp only [decide_eq_true_eq] at hfirst
    have hnative : first.assetType = "native" := by
      refine h first (returnedFrom_iff.2 ⟨front, back ++ after, ?_, by simpa using hfront, hfirst⟩)
      rw [hpage, ← List.singleton_append, ← List.append_assoc, hsplit]
      simp
    have hmem : first ∈ before ++ [record] := by
      rw [hsplit]
      simp
    rcases List.mem_append.1 hmem with hbefore | hlast
    · exact ⟨first, hbefore, hfirst.1, hnative⟩
    · rw [List.mem_singleton.1 hlast] at hnative
      exact absurd hnative hspoof.1
  · intro h record hreturned
    obtain ⟨before, after, hpage, hbefore, hmatch⟩ := returnedFrom_iff.1 hreturned
    obtain ⟨hpays, hnative | hspoof⟩ := PaymentRecord.matches_xlm_iff.1 hmatch
    · exact hnative
    · obtain ⟨r, hr, hr_pays, hr_native⟩ := h before record after hpage hpays hspoof
      exact absurd (PaymentRecord.matches_xlm_iff.2 ⟨hr_pays, Or.inl hr_native⟩) (hbefore r hr)

/-- A payment of ten units of a credit asset with the code `xlm`. -/
def spoofedRecord : PaymentRecord where
  id := "1"
  transactionHash := "3389e9f0"
  from_ := "GBUYER"
  to_ := "GDEST"
  amount := "10.0000000"
  assetType := "credit_alphanum4"
  assetCode := some "xlm"
  transactionSuccessful := true
  memo := some "k3Jd82LmQw0Z"
  ledger := some 51203
  recordType := "payment"

theorem spoofed_returned :
    ReturnedFrom [spoofedRecord] "GDEST" "k3Jd82LmQw0Z" "10.0000000" "XLM" spoofedRecord ∧
      spoofedRecord.assetType ≠ "native" := by
  refine ⟨⟨[], [], rfl, rfl, ?_⟩, by decide⟩
  decide

/-! ### Amounts by value -/

/-- An amount as Horizon writes it, from its number of stroops. -/
def horizonAmount (stroops : ℕ) : String := Decimal.render 7 stroops

/-- The page has a payment of this many stroops to the destination, with the memo and an
asset that parses to the given one. -/
def HasPayment (records : List PaymentRecord) (destination memo asset : String) (stroops : ℕ) :
    Prop :=
  ∃ record ∈ records, record.transactionSuccessful = true ∧ record.recordType = "payment" ∧
    record.to_ = destination ∧ record.memo = some memo ∧
    eqIgnoreAsciiCase (parsedAsset record) asset = true ∧ record.amount = horizonAmount stroops

/-- A payment whose amount the request spells as Horizon does is found. -/
lemma found_of_canonical {stroops : ℕ} (h : HasPayment records destination memo asset stroops) :
    (findConfirmedPayment records destination memo (horizonAmount stroops) asset).isSome := by
  obtain ⟨record, hmem, hok, htype, hto, hmemo, hasset, hamount⟩ := h
  rw [findConfirmedPayment_isSome]
  exact ⟨record, hmem, ⟨hok, htype, hto, by rw [hmemo]; rfl, hamount⟩, hasset⟩

/-- The amount of a payment that is found is spelled as the request spells it. -/
lemma exists_amount_of_found
    (h : (findConfirmedPayment records destination memo amount asset).isSome) :
    ∃ record ∈ records, record.amount = amount := by
  rw [findConfirmedPayment_isSome] at h
  obtain ⟨record, hmem, hmatch⟩ := h
  exact ⟨record, hmem, hmatch.1.2.2.2.2⟩

/-- A page with a single payment. -/
def singlePayment (destination memo asset : String) (stroops : ℕ) : List PaymentRecord :=
  [{ id := "", transactionHash := "", from_ := "", to_ := destination,
      amount := horizonAmount stroops, assetType := "", assetCode := some asset,
      transactionSuccessful := true, memo := some memo, ledger := none, recordType := "payment" }]

lemma hasPayment_single (destination memo asset : String) (stroops : ℕ) :
    HasPayment (singlePayment destination memo asset stroops) destination memo asset stroops :=
  ⟨_, List.mem_singleton.2 rfl, rfl, rfl, rfl, rfl, eqIgnoreAsciiCase_refl asset, rfl⟩

/-- **When payments are found by value.**  For a request whose amount is a numeral with at
most seven fractional digits, the payments of that many stroops are found on every page
that has one if and only if the numeral is the one Horizon writes; and on a page all of
whose amounts are written as Horizon writes them, such a payment is found if and only if
it is. -/
theorem found_iff_canonical {stroops : ℕ} (hamount : Decimal.value? 7 amount = some stroops)
    (destination memo asset : String) :
    ((∀ records, HasPayment records destination memo asset stroops →
        (findConfirmedPayment records destination memo amount asset).isSome) ↔
      amount = horizonAmount stroops) ∧
    ∀ records, HasPayment records destination memo asset stroops →
      (∀ record ∈ records, ∃ n, record.amount = horizonAmount n) →
      ((findConfirmedPayment records destination memo amount asset).isSome ↔
        amount = horizonAmount stroops) := by
  constructor
  · constructor
    · intro h
      obtain ⟨record, hmem, heq⟩ :=
        exists_amount_of_found (h _ (hasPayment_single destination memo asset stroops))
      rw [← heq, List.mem_singleton.1 hmem]
    · rintro rfl records hpayment
      exact found_of_canonical hpayment
  · intro records hpayment hrendered
    constructor
    · intro hfound
      obtain ⟨record, hmem, rfl⟩ := exists_amount_of_found hfound
      obtain ⟨n, hn⟩ := hrendered record hmem
      -- reading the amount gives both numbers of stroops
      rw [hn, horizonAmount, Decimal.value?_render (by decide), Option.some.injEq] at hamount
      rw [hn, hamount]
    · rintro rfl
      exact found_of_canonical hpayment

/-- The default amount of a request, paid as asked. -/
theorem default_amount_not_found :
    Decimal.value? 7 "10" = some 100000000 ∧
      HasPayment (singlePayment "GDEST" "k3Jd82LmQw0Z" "XLM" 100000000) "GDEST" "k3Jd82LmQw0Z"
        "XLM" 100000000 ∧
      findConfirmedPayment (singlePayment "GDEST" "k3Jd82LmQw0Z" "XLM" 100000000) "GDEST"
        "k3Jd82LmQw0Z" "10" "XLM" = none := by
  refine ⟨by decide +kernel, hasPayment_single _ _ _ _, ?_⟩
  decide +kernel

theorem found_iff_canonical_ten :
    ((∀ records, HasPayment records "GDEST" "k3Jd82LmQw0Z" "XLM" 100000000 →
        (findConfirmedPayment records "GDEST" "k3Jd82LmQw0Z" "10.0000000" "XLM").isSome) ↔
      "10.0000000" = horizonAmount 100000000) ∧
    ∀ records, HasPayment records "GDEST" "k3Jd82LmQw0Z" "XLM" 100000000 →
      (∀ record ∈ records, ∃ n, record.amount = horizonAmount n) →
      ((findConfirmedPayment records "GDEST" "k3Jd82LmQw0Z" "10.0000000" "XLM").isSome ↔
        "10.0000000" = horizonAmount 100000000) :=
  found_iff_canonical (by decide +kernel) _ _ _

end Haske
