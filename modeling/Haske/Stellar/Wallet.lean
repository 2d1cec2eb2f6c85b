import Haske.Lib.Uri
import Haske.Stellar.Provider

/-!
# What the wallet is asked for

The QR code of a payment request is a `web+stellar:pay` URI, and the wallet that scans it
pays what it reads there: the destination, the amount, the memo and the asset, which is the
native one if no `asset_code` is given.  The provider looks for a payment with the four
fields of the `PaymentRequest`.

The provider puts the fields into the URI as they are, and leaves the asset out.  So what
the wallet reads is what the session expects if and only if the asset is `XLM` and the
amount has nothing in it that means something in a query (`wallet_reads_iff`).
-/

namespace Haske

structure WalletRequest where
  destination : Option String
  amount : Option String
  memo : Option String
  asset : String
deriving DecidableEq

/-- What a wallet reads in the URI of a request.  Wallets differ in whether a malformed
escape makes the URI unreadable. -/
def readWalletRequest (strict : Bool) (uri : String) : Option WalletRequest := do
  let ps ← Uri.params strict uri
  some
    { destination := ps.lookup "destination"
      amount := ps.lookup "amount"
      memo := ps.lookup "memo"
      asset := (ps.lookup "asset_code").getD "XLM" }

/-- What the session expects to be paid. -/
def PaymentRequest.expected (request : PaymentRequest) : WalletRequest where
  destination := some request.destination
  amount := some request.amount
  memo := some request.memo
  asset := request.asset

/-- A payment by a wallet that has read the request. -/
structure PaymentRecord.Follows (record : PaymentRecord) (request : WalletRequest) : Prop where
  successful : record.transactionSuccessful = true
  payment : record.recordType = "payment"
  destination : request.destination = some record.to_
  amount : request.amount = some record.amount
  memo : request.memo = record.memo
  asset : request.asset = parsedAsset record

/-- A payment of what the session expects is found. -/
theorem found_of_follows {records : List PaymentRecord} {record : PaymentRecord}
    {request : PaymentRequest} (hrecord : record ∈ records)
    (hfollows : record.Follows request.expected) :
    (findConfirmedPayment records request.destination request.memo request.amount
      request.asset).isSome := by
  have hto : record.to_ = request.destination := (Option.some.inj hfollows.destination).symm
  have hamount : record.amount = request.amount := (Option.some.inj hfollows.amount).symm
  have hmemo : record.memo = some request.memo := hfollows.memo.symm
  have hasset : parsedAsset record = request.asset := hfollows.asset.symm
  rw [findConfirmedPayment_isSome]
  refine ⟨record, hrecord, ⟨hfollows.successful, hfollows.payment, hto, ?_, hamount⟩, ?_⟩
  · rw [hmemo]
    rfl
  · rw [hasset]
    exact eqIgnoreAsciiCase_refl _

/-! ### The URI in parts -/

lemma Alphanumeric.notMem {n : ℕ} (s : Alphanumeric n) {c : Char} (hc : c.isAlphanum = false) :
    c ∉ s.text.toList := by
  intro hmem
  have halphanum := List.all_eq_true.1 s.alphanum c hmem
  rw [hc] at halphanum
  cases halphanum

/-- The amount up to the first character that ends it in a query. -/
def readAmount (amount : String) : List Char :=
  amount.toList.takeWhile fun c => c != '&' && c != '#'

lemma readAmount_eq_self_iff {amount : String} :
    readAmount amount = amount.toList ↔ '&' ∉ amount.toList ∧ '#' ∉ amount.toList := by
  rw [readAmount, List.takeWhile_eq_self_iff]
  constructor
  · intro h
    exact ⟨fun hmem => absurd (h _ hmem) (by decide), fun hmem => absurd (h _ hmem) (by decide)⟩
  · rintro ⟨hamp, hhash⟩ c hc
    rw [Bool.and_eq_true, bne_iff_ne, bne_iff_ne]
    exact ⟨fun heq => hamp (heq ▸ hc), fun heq => hhash (heq ▸ hc)⟩

section

variable {n : ℕ} {destination : Alphanumeric n} {request : CreatePaymentRequest}
  {memo : Alphanumeric 12} {strict : Bool}

/-- The query of the request before it is cut at a `#`. -/
lemma query_qrPayload :
    Uri.query (createPaymentRequest destination.text request memo).qrPayload =
      "destination=".toList ++ destination.text.toList ++ '&' :: ("amount=".toList ++
        (request.amount.toList ++ '&' :: ("memo=".toList ++ memo.text.toList)).takeWhile
          (· != '#')) := by
  have hpayload : (createPaymentRequest destination.text request memo).qrPayload =
      String.ofList ("web+stellar:pay".toList ++ '?' :: ("destination=".toList ++
        destination.text.toList ++ ("&amount=".toList ++ (request.amount.toList ++ '&' ::
          ("memo=".toList ++ memo.text.toList))))) := by
    rw [← String.toList_inj]
    simp [createPaymentRequest]
  have hfront : ∀ c ∈ "destination=".toList ++ destination.text.toList, (c != '#') = true := by
    intro c hc
    rw [bne_iff_ne]
    rintro rfl
    rcases List.mem_append.1 hc with hc | hc
    · exact absurd hc (by decide)
    · exact destination.notMem (by decide) hc
  rw [hpayload, Uri.query_append (by decide), List.takeWhile_append_of_pos hfront,
    List.takeWhile_append_of_pos (by simp)]
  rfl

/-- What is left of the amount when the query is cut and split. -/
lemma takeWhile_amount (amount : String) (rest : List Char) :
    ((amount.toList ++ '&' :: rest).takeWhile (· != '#')).takeWhile (fun c => !(c == '&')) =
      readAmount amount := by
  rw [readAmount]
  generalize amount.toList = cs
  induction cs with
  | nil => rfl
  | cons c cs ih =>
      rw [List.cons_append]
      by_cases hhash : c = '#'
      · simp [hhash]
      · by_cases hamp : c = '&'
        · simp [hamp]
        · simpa [hhash, hamp] using ih

lemma notMem_destination {c : Char} (hc : c.isAlphanum = false)
    (hname : c ∉ "destination=".toList) :
    c ∉ "destination=".toList ++ destination.text.toList := by
  rw [List.mem_append, not_or]
  exact ⟨hname, destination.notMem hc⟩

/-- The first two parameters, whatever the amount contains. -/
lemma exists_splitOn_query :
    ∃ tail, (Uri.query (createPaymentRequest destination.text request memo).qrPayload).splitOn
        '&' =
      ("destination".toList ++ '=' :: destination.text.toList) ::
        ("amount".toList ++ '=' :: readAmount request.amount) :: tail := by
  obtain ⟨tail, htail⟩ := Uri.exists_splitOn '&' ("amount=".toList ++
    (request.amount.toList ++ '&' :: ("memo=".toList ++ memo.text.toList)).takeWhile (· != '#'))
  refine ⟨tail, ?_⟩
  rw [query_qrPayload, List.splitOn_append_cons_self_of_not_mem
    (notMem_destination (by decide) (by decide)), htail,
    List.takeWhile_append_of_pos (by simp), takeWhile_amount]
  rfl

/-- The parameters of a request whose amount does not end early. -/
lemma splitOn_query (hamount : readAmount request.amount = request.amount.toList) :
    (Uri.query (createPaymentRequest destination.text request memo).qrPayload).splitOn '&' =
      ["destination".toList ++ '=' :: destination.text.toList,
        "amount".toList ++ '=' :: request.amount.toList,
        "memo".toList ++ '=' :: memo.text.toList] := by
  obtain ⟨hamp, hhash⟩ := readAmount_eq_self_iff.1 hamount
  have hrest : ∀ c ∈ request.amount.toList ++ '&' :: ("memo=".toList ++ memo.text.toList),
      (c != '#') = true := by
    intro c hc
    rw [bne_iff_ne]
    rintro rfl
    rcases List.mem_append.1 hc with hc | hc
    · exact hhash hc
    · rw [List.mem_cons, List.mem_append] at hc
      rcases hc with hc | hc | hc
      · exact absurd hc (by decide)
      · exact absurd hc (by decide)
      · exact memo.notMem (by decide) hc
  have hmemo : '&' ∉ "memo=".toList ++ memo.text.toList := by
    rw [List.mem_append, not_or]
    exact ⟨by decide, memo.notMem (by decide)⟩
  have hvalue : '&' ∉ "amount=".toList ++ request.amount.toList := by
    rw [List.mem_append, not_or]
    exact ⟨by decide, hamp⟩
  rw [query_qrPayload, List.splitOn_append_cons_self_of_not_mem
    (notMem_destination (by decide) (by decide)), List.takeWhile_eq_self_iff.2 hrest,
    ← List.append_assoc, List.splitOn_append_cons_self_of_not_mem hvalue,
    List.splitOn_eq_singleton hmemo]
  rfl

/-! ### What is read -/

/-- A parameter whose name has no escape. -/
lemma readParam_named {name : String} {value : List Char} (hname : '%' ∉ name.toList)
    (heq : '=' ∉ name.toList) :
    Uri.readParam strict (name.toList ++ '=' :: value) =
      (Uri.readPart strict value).map fun v => (name, v) := by
  rw [Uri.readParam_append heq, Uri.readPart_of_notMem hname, Option.bind_some]
  cases Uri.readPart strict value with
  | none => rfl
  | some v => rfl

/-- The amount that is read is that of the request only if it is read as it stands. -/
lemma amount_of_read {wallet : WalletRequest}
    (h : readWalletRequest strict (createPaymentRequest destination.text request memo).qrPayload =
      some wallet) (hamount : wallet.amount = some request.amount) :
    readAmount request.amount = request.amount.toList ∧
      Uri.isLiteral strict (Utf8.asBytes request.amount) = true := by
  obtain ⟨tail, hsplit⟩ : ∃ tail,
      (Uri.query (createPaymentRequest destination.text request memo).qrPayload).splitOn '&' =
        ("destination".toList ++ '=' :: destination.text.toList) ::
          ("amount".toList ++ '=' :: readAmount request.amount) :: tail := exists_splitOn_query
  simp only [readWalletRequest, Uri.params, hsplit, List.mapM_cons, Option.bind_eq_bind,
    readParam_named (show '%' ∉ "destination".toList by decide) (by decide),
    readParam_named (show '%' ∉ "amount".toList by decide) (by decide),
    Uri.readPart_of_notMem (destination.notMem (c := '%') (by decide)),
    Option.map_some, Option.bind_some, Option.bind_eq_some_iff, Option.map_eq_some_iff] at h
  obtain ⟨ps, ⟨all, ⟨others, ⟨param, ⟨value, hvalue, rfl⟩, rest, -, hothers⟩, hall⟩, hnodup⟩,
    hwallet⟩ := h
  obtain rfl := Option.some.inj hothers
  obtain rfl := Option.some.inj hall
  split at hnodup
  · obtain rfl := Option.some.inj hnodup
    obtain rfl := Option.some.inj hwallet
    have hread : value = request.amount := by simpa [List.lookup_cons] using hamount
    exact Uri.readPart_eq_self (List.takeWhile_prefix _) (hread ▸ hvalue)
  · cases hnodup

/-- What is read if the amount is read as it stands. -/
lemma read_of_amount (hamount : readAmount request.amount = request.amount.toList)
    (hliteral : Uri.isLiteral strict (Utf8.asBytes request.amount) = true) :
    readWalletRequest strict (createPaymentRequest destination.text request memo).qrPayload =
      some
        { destination := some destination.text
          amount := some request.amount
          memo := some memo.text
          asset := "XLM" } := by
  have hnodup : ["destination", "amount", "memo"].Nodup := by decide
  simp only [readWalletRequest, Uri.params, splitOn_query hamount, List.mapM_cons, List.mapM_nil,
    Option.bind_eq_bind, readParam_named (show '%' ∉ "destination".toList by decide) (by decide),
    readParam_named (show '%' ∉ "amount".toList by decide) (by decide),
    readParam_named (show '%' ∉ "memo".toList by decide) (by decide),
    Uri.readPart_of_notMem (destination.notMem (c := '%') (by decide)),
    Uri.readPart_of_notMem (memo.notMem (c := '%') (by decide)),
    Uri.readPart_of_isLiteral hliteral, Option.map_some, Option.bind_some, Option.pure_def,
    List.map_cons, List.map_nil, if_pos hnodup]
  rfl

/-- **When the wallet pays what is looked for.**  For every request, every destination and
every memo, the wallet reads in the URI exactly what the session expects if and only if the
asset is `XLM` and the amount has no `&`, no `#` and no percent sign that the wallet decodes
or refuses. -/
theorem wallet_reads_iff (strict : Bool) {n : ℕ} (destination : Alphanumeric n)
    (request : CreatePaymentRequest) (memo : Alphanumeric 12) :
    readWalletRequest strict (createPaymentRequest destination.text request memo).qrPayload =
        some (createPaymentRequest destination.text request memo).expected ↔
      request.asset = "XLM" ∧ '&' ∉ request.amount.toList ∧ '#' ∉ request.amount.toList ∧
        Uri.isLiteral strict (Utf8.asBytes request.amount) = true := by
  constructor
  · intro h
    obtain ⟨hamount, hliteral⟩ := amount_of_read h rfl
    obtain ⟨hamp, hhash⟩ := readAmount_eq_self_iff.1 hamount
    refine ⟨?_, hamp, hhash, hliteral⟩
    -- the URI does not say which asset
    rw [read_of_amount hamount hliteral, Option.some.injEq] at h
    exact (congrArg WalletRequest.asset h).symm
  · rintro ⟨hasset, hamp, hhash, hliteral⟩
    rw [read_of_amount (readAmount_eq_self_iff.2 ⟨hamp, hhash⟩) hliteral, PaymentRequest.expected,
      createPaymentRequest, hasset]

/-- A request of ten units of an asset to a destination. -/
def tenRequest (asset : String) : CreatePaymentRequest where
  amount := "10"
  asset := asset
  eventId := "demo-event"

def walletDestination : Alphanumeric 5 where
  text := "GDEST"
  length_eq := by decide
  alphanum := by decide

def walletMemo : Alphanumeric 12 where
  text := "Qw0Zk3Jd82Lm"
  length_eq := by decide
  alphanum := by decide

/-- A request in another asset is read as one for XLM, and one with a second parameter in its
amount is not read at all. -/
theorem usdc_read_as_xlm :
    (∀ strict, readWalletRequest strict
        (createPaymentRequest walletDestination.text (tenRequest "USDC") walletMemo).qrPayload =
      some
        { destination := some "GDEST"
          amount := some "10"
          memo := some "Qw0Zk3Jd82Lm"
          asset := "XLM" }) ∧
      (createPaymentRequest walletDestination.text (tenRequest "USDC") walletMemo).expected.asset =
        "USDC" ∧
      ∀ strict, readWalletRequest strict (createPaymentRequest walletDestination.text
        { tenRequest "XLM" with amount := "10&memo=x" } walletMemo).qrPayload = none := by
  decide +kernel

end

end Haske
