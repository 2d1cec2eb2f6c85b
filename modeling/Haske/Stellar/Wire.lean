import Haske.Lib.Extensional
import Haske.Stellar.Horizon

/-!
# The page on the wire

What Horizon answers with is JSON: the records of a page are in `_embedded.records`, among
other members that are not read.  A record has more members than the reader has fields, and
any field but the id may be missing.  The text is indented, and some characters are escaped that
need not be.

The reader gets back what a page was made of, however its members come and whatever text it has
(`page_read`).  But it
reads a page as a whole or not at all.  One operation of an account that it cannot read hides
all the payments to the account, until there are 200 newer ones (`found_on_wire_iff`).
-/

namespace Haske

open Json Serde

/-- The derived reader.  The time of a record is not kept, but it has to be a string. -/
def PaymentRecord.ofDoc : Doc → Option PaymentRecord
  | .obj ms => do
      let ms ← readMembers ms
      let id ← required asStr "id" ms
      let transactionHash ← withDefault asStr "" "transaction_hash" ms
      let from_ ← withDefault asStr "" "from" ms
      let to_ ← withDefault asStr "" "to" ms
      let amount ← withDefault asStr "" "amount" ms
      let assetType ← withDefault asStr "" "asset_type" ms
      let assetCode ← withDefault (asOption asStr) none "asset_code" ms
      let transactionSuccessful ← withDefault asBool false "transaction_successful" ms
      let _ ← withDefault asStr "" "created_at" ms
      let memo ← withDefault (asOption asStr) none "memo" ms
      let ledger ← withDefault (asOption asU32) none "ledger" ms
      let recordType ← withDefault asStr "" "type" ms
      some ⟨id, transactionHash, from_, to_, amount, assetType, assetCode, transactionSuccessful,
        memo, ledger, recordType⟩
  | .arr elems => do
      let (id, elems) ← next asStr elems
      let (transactionHash, elems) ← nextOr asStr "" elems
      let (from_, elems) ← nextOr asStr "" elems
      let (to_, elems) ← nextOr asStr "" elems
      let (amount, elems) ← nextOr asStr "" elems
      let (assetType, elems) ← nextOr asStr "" elems
      let (assetCode, elems) ← nextOr (asOption asStr) none elems
      let (transactionSuccessful, elems) ← nextOr asBool false elems
      let (_, elems) ← nextOr asStr "" elems
      let (memo, elems) ← nextOr (asOption asStr) none elems
      let (ledger, elems) ← nextOr (asOption asU32) none elems
      let (recordType, elems) ← nextOr asStr "" elems
      if elems.isEmpty then
        some ⟨id, transactionHash, from_, to_, amount, assetType, assetCode,
          transactionSuccessful, memo, ledger, recordType⟩
      else none
  | _ => none

structure EmbeddedPayments where
  records : List PaymentRecord

structure PaymentsResponse where
  embedded : EmbeddedPayments

def EmbeddedPayments.ofDoc : Doc → Option EmbeddedPayments
  | .obj ms => do
      let ms ← readMembers ms
      let records ← required (asVec PaymentRecord.ofDoc) "records" ms
      some ⟨records⟩
  | .arr [records] => (asVec PaymentRecord.ofDoc records).map .mk
  | _ => none

def PaymentsResponse.ofDoc : Doc → Option PaymentsResponse
  | .obj ms => do
      let ms ← readMembers ms
      let embedded ← required EmbeddedPayments.ofDoc "_embedded" ms
      some ⟨embedded⟩
  | .arr [embedded] => (EmbeddedPayments.ofDoc embedded).map .mk
  | _ => none

structure HttpResponse where
  status : ℕ
  body : List UInt8

/-- The second half of `payments_for_account`: what a request is answered with, `none` for a
failure, becomes the records of a page. -/
def getPage (send : String → Option HttpResponse) (url : String) : Option (List PaymentRecord) := do
  let response ← send url
  -- `error_for_status`
  if 400 ≤ response.status ∧ response.status ≤ 599 then none
  else (fromSlice PaymentsResponse.ofDoc response.body).map fun page => page.embedded.records

/-! ### The text of a page -/

lemma PaymentRecord.ofDoc_extensional : Extensional PaymentRecord.ofDoc := by
  refine extensional_of (fun _ _ _ => rfl) (fun _ _ _ => rfl) (fun ds vs hvs => ?_)
    fun ms vs hvs => ?_
  · -- the fields in their order
    refine asStr_extensional.next_bind hvs fun _ _ _ hvs => ?_
    refine asStr_extensional.nextOr_bind hvs fun _ _ _ hvs => ?_
    refine asStr_extensional.nextOr_bind hvs fun _ _ _ hvs => ?_
    refine asStr_extensional.nextOr_bind hvs fun _ _ _ hvs => ?_
    refine asStr_extensional.nextOr_bind hvs fun _ _ _ hvs => ?_
    refine asStr_extensional.nextOr_bind hvs fun _ _ _ hvs => ?_
    refine asStr_extensional.asOption.nextOr_bind hvs fun _ _ _ hvs => ?_
    refine asBool_extensional.nextOr_bind hvs fun _ _ _ hvs => ?_
    refine asStr_extensional.nextOr_bind hvs fun _ _ _ hvs => ?_
    refine asStr_extensional.asOption.nextOr_bind hvs fun _ _ _ hvs => ?_
    refine asU32_extensional.asOption.nextOr_bind hvs fun _ _ _ hvs => ?_
    refine asStr_extensional.nextOr_bind hvs fun _ _ _ hvs => ?_
    dsimp only
    rw [isEmpty_of_valueElems hvs]
  · refine readMembers_bind hvs fun rs h => ?_
    simp only [h.required asStr_extensional, h.withDefault asStr_extensional,
      h.withDefault asBool_extensional, h.withDefault asStr_extensional.asOption,
      h.withDefault asU32_extensional.asOption]

lemma EmbeddedPayments.ofDoc_extensional : Extensional EmbeddedPayments.ofDoc := by
  have hrecords := PaymentRecord.ofDoc_extensional.asVec
  refine extensional_of (fun _ _ _ => rfl) (fun _ _ _ => rfl) (fun ds vs hvs => ?_)
    fun ms vs hvs => ?_
  · cases valueElems_eq_some.1 hvs with
    | nil => rfl
    | cons hvalue hrest =>
        cases hrest with
        | nil => exact hrecords.map _ _ _ hvalue
        | cons _ _ => rfl
  · refine readMembers_bind hvs fun rs h => ?_
    simp only [h.required hrecords]

lemma PaymentsResponse.ofDoc_extensional : Extensional PaymentsResponse.ofDoc := by
  have hembedded := EmbeddedPayments.ofDoc_extensional
  refine extensional_of (fun _ _ _ => rfl) (fun _ _ _ => rfl) (fun ds vs hvs => ?_)
    fun ms vs hvs => ?_
  · cases valueElems_eq_some.1 hvs with
    | nil => rfl
    | cons hvalue hrest =>
        cases hrest with
        | nil => exact hembedded.map _ _ _ hvalue
        | cons _ _ => rfl
  · refine readMembers_bind hvs fun rs h => ?_
    simp only [h.required hembedded]

/-! ### Reading what was sent -/

/-- An operation as Horizon sends it, for a record: its members are in any order, others come
with them, and a field may be missing that has its default. -/
inductive PaymentRecord.SentAs (record : PaymentRecord) : Value → Prop
  | obj {ms : List (String × Value)} {createdAt : String} :
      (ms.map Prod.fst).Nodup → ("id", .str record.id) ∈ ms →
      Offers ms "transaction_hash" (.str record.transactionHash) (record.transactionHash = "") →
      Offers ms "from" (.str record.from_) (record.from_ = "") →
      Offers ms "to" (.str record.to_) (record.to_ = "") →
      Offers ms "amount" (.str record.amount) (record.amount = "") →
      Offers ms "asset_type" (.str record.assetType) (record.assetType = "") →
      Offers ms "asset_code" (ofOption (record.assetCode.map .str)) (record.assetCode = none) →
      Offers ms "transaction_successful" (.bool record.transactionSuccessful)
        (record.transactionSuccessful = false) →
      Offers ms "created_at" (.str createdAt) (createdAt = "") →
      Offers ms "memo" (ofOption (record.memo.map .str)) (record.memo = none) →
      Offers ms "ledger" (ofOption (record.ledger.map fun n => .nat n.toNat))
        (record.ledger = none) →
      Offers ms "type" (.str record.recordType) (record.recordType = "") →
      SentAs record (.obj ms)

/-- A page of these operations, among other members. -/
inductive IsPage (ops : List Value) : Value → Prop
  | obj {ms ems : List (String × Value)} :
      (ms.map Prod.fst).Nodup → ("_embedded", .obj ems) ∈ ms →
      (ems.map Prod.fst).Nodup → ("records", .arr ops) ∈ ems → IsPage ops (.obj ms)

lemma asOption_str_toDoc (x : Option String) :
    asOption asStr (ofOption (x.map .str)).toDoc = some x := by
  cases x with
  | none => rfl
  | some s => exact asOption_str s

lemma asOption_nat_toDoc (x : Option UInt32) :
    asOption asU32 (ofOption (x.map fun n => .nat n.toNat)).toDoc = some x := by
  cases x with
  | none => rfl
  | some n =>
      have hread := asU32_toDoc n
      rw [Option.map_some, ofOption, Option.getD_some, asOption_eq_map (by simp [Value.toDoc]),
        hread, Option.map_some]

/-- An operation is read as the record that it was sent for. -/
lemma PaymentRecord.SentAs.ofDoc {record : PaymentRecord} {op : Value} (h : record.SentAs op) :
    PaymentRecord.ofDoc op.toDoc = some record := by
  obtain @⟨ms, createdAt, hnodup, hid, hhash, hfrom, hto, hamount, htype, hcode, hok, hcreated,
    hmemo, hledger, hkind⟩ := h
  rw [Value.toDoc, PaymentRecord.ofDoc, readMembers_toDocMembers]
  refine Option.bind_eq_some_iff.2 ⟨_, rfl, ?_⟩
  refine Option.bind_eq_some_iff.2 ⟨_, (required_of_given hnodup hid).trans (asStr_toDoc _), ?_⟩
  refine Option.bind_eq_some_iff.2 ⟨_, hhash.withDefault hnodup (asStr_toDoc _), ?_⟩
  refine Option.bind_eq_some_iff.2 ⟨_, hfrom.withDefault hnodup (asStr_toDoc _), ?_⟩
  refine Option.bind_eq_some_iff.2 ⟨_, hto.withDefault hnodup (asStr_toDoc _), ?_⟩
  refine Option.bind_eq_some_iff.2 ⟨_, hamount.withDefault hnodup (asStr_toDoc _), ?_⟩
  refine Option.bind_eq_some_iff.2 ⟨_, htype.withDefault hnodup (asStr_toDoc _), ?_⟩
  refine Option.bind_eq_some_iff.2 ⟨_, hcode.withDefault hnodup (asOption_str_toDoc _), ?_⟩
  refine Option.bind_eq_some_iff.2 ⟨_, hok.withDefault hnodup (asBool_toDoc _), ?_⟩
  refine Option.bind_eq_some_iff.2 ⟨_, hcreated.withDefault hnodup (asStr_toDoc _), ?_⟩
  refine Option.bind_eq_some_iff.2 ⟨_, hmemo.withDefault hnodup (asOption_str_toDoc _), ?_⟩
  refine Option.bind_eq_some_iff.2 ⟨_, hledger.withDefault hnodup (asOption_nat_toDoc _), ?_⟩
  exact Option.bind_eq_some_iff.2 ⟨_, hkind.withDefault hnodup (asStr_toDoc _), rfl⟩

lemma asVec_toDoc {α : Type*} (read : Doc → Option α) (vs : List Value) :
    asVec read (Value.arr vs).toDoc = vs.mapM fun v => read v.toDoc := by
  rw [Value.toDoc, asVec]
  induction vs with
  | nil => rfl
  | cons v vs ih => rw [toDocElems, List.mapM_cons, List.mapM_cons, ih]

/-- A page is read if all its operations are. -/
lemma getPage_eq {send : String → Option HttpResponse} {url : String} {status : ℕ}
    {body : List UInt8} {ops : List Value} {page : Value}
    (hsend : send url = some ⟨status, body⟩) (hstatus : status < 400) (htext : IsText body page)
    (hpage : IsPage ops page) :
    getPage send url = ops.mapM fun op => PaymentRecord.ofDoc op.toDoc := by
  obtain @⟨ms, ems, hnodup, hembedded, hnodup', hrecords⟩ := hpage
  have hems : EmbeddedPayments.ofDoc (Value.obj ems).toDoc =
      (ops.mapM fun op => PaymentRecord.ofDoc op.toDoc).map .mk := by
    rw [Value.toDoc, EmbeddedPayments.ofDoc, readMembers_toDocMembers, Option.bind_eq_bind,
      Option.bind_some, required_of_given hnodup' hrecords, asVec_toDoc]
    exact Option.map_eq_bind.symm
  have hms : PaymentsResponse.ofDoc (Value.obj ms).toDoc =
      (ops.mapM fun op => PaymentRecord.ofDoc op.toDoc).map fun records => ⟨⟨records⟩⟩ := by
    rw [Value.toDoc, PaymentsResponse.ofDoc, readMembers_toDocMembers, Option.bind_eq_bind,
      Option.bind_some, required_of_given hnodup hembedded, hems]
    cases ops.mapM fun op => PaymentRecord.ofDoc op.toDoc <;> rfl
  have hok : ¬ (400 ≤ status ∧ status ≤ 599) := by omega
  rw [getPage, hsend, Option.bind_eq_bind, Option.bind_some, if_neg hok,
    fromSlice_of_isText PaymentsResponse.ofDoc_extensional htext, hms]
  cases ops.mapM fun op => PaymentRecord.ofDoc op.toDoc <;> rfl

/-- **Pages are read as they were made.**  However the operations of a page are sent, with
their members in any order and others among them, with or without those that have their
default, and in any text of the page, the client gets the records of the page, in their order. -/
theorem page_read {send : String → Option HttpResponse} {url : String} {status : ℕ}
    {body : List UInt8} {ops : List Value} {records : List PaymentRecord} {page : Value}
    (hsend : send url = some ⟨status, body⟩) (hstatus : status < 400) (htext : IsText body page)
    (hpage : IsPage ops page)
    (hops : List.Forall₂ (fun op record => record.SentAs op) ops records) :
    getPage send url = some records := by
  rw [getPage_eq hsend hstatus htext hpage, mapM_eq_some]
  exact hops.imp fun _ _ h => h.ofDoc

/-! ### All or nothing -/

/-- Horizon answers the query for an account with a text of the newest 200 operations of its
history, the newest first; the history has the oldest first. -/
def SendsHistory (send : String → Option HttpResponse) (client : HorizonClient) (account : String)
    (history : List Value) : Prop :=
  ∃ status body page, send (client.paymentsUrl account) = some ⟨status, body⟩ ∧ status < 400 ∧
    IsText body page ∧ IsPage (history.reverse.take 200) page

/-- **Which payments are found on the wire.**  Of a history that Horizon sends, the lookup
fails if and only if one of the newest 200 operations cannot be read; and a payment is found
if and only if they all can and one that matches is among them. -/
theorem found_on_wire_iff {send : String → Option HttpResponse} {provider : StellarProvider}
    {destination : String} {history : List Value}
    (hsends : SendsHistory send provider.client destination history)
    (memo amount asset : String) :
    (provider.findConfirmedPayment (getPage send) destination memo amount asset = none ↔
      ∃ before op after, history = before ++ op :: after ∧ after.length < 200 ∧
        PaymentRecord.ofDoc op.toDoc = none) ∧
    ((∃ event, provider.findConfirmedPayment (getPage send) destination memo amount asset =
        some (some event)) ↔
      (∀ before op after, history = before ++ op :: after → after.length < 200 →
        (PaymentRecord.ofDoc op.toDoc).isSome) ∧
      ∃ before op after record, history = before ++ op :: after ∧ after.length < 200 ∧
        PaymentRecord.ofDoc op.toDoc = some record ∧
        record.Matches destination memo amount asset) := by
  obtain ⟨status, body, page, hsend, hstatus, htext, hpage⟩ := hsends
  have hlookup : provider.findConfirmedPayment (getPage send) destination memo amount asset =
      ((history.reverse.take 200).mapM fun op => PaymentRecord.ofDoc op.toDoc).map
        fun records => Haske.findConfirmedPayment records destination memo amount asset := by
    rw [StellarProvider.findConfirmedPayment, HorizonClient.paymentsForAccount,
      getPage_eq hsend hstatus htext hpage]
    exact Option.map_eq_bind.symm
  have hnone : ((history.reverse.take 200).mapM fun op => PaymentRecord.ofDoc op.toDoc) = none ↔
      ∃ before op after, history = before ++ op :: after ∧ after.length < 200 ∧
        PaymentRecord.ofDoc op.toDoc = none := by
    rw [mapM_eq_none]
    constructor
    · rintro ⟨op, hmem, hop⟩
      obtain ⟨before, after, hhistory, hlength⟩ := mem_take_reverse_iff.1 hmem
      exact ⟨before, op, after, hhistory, hlength, hop⟩
    · rintro ⟨before, op, after, hhistory, hlength, hop⟩
      exact ⟨op, mem_take_reverse_iff.2 ⟨before, after, hhistory, hlength⟩, hop⟩
  rw [hlookup]
  refine ⟨by rw [Option.map_eq_none_iff, hnone], ?_⟩
  constructor
  · rintro ⟨event, hevent⟩
    obtain ⟨records, hrecords, hfound⟩ := Option.map_eq_some_iff.1 hevent
    have hsome : (Haske.findConfirmedPayment records destination memo amount asset).isSome := by
      rw [hfound]
      rfl
    obtain ⟨record, hmem, hmatch⟩ := findConfirmedPayment_isSome.1 hsome
    obtain ⟨op, hop, hread⟩ := (mem_of_mapM hrecords).1 hmem
    obtain ⟨before, after, hhistory, hlength⟩ := mem_take_reverse_iff.1 hop
    refine ⟨?_, before, op, after, record, hhistory, hlength, hread, hmatch⟩
    intro before' op' after' hhistory' hlength'
    rw [Option.isSome_iff_ne_none]
    intro hunread
    rw [hnone.2 ⟨before', op', after', hhistory', hlength', hunread⟩] at hrecords
    cases hrecords
  · rintro ⟨hreadable, before, op, after, record, hhistory, hlength, hread, hmatch⟩
    have hpage : ((history.reverse.take 200).mapM fun op => PaymentRecord.ofDoc op.toDoc) ≠
        none := by
      rw [ne_eq, hnone]
      rintro ⟨before', op', after', hhistory', hlength', hunread⟩
      have hsome := hreadable before' op' after' hhistory' hlength'
      rw [hunread] at hsome
      cases hsome
    obtain ⟨records, hrecords⟩ := Option.ne_none_iff_exists'.1 hpage
    have hmem : record ∈ records :=
      (mem_of_mapM hrecords).2
        ⟨op, mem_take_reverse_iff.2 ⟨before, after, hhistory, hlength⟩, hread⟩
    obtain ⟨event, hevent⟩ := Option.isSome_iff_exists.1
      (findConfirmedPayment_isSome.2 ⟨record, hmem, hmatch⟩)
    exact ⟨event, by rw [hrecords, Option.map_some, hevent]⟩

/-! ### An example

The payment of the demo as Horizon sends it, and an operation without a transaction hash. -/

/-- What stands around the operations of a page. -/
def demoPage (ops : List Value) : Value :=
  .obj [("_links", .obj [("next", .obj [("href",
      .str "https://horizon/payments?cursor=1&limit=200&order=desc")])]),
    ("_embedded", .obj [("records", .arr ops)])]

def paidOperation : Value :=
  .obj [("_links", .obj []), ("id", .str "1"), ("paging_token", .str "1"),
    ("transaction_successful", .bool true), ("source_account", .str "GBUYER"),
    ("type", .str "payment"), ("type_i", .nat 1), ("created_at", .str "2026-01-05T12:00:00Z"),
    ("transaction_hash", .str "3389e9f0"), ("asset_type", .str "native"), ("from", .str "GBUYER"),
    ("to", .str "GDEST"), ("amount", .str "10.0000000"), ("memo", .str "k3Jd82LmQw0Z"),
    ("ledger", .nat 51203)]

/-- The transaction hash is not missing but `null`. -/
def nullOperation : Value := .obj [("id", .str "2"), ("transaction_hash", .null)]

/-- The text of a page, from the lines of its operations. -/
def demoText (ops : List String) : List UInt8 :=
  let before := ["\x7b", "  \"_links\": \x7b", "    \"next\": \x7b",
    "      \"href\": \"https://horizon/payments?cursor=1\\u0026limit=200\\u0026order=desc\"",
    "    \x7d", "  \x7d,", "  \"_embedded\": \x7b", "    \"records\": ["]
  let after := ["    ]", "  \x7d", "\x7d"]
  (before ++ ops ++ after).flatMap fun line => Utf8.asBytes line ++ [10]

def paidText : List String :=
  ["      \x7b", "        \"_links\": \x7b\x7d,", "        \"id\": \"1\",",
    "        \"paging_token\": \"1\",", "        \"transaction_successful\": true,",
    "        \"source_account\": \"GBUYER\",", "        \"type\": \"payment\",",
    "        \"type_i\": 1,", "        \"created_at\": \"2026-01-05T12:00:00Z\",",
    "        \"transaction_hash\": \"3389e9f0\",", "        \"asset_type\": \"native\",",
    "        \"from\": \"GBUYER\",", "        \"to\": \"GDEST\",",
    "        \"amount\": \"10.0000000\",", "        \"memo\": \"k3Jd82LmQw0Z\",",
    "        \"ledger\": 51203", "      \x7d"]

def nullText : List String :=
  ["      \x7b", "        \"id\": \"2\",", "        \"transaction_hash\": null", "      \x7d,"]

lemma isPage_demoPage (ops : List Value) : IsPage ops (demoPage ops) :=
  .obj (by simp) (List.mem_cons_of_mem _ List.mem_cons_self) (by simp) (List.mem_singleton_self _)

lemma sentAs_paidOperation : paidRecord.SentAs paidOperation := by
  refine @PaymentRecord.SentAs.obj paidRecord _ "2026-01-05T12:00:00Z" (by simp)
    (by simp [paidRecord]) ?_ ?_ ?_ ?_ ?_ ?_ ?_ ?_ ?_ ?_ ?_
  case refine_6 => exact Or.inr ⟨by simp, rfl⟩
  all_goals exact Or.inl (by simp [paidRecord, ofOption])

theorem page_read_demo :
    getPage (fun _ => some ⟨200, demoText paidText⟩) "" = some [paidRecord] :=
  page_read rfl (by decide) (by decide +kernel) (isPage_demoPage [paidOperation])
    (.cons sentAs_paidOperation .nil)

/-- The operation that cannot be read hides the payment that came before it. -/
theorem found_on_wire_iff_demo :
    demoProvider.findConfirmedPayment
      (getPage fun _ => some ⟨200, demoText (nullText ++ paidText)⟩) "GDEST"
      "k3Jd82LmQw0Z" "10.0000000" "XLM" = none := by
  have htext : IsText (demoText (nullText ++ paidText))
      (demoPage [nullOperation, paidOperation]) := by decide +kernel
  have hsends : SendsHistory (fun _ => some ⟨200, demoText (nullText ++ paidText)⟩)
      demoProvider.client "GDEST" [paidOperation, nullOperation] :=
    ⟨200, _, _, rfl, by decide, htext, isPage_demoPage [nullOperation, paidOperation]⟩
  have hunread : PaymentRecord.ofDoc nullOperation.toDoc = none := by decide +kernel
  exact (found_on_wire_iff hsends "k3Jd82LmQw0Z" "10.0000000" "XLM").1.2
    ⟨[paidOperation], nullOperation, [], rfl, by decide, hunread⟩

end Haske
