import Haske.Stellar.Provider

/-!
# The page that is searched

The client asks Horizon for the payments of an account once, for the newest 200 of them, and
the provider looks through what it gets.  So whether a payment is found depends on how many
payments of the account are newer: fewer than 200 do not matter, whatever they are, and 200
hide it (`found_iff_recent`).
-/

namespace Haske

/-- `str::trim_end_matches` for a character. -/
def trimEndMatches (s : String) (c : Char) : String :=
  String.ofList (s.toList.reverse.dropWhile (· == c)).reverse

structure HorizonClient where
  baseUrl : String

def HorizonClient.new (baseUrl : String) : HorizonClient where
  baseUrl := trimEndMatches baseUrl '/'

/-- The query of `payments_for_account`. -/
def HorizonClient.paymentsUrl (client : HorizonClient) (account : String) : String :=
  client.baseUrl ++ "/accounts/" ++ account ++ "/payments?limit=200&order=desc"

structure StellarConfig where
  horizonUrl : String
  destinationAddress : String

structure StellarProvider where
  config : StellarConfig
  client : HorizonClient

def StellarProvider.new (config : StellarConfig) : StellarProvider where
  config := config
  client := .new config.horizonUrl

section

-- what a request to a URL is answered with: the records of a page, or `none` for an error
variable (get : String → Option (List PaymentRecord))

def HorizonClient.paymentsForAccount (client : HorizonClient) (account : String) :
    Option (List PaymentRecord) :=
  get (client.paymentsUrl account)

/-- `none` is an error of the client; the parser of the records never fails. -/
def StellarProvider.findConfirmedPayment (provider : StellarProvider)
    (destination memo amount asset : String) : Option (Option PaymentEvent) := do
  let records ← provider.client.paymentsForAccount get destination
  some (Haske.findConfirmedPayment records destination memo amount asset)

/-- Horizon answers the query for an account with the newest 200 records of its history,
the newest first; the history has the oldest first. -/
def ServesHistory (client : HorizonClient) (account : String) (history : List PaymentRecord) :
    Prop :=
  get (client.paymentsUrl account) = some (history.reverse.take 200)

variable {get} {provider : StellarProvider} {destination memo amount asset : String}
  {history : List PaymentRecord}

/-- The records on the page are those with fewer than 200 newer ones. -/
lemma mem_take_reverse_iff {α : Type*} {l : List α} {a : α} {n : ℕ} :
    a ∈ l.reverse.take n ↔ ∃ before after, l = before ++ a :: after ∧ after.length < n := by
  constructor
  · intro h
    obtain ⟨i, hi, rfl⟩ := List.mem_iff_getElem.1 h
    rw [List.length_take, List.length_reverse, Nat.lt_min] at hi
    have hlast : l.length - 1 - i < l.length := by omega
    refine ⟨l.take (l.length - 1 - i), l.drop (l.length - 1 - i + 1), ?_, ?_⟩
    · rw [List.getElem_take, List.getElem_reverse, ← List.drop_eq_getElem_cons,
        List.take_append_drop]
    · rw [List.length_drop]
      omega
  · rintro ⟨before, after, rfl, hlength⟩
    rw [List.reverse_append, List.reverse_cons, List.append_assoc, List.take_append,
      List.take_of_length_le (by rw [List.length_reverse]; omega), List.length_reverse]
    obtain ⟨k, hk⟩ : ∃ k, n - after.length = k + 1 := ⟨n - after.length - 1, by omega⟩
    simp [hk]

/-- A payment is found if one that matches has fewer than 200 newer records. -/
lemma exists_found_iff (hserves : ServesHistory get provider.client destination history) :
    (∃ event, provider.findConfirmedPayment get destination memo amount asset =
        some (some event)) ↔
      ∃ before record after, history = before ++ record :: after ∧ after.length < 200 ∧
        record.Matches destination memo amount asset := by
  have hpage : provider.findConfirmedPayment get destination memo amount asset =
      some (Haske.findConfirmedPayment (history.reverse.take 200) destination memo amount
        asset) := by
    rw [StellarProvider.findConfirmedPayment, HorizonClient.paymentsForAccount, hserves]
    rfl
  simp only [hpage, Option.some.injEq]
  rw [← Option.isSome_iff_exists, findConfirmedPayment_isSome]
  constructor
  · rintro ⟨record, hmem, hmatch⟩
    obtain ⟨before, after, hhistory, hlength⟩ := mem_take_reverse_iff.1 hmem
    exact ⟨before, record, after, hhistory, hlength, hmatch⟩
  · rintro ⟨before, record, after, hhistory, hlength, hmatch⟩
    exact ⟨record, mem_take_reverse_iff.2 ⟨before, after, hhistory, hlength⟩, hmatch⟩

/-- **Which payments are found.**  Of a history that Horizon serves, a payment is found if and
only if one that matches has fewer than 200 newer records.  In particular newer payments that
do not match hide one that does if and only if there are 200 of them. -/
theorem found_iff_recent (hserves : ServesHistory get provider.client destination history)
    (memo amount asset : String) :
    ((∃ event, provider.findConfirmedPayment get destination memo amount asset =
        some (some event)) ↔
      ∃ before record after, history = before ++ record :: after ∧ after.length < 200 ∧
        record.Matches destination memo amount asset) ∧
    ∀ before record newer, history = before ++ record :: newer →
      record.Matches destination memo amount asset →
      (∀ r ∈ newer, ¬ r.Matches destination memo amount asset) →
      ((∃ event, provider.findConfirmedPayment get destination memo amount asset =
          some (some event)) ↔ newer.length < 200) := by
  refine ⟨exists_found_iff hserves, ?_⟩
  intro before record newer hhistory hmatch hnewer
  rw [exists_found_iff hserves]
  constructor
  · rintro ⟨before', record', after, hsplit, hlength, hmatch'⟩
    -- the payment that was found is not one of the newer ones, so it is at least as old
    rw [hhistory, List.append_eq_append_iff] at hsplit
    rcases hsplit with ⟨middle, -, hmiddle⟩ | ⟨middle, -, hmiddle⟩
    · cases middle with
      | nil =>
          obtain ⟨-, rfl⟩ := List.cons.inj hmiddle
          exact hlength
      | cons r middle =>
          obtain ⟨-, rfl⟩ := List.cons.inj hmiddle
          exact absurd hmatch' (hnewer record' (by simp))
    · have hle := congrArg List.length hmiddle
      simp only [List.length_cons, List.length_append] at hle
      omega
  · intro hlength
    exact ⟨before, record, newer, hhistory, hlength, hmatch⟩

end

/-- A server of one history, whatever it is asked. -/
def serve (history : List PaymentRecord) : String → Option (List PaymentRecord) :=
  fun _ => some (history.reverse.take 200)

def demoProvider : StellarProvider :=
  .new { horizonUrl := "https://horizon-testnet.stellar.org/", destinationAddress := "GDEST" }

def paidRecord : PaymentRecord where
  id := "1"
  transactionHash := "3389e9f0"
  from_ := "GBUYER"
  to_ := "GDEST"
  amount := "10.0000000"
  assetType := "native"
  assetCode := none
  transactionSuccessful := true
  memo := some "k3Jd82LmQw0Z"
  ledger := some 51203
  recordType := "payment"

/-- A payment without memo of the smallest amount there is. -/
def dustRecord : PaymentRecord :=
  { paidRecord with
    amount := "0.0000001"
    memo := none }

theorem found_iff_recent_demo :
    ∃ event, demoProvider.findConfirmedPayment (serve (paidRecord :: List.replicate 199 dustRecord))
      "GDEST" "k3Jd82LmQw0Z" "10.0000000" "XLM" = some (some event) := by
  have hserves : ServesHistory (serve (paidRecord :: List.replicate 199 dustRecord))
      demoProvider.client "GDEST" (paidRecord :: List.replicate 199 dustRecord) := rfl
  refine ((found_iff_recent hserves _ _ _).2 [] paidRecord (List.replicate 199 dustRecord) rfl
    (by decide) ?_).2 (by rw [List.length_replicate]; decide)
  intro r hr
  rw [List.eq_of_mem_replicate hr]
  decide

/-- Two hundred payments of dust hide a payment that was found before them. -/
theorem dust_hides_payment :
    (demoProvider.findConfirmedPayment (serve [paidRecord]) "GDEST" "k3Jd82LmQw0Z" "10.0000000"
        "XLM" = some (some (parsePayment paidRecord))) ∧
      paidRecord.Matches "GDEST" "k3Jd82LmQw0Z" "10.0000000" "XLM" ∧
      demoProvider.findConfirmedPayment (serve (paidRecord :: List.replicate 200 dustRecord))
        "GDEST" "k3Jd82LmQw0Z" "10.0000000" "XLM" = some none := by
  decide +kernel

end Haske
