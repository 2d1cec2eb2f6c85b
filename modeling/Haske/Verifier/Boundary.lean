import Haske.Verifier.Rendering

/-!
# Where the two formats disagree

The JSON pass of a token and the compact pass of a payload with the same fields, signed
with the same key and shown to the same verifier at the same time.  The first is checked
inside the token library, where a token is expired from the second `expiresAt` on; the
second is checked by the tool itself, where it is expired after that second.  So the two
verdicts differ during the second `expiresAt` and at no other time
(`run_compact`, `verdicts_agree_iff`).  White space around a compact pass makes no difference
(`compact_round_trip`).
-/

namespace Haske

open Json Serde Signing Result

variable {S : Scheme}

/-! ### The compact pass as the tool reads it -/

/-- There is no white space in a compact pass. -/
lemma isWhitespace_of_mem_compactString {payload : List UInt8} {signature : Signature} {c : Char}
    (hc : c ∈ (compactString payload signature).toList) : Utf8.isWhitespace c = false := by
  simp only [compactString, String.toList_append, List.mem_append] at hc
  rcases hc with (hc | hc) | hc
  · exact isWhitespace_of_mem_encode (by decide) hc
  · obtain rfl : c = '.' := by simpa using hc
    decide
  · exact isWhitespace_of_mem_encode (by decide) hc

/-- White space around a compact pass is removed before it is read. -/
lemma trim_compactString {pre post : List Char} (hpre : ∀ c ∈ pre, Utf8.isWhitespace c = true)
    (hpost : ∀ c ∈ post, Utf8.isWhitespace c = true) (payload : List UInt8)
    (signature : Signature) :
    Utf8.trim (String.ofList (pre ++ (compactString payload signature).toList ++ post)) =
      compactString payload signature := by
  have hne : (compactString payload signature).toList ≠ [] := by simp [compactString]
  rw [Utf8.trim_padded_of_forall hpre hpost hne fun _ hc => isWhitespace_of_mem_compactString hc,
    String.ofList_toList]

/-- The only dot of a compact pass is the one between its parts. -/
lemma count_dot_compactString (payload : List UInt8) (signature : Signature) :
    (compactString payload signature).toList.count '.' = 1 := by
  simp only [compactString, String.toList_append, List.count_append,
    List.count_eq_zero_of_not_mem (dot_not_mem_encode _)]
  rfl

/-- The bytes of a payload start with an opening brace. -/
lemma CompactAccessPayload.toVec_head (p : CompactAccessPayload) :
    ∃ rest, p.toVec = 0x7B :: rest := by
  refine ⟨Utf8.encode (writeMembers p.members ++ ['\x7d']), ?_⟩
  rw [toVec, toValue, Value.toBytes, Value.toText, Utf8.asBytes_ofList, write,
    Utf8.encode_cons_ascii (by decide)]
  rfl

lemma asBytes_compactString (payload : List UInt8) (signature : Signature) :
    Utf8.asBytes (compactString payload signature) =
      Base64.encodeBytes Base64.urlSafe false payload ++ 0x2E ::
        Base64.encodeBytes Base64.urlSafe false signature.bytes := by
  have happend : ∀ s t : String, Utf8.asBytes (s ++ t) = Utf8.asBytes s ++ Utf8.asBytes t := by
    simp [Utf8.asBytes]
  rw [compactString, happend, happend, Base64.asBytes_encode, Base64.asBytes_encode,
    List.append_assoc]
  rfl

/-- A compact pass is no JSON text: its first character is the letter `e`. -/
lemma fromStr_compactString {α : Type*} (read : Doc → Option α) (p : CompactAccessPayload)
    (signature : Signature) : fromStr read (compactString p.toVec signature) = none := by
  obtain ⟨rest, hrest⟩ := p.toVec_head
  have hletter : Base64.urlSafe.symbol (Base64.sextet ((0x7B : UInt8).toNat / 4)) = 0x65 := by
    decide
  have hhead : (Base64.encodeBytes Base64.urlSafe false (0x7B :: rest)).head? = some 0x65 := by
    rw [Base64.head?_encodeBytes, hletter]
  obtain ⟨symbols, hsymbols⟩ := List.head?_eq_some_iff.1 hhead
  rw [fromStr, fromSlice, asBytes_compactString, hrest, hsymbols, List.cons_append,
    parse_cons_of_not_start (by decide) (by decide), Option.bind_none]

lemma verifyCompactToken_signCompactPayload (hS : S.Correct) (payload : CompactAccessPayload)
    (signingKey : S.SigningKey) :
    verifyCompactToken S (signCompactPayload S payload signingKey) (S.verifyingKey signingKey) =
      .ok payload :=
  verifyCompactToken_eq_ok.2 ⟨payload.toVec, _, splitsInto_compactString _ _, hS _ _,
    CompactAccessPayload.ofSlice_toVec payload⟩

/-! ### The two verdicts -/

/-- The verifier's answer for a compact pass with white space around it. -/
lemma run_compact_padded {payload : CompactAccessPayload} {signingKey : S.SigningKey}
    {host : Host S} {args : Args} {pre post : List Char} (hS : S.Correct)
    (hpre : ∀ c ∈ pre, Utf8.isWhitespace c = true) (hpost : ∀ c ∈ post, Utf8.isWhitespace c = true)
    (hkey : loadPublicKey host args.publicKey = .ok (S.verifyingKey signingKey))
    (hinput : args.readToken host = .ok (String.ofList
      (pre ++ (signCompactPayload S payload signingKey).toList ++ post)))
    (now now' : UInt64) :
    run host args now now' = .ok (decide (now' ≤ payload.expiresAt)) := by
  refine run_eq_decide hkey hinput ?_
  rw [signCompactPayload, trim_compactString hpre hpost]
  constructor
  · rintro (⟨signed, hread, -⟩ | ⟨p, hp, hnow⟩)
    · rw [fromStr_compactString] at hread
      exact absurd hread (by simp)
    · have hsame := verifyCompactToken_signCompactPayload hS payload signingKey
      rw [signCompactPayload, hp] at hsame
      rwa [← Except.ok.inj hsame]
  · intro hnow
    exact Or.inr ⟨payload, verifyCompactToken_signCompactPayload hS payload signingKey, hnow⟩

/-- The verifier's answer for a compact pass. -/
theorem run_compact {payload : CompactAccessPayload} {signingKey : S.SigningKey} {host : Host S}
    {args : Args} (hS : S.Correct)
    (hkey : loadPublicKey host args.publicKey = .ok (S.verifyingKey signingKey))
    (hinput : args.readToken host = .ok (signCompactPayload S payload signingKey))
    (now now' : UInt64) :
    run host args now now' = .ok (decide (now' ≤ payload.expiresAt)) := by
  have hpadded : args.readToken host = .ok (String.ofList
      ([] ++ (signCompactPayload S payload signingKey).toList ++ [])) := by
    simpa using hinput
  exact run_compact_padded hS (by simp) (by simp) hkey hpadded now now'

/-- **The boundary of expiry.**  For a token and a payload with the same event, payment
hash and expiry, signed with the same key, the verifier gives the same verdict on the JSON
pass and on the compact pass at every time but the second at which they expire. -/
theorem verdicts_agree_iff {token : AccessToken} {payload : CompactAccessPayload}
    {signingKey : S.SigningKey} {host : Host S} {args args' : Args} (hS : S.Correct)
    (hfields : token.compactView = payload)
    (hkey : loadPublicKey host args.publicKey = .ok (S.verifyingKey signingKey))
    (hkey' : loadPublicKey host args'.publicKey = .ok (S.verifyingKey signingKey))
    (hjson : args.readToken host = .ok (signedTokenToJson (signToken S token signingKey)))
    (hcompact : args'.readToken host = .ok (signCompactPayload S payload signingKey))
    (now : UInt64) :
    run host args now now = run host args' now now ↔ now ≠ token.expiresAt := by
  rw [run_rendering (hS _ _) (Rendering.refl _) hkey hjson, run_compact hS hkey' hcompact,
    Except.ok.injEq, ← Bool.coe_iff_coe, decide_eq_true_iff, decide_eq_true_iff, ← hfields]
  have heq : token.compactView.expiresAt = token.expiresAt := rfl
  rw [heq, UInt64.lt_iff_toNat_lt, UInt64.le_iff_toNat_le, ne_eq, ← UInt64.toNat_inj]
  omega

/-- A token that was issued for a Lightning payment and expires at 300. -/
def boundaryToken : AccessToken := .new 1 "demo-event" "5d41402a" 300 "p1o9i8u7y6t5r4e3"

abbrev boundaryScheme : Scheme := Scheme.constant fun _ => true

abbrev boundaryHost : Host boundaryScheme := .withKey ()

/-- The arguments of a run on its JSON pass and of one on its compact pass. -/
def jsonArgs : Args := demoArgs (signedTokenToJson (signToken boundaryScheme boundaryToken ()))

def compactArgs : Args :=
  demoArgs (signCompactPayload boundaryScheme boundaryToken.compactView ())

lemma readToken_jsonArgs : jsonArgs.readToken boundaryHost =
    .ok (signedTokenToJson (signToken boundaryScheme boundaryToken ())) :=
  Args.readToken_of_token rfl

lemma readToken_compactArgs : compactArgs.readToken boundaryHost =
    .ok (signCompactPayload boundaryScheme boundaryToken.compactView ()) :=
  Args.readToken_of_token rfl

theorem verdicts_agree_at_299 :
    run boundaryHost jsonArgs 299 299 = run boundaryHost compactArgs 299 299 :=
  (verdicts_agree_iff (S := boundaryScheme) Scheme.constant_correct rfl
    (loadPublicKey_withKey _ _) (loadPublicKey_withKey _ _) readToken_jsonArgs
    readToken_compactArgs 299).2 (by decide)

/-- At the second they expire, the JSON pass is refused and the compact one is accepted. -/
theorem verdicts_differ_at_300 :
    run boundaryHost jsonArgs 300 300 = .ok false ∧
      run boundaryHost compactArgs 300 300 = .ok true := by
  constructor
  · exact run_rendering (S := boundaryScheme) rfl (Rendering.refl _) (loadPublicKey_withKey _ _)
      readToken_jsonArgs 300 300
  · exact run_compact (S := boundaryScheme) Scheme.constant_correct (loadPublicKey_withKey _ _)
      readToken_compactArgs 300 300

/-! ### The round trip of a compact pass -/

/-- **The round trip of a compact pass.**  Whatever the payload and the key, the pass
verifies and gives the payload back, it has one dot, it is no signed token, and with white
space around it the verifier accepts it exactly as long as it has not expired. -/
theorem compact_round_trip (hS : S.Correct) (payload : CompactAccessPayload)
    (signingKey : S.SigningKey) :
    verifyCompactToken S (signCompactPayload S payload signingKey) (S.verifyingKey signingKey) =
        .ok payload ∧
      (signCompactPayload S payload signingKey).toList.count '.' = 1 ∧
      (∀ signed, signedTokenFromJson (signCompactPayload S payload signingKey) ≠ .ok signed) ∧
      ∀ (host : Host S) (args : Args) (pre post : List Char),
        (∀ c ∈ pre, Utf8.isWhitespace c = true) → (∀ c ∈ post, Utf8.isWhitespace c = true) →
        loadPublicKey host args.publicKey = .ok (S.verifyingKey signingKey) →
        args.readToken host = .ok (String.ofList
          (pre ++ (signCompactPayload S payload signingKey).toList ++ post)) →
        ∀ now now', run host args now now' = .ok true ↔
          isExpired now' payload.expiresAt = false := by
  refine ⟨verifyCompactToken_signCompactPayload hS payload signingKey,
    count_dot_compactString _ _, ?_, ?_⟩
  · intro signed hread
    rw [signedTokenFromJson, signCompactPayload, fromStr_compactString, okOr_none] at hread
    exact absurd hread (by simp)
  · intro host args pre post hpre hpost hkey hinput now now'
    rw [run_compact_padded hS hpre hpost hkey hinput, Except.ok.injEq, decide_eq_true_iff,
      isExpired, decide_eq_false_iff_not, gt_iff_lt, UInt64.not_lt]

/-- A payload with letters outside ASCII, a quote, a backslash and a line break. -/
def unicodePayload : CompactAccessPayload where
  paymentHash := "5d41402a"
  expiresAt := 300
  eventId := "Grüße \"\\\n"

theorem compact_round_trip_demo :
    verifyCompactToken boundaryScheme (signCompactPayload boundaryScheme unicodePayload ()) () =
        .ok unicodePayload ∧
      run boundaryHost (demoArgs (String.ofList ([' '] ++
        (signCompactPayload boundaryScheme unicodePayload ()).toList ++ ['\n']))) 300 300 =
        .ok true := by
  obtain ⟨hverify, -, -, hrun⟩ :=
    compact_round_trip (S := boundaryScheme) Scheme.constant_correct unicodePayload ()
  refine ⟨hverify, (hrun boundaryHost (demoArgs _) [' '] ['\n'] ?_ ?_ (loadPublicKey_withKey _ _)
    (Args.readToken_of_token rfl) 300 300).2 (by decide)⟩
  · simp only [List.mem_singleton, forall_eq]
    decide
  · simp only [List.mem_singleton, forall_eq]
    decide

end Haske
