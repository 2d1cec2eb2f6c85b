import Haske.Server.Access
import Haske.Verifier.Cli

/-!
# The renderings of an issued pass

A pass is handed out as the text that was signed, or as the same JSON read into a value
and written again, which puts the members of its objects in another order.  A value
*represents* a signed token if it is its JSON up to that order.  Reading the text of a
signed token gives such a value, reordering keeps it one (`Represents.reorder`), and
whatever the order, the reader of signed tokens finds the same token in it.

So the verifier's answer for every rendering is whether the pass has expired
(`run_issued`).  An expired pass is tried as a compact one too; that this fails is due to
its first character, which is no letter of the base64 alphabet.
-/

namespace Haske

open Json Serde Signing Result

namespace SignedAccessToken

/-- The JSON of a signed token with the members of its two objects in any order. -/
def Represents (signed : SignedAccessToken) (v : Value) : Prop :=
  ∃ tms ms, tms.Perm signed.token.members ∧
    ms.Perm [("token", .obj tms), ("signature", .str signed.signature)] ∧ v = .obj ms

variable {signed : SignedAccessToken} {v v' : Value}

lemma represents_toValue (signed : SignedAccessToken) : signed.Represents signed.toValue :=
  ⟨_, _, List.Perm.refl _, List.Perm.refl _, rfl⟩

lemma Represents.ofDoc (h : signed.Represents v) : ofDoc v.toDoc = some signed := by
  obtain ⟨tms, ms, htoken, hms, rfl⟩ := h
  exact ofDoc_of_perm htoken hms

lemma Represents.noLiteral (h : signed.Represents v) : v.NoLiteral := by
  obtain ⟨tms, ms, htoken, hms, rfl⟩ := h
  have htms : NoLiteralMembers tms := by
    rw [noLiteralMembers_iff]
    exact fun m hm => noLiteralMembers_iff.1 signed.token.members_noLiteral m (htoken.subset hm)
  rw [Value.NoLiteral, noLiteralMembers_iff]
  intro m hm
  have hcases := hms.subset hm
  simp only [List.mem_cons, List.not_mem_nil, or_false] at hcases
  rcases hcases with rfl | rfl
  · exact htms
  · exact True.intro

/-! ### Reading and reordering -/

lemma scalar_of_mem_members {t : AccessToken} {tms : List (String × Value)}
    (h : tms.Perm t.members) : ∀ m ∈ tms, Scalar m.2 := by
  intro m hm
  have hmem := h.subset hm
  simp only [AccessToken.members, List.mem_cons, List.not_mem_nil, or_false] at hmem
  have h₈ := t.version.toNat_lt
  have h₃₂ := t.ledger.toNat_lt
  rcases hmem with rfl | rfl | rfl | rfl | rfl | rfl | rfl | rfl | rfl | rfl | rfl
  all_goals first
    | exact True.intro
    | exact t.expiresAt.toNat_lt_size
    | (simp only [Scalar, UInt64.size]; omega)

/-- The untyped reader finds a value that represents the signed token. -/
theorem exists_readValue (signed : SignedAccessToken) :
    ∃ v, fromStr (readValue recursionLimit) (signedTokenToJson signed) = some v ∧
      signed.Represents v := by
  rw [signedTokenToJson, fromStr_toText _ signed.toValue_noLiteral, toValue, members]
  obtain ⟨tms, htms, hperm⟩ := readValue_obj_scalars
    (scalar_of_mem_members (List.Perm.refl signed.token.members)) signed.token.members_nodup
    (show 1 < 127 by decide)
  have hread : ∀ m ∈ signed.members, readValue 127 m.2.toDoc =
      some (if m.1 = "token" then .obj tms else .str signed.signature) := by
    intro m hm
    simp only [members, List.mem_cons, List.not_mem_nil, or_false] at hm
    rcases hm with rfl | rfl
    · exact htms
    · exact readValue_scalar (show Scalar (.str signed.signature) from True.intro) _
  have hkeys : ((signed.members ++ []).map Prod.fst).Nodup := by simp [members]
  obtain ⟨ms, hms, hms_perm⟩ := readObj_perm hread hkeys
  refine ⟨.obj ms, ?_, tms, ms, hperm, by simpa [members] using hms_perm, rfl⟩
  rw [members] at hms
  rw [Value.toDoc, readValue, if_neg (by decide), show recursionLimit - 1 = 127 from rfl, hms]
  rfl

theorem represents_of_readValue
    (h : fromStr (readValue recursionLimit) (signedTokenToJson signed) = some v) :
    signed.Represents v := by
  obtain ⟨v', h', hrep⟩ := exists_readValue signed
  obtain rfl := Option.some.inj (h.symm.trans h')
  exact hrep

/-- Reordering keeps a value that represents a signed token one. -/
theorem Represents.reorder (h : signed.Represents v) (hv : Reorder v v') :
    signed.Represents v' := by
  induction hv with
  | refl v => exact h
  | perm hperm =>
      obtain ⟨tms, ms, htoken, hms, heq⟩ := h
      obtain rfl := Value.obj.inj heq
      exact ⟨tms, _, htoken, hperm.symm.trans hms, rfl⟩
  | @member ms₁ ms₂ k v v' hv _ =>
      obtain ⟨tms, ms, htoken, hms, heq⟩ := h
      obtain rfl := Value.obj.inj heq
      have hmem := hms.subset (show (k, v) ∈ ms₁ ++ (k, v) :: ms₂ by simp)
      simp only [List.mem_cons, Prod.mk.injEq, List.not_mem_nil, or_false] at hmem
      rcases hmem with ⟨rfl, rfl⟩ | ⟨rfl, rfl⟩
      · -- the members of the token are reordered, those of the pair stay as they are
        obtain ⟨tms', htms', rfl⟩ := hv.obj_scalars_inv (scalar_of_mem_members htoken)
        refine ⟨tms', _, htms'.trans htoken, ?_, rfl⟩
        have hrest := (List.perm_middle.symm.trans hms).cons_inv
        exact List.perm_middle.trans (hrest.cons _)
      · obtain rfl := hv.scalar_inv (show Scalar (.str signed.signature) from True.intro)
        exact ⟨tms, _, htoken, hms, rfl⟩
  | trans _ _ ih₁ ih₂ => exact ih₂ (ih₁ h)

/-- All the values that represent a signed token are reorderings of each other. -/
lemma Represents.reorders (h : signed.Represents v) (h' : signed.Represents v') :
    Reorder v v' := by
  obtain ⟨tms, ms, htoken, hms, rfl⟩ := h
  obtain ⟨tms', ms', htoken', hms', rfl⟩ := h'
  have htokens : Reorder
      (.obj ([] ++ ("token", .obj tms) :: [("signature", .str signed.signature)]))
      (.obj ([] ++ ("token", .obj tms') :: [("signature", .str signed.signature)])) :=
    .member (.perm (htoken.trans htoken'.symm))
  exact (Reorder.perm hms).trans (htokens.trans (.perm hms'.symm))

end SignedAccessToken

/-! ### The verdict on a rendering -/

/-- The texts an issued pass is handed out as: the text itself, or the value it is read
as, with its members in any order, written again; white space may surround it. -/
inductive Rendering (issued : String) : String → Prop
  | issued {pre post : List Char} : (∀ c ∈ pre, Utf8.isWhitespace c = true) →
      (∀ c ∈ post, Utf8.isWhitespace c = true) →
      Rendering issued (String.ofList (pre ++ issued.toList ++ post))
  | rewritten {pre post : List Char} {v v' : Value} :
      (∀ c ∈ pre, Utf8.isWhitespace c = true) → (∀ c ∈ post, Utf8.isWhitespace c = true) →
      fromStr (readValue recursionLimit) issued = some v → Reorder v v' →
      Rendering issued (String.ofList (pre ++ v'.toText.toList ++ post))

lemma Rendering.refl (issued : String) : Rendering issued issued := by
  have h : Rendering issued (String.ofList ([] ++ issued.toList ++ [])) :=
    Rendering.issued (by simp) (by simp)
  simpa using h

/-- A rendering is the text of a value that represents the pass, once trimmed. -/
lemma Rendering.trim_eq {signed : SignedAccessToken} {text : String}
    (h : Rendering (signedTokenToJson signed) text) :
    ∃ v, signed.Represents v ∧ Utf8.trim text = v.toText := by
  have htrim : ∀ {v pre post}, signed.Represents v → (∀ c ∈ pre, Utf8.isWhitespace c = true) →
      (∀ c ∈ post, Utf8.isWhitespace c = true) →
      Utf8.trim (String.ofList (pre ++ v.toText.toList ++ post)) = v.toText := by
    rintro v pre post ⟨tms, ms, -, -, rfl⟩ hpre hpost
    rw [Value.toText, String.toList_ofList]
    exact trim_obj hpre hpost
  cases h with
  | issued hpre hpost =>
      exact ⟨_, signed.represents_toValue, htrim signed.represents_toValue hpre hpost⟩
  | rewritten hpre hpost hread hreorder =>
      have hrep := (SignedAccessToken.represents_of_readValue hread).reorder hreorder
      exact ⟨_, hrep, htrim hrep hpre hpost⟩

variable {S : Scheme}

/-- The text of a value that represents a pass is accepted until the pass expires. -/
lemma accepts_of_represents {token : AccessToken} {signingKey : S.SigningKey} {v : Value}
    {now now' : UInt64}
    (hS : S.verify (S.verifyingKey signingKey) token.toVec (S.sign signingKey token.toVec) = true)
    (hv : (signToken S token signingKey).Represents v) :
    Accepts S (S.verifyingKey signingKey) v.toText now now' ↔ now < token.expiresAt := by
  have hread : fromStr SignedAccessToken.ofDoc v.toText = some (signToken S token signingKey) := by
    rw [fromStr_toText _ hv.noLiteral, hv.ofDoc]
  -- the text starts with a brace, so the second format does not take it either
  have hcompact : ∀ p, verifyCompactToken S v.toText (S.verifyingKey signingKey) ≠ .ok p := by
    intro p h
    obtain ⟨payload, signature, hsplit, -⟩ := verifyCompactToken_eq_ok.1 h
    obtain ⟨tms, ms, -, -, rfl⟩ := hv
    have hbrace : (Value.obj ms).toText.toList = '\x7b' :: (writeMembers ms ++ ['\x7d']) := by
      rw [Value.toText, String.toList_ofList, write]
    exact not_splitsInto_of_head hbrace (by decide) (by decide) (by decide) hsplit
  constructor
  · rintro (⟨signed, hsigned, hverified⟩ | ⟨p, hp, -⟩)
    · rw [hread] at hsigned
      obtain rfl := Option.some.inj hsigned
      exact (verifySignedTokenAt_signToken hS).1 hverified
    · exact absurd hp (hcompact p)
  · intro hnow
    exact Or.inl ⟨_, hread, (verifySignedTokenAt_signToken hS).2 hnow⟩

/-- The verifier's answer for a rendering of a pass. -/
theorem run_rendering {token : AccessToken} {signingKey : S.SigningKey} {text : String}
    {host : Host S} {args : Args}
    (hS : S.verify (S.verifyingKey signingKey) token.toVec (S.sign signingKey token.toVec) = true)
    (htext : Rendering (signedTokenToJson (signToken S token signingKey)) text)
    (hkey : loadPublicKey host args.publicKey = .ok (S.verifyingKey signingKey))
    (hinput : args.readToken host = .ok text) (now now' : UInt64) :
    run host args now now' = .ok (decide (now < token.expiresAt)) := by
  obtain ⟨v, hv, htrim⟩ := htext.trim_eq
  refine run_eq_decide hkey hinput ?_
  rw [htrim]
  exact accepts_of_represents hS hv

/-- **Issued passes verify until they expire.**  For every pass that is issued and every
rendering of it, the verifier with the issuer's public key answers whether the pass has
not expired yet. -/
theorem run_issued {qr : QrLibrary} {signingKey : S.SigningKey} {event : PaymentEvent}
    {eventId : String} {expiresAt : UInt64} {nonce : Alphanumeric 16} {artifact : AccessArtifact}
    {text : String} {host : Host S} {args : Args} (hS : S.Correct)
    (hissue : issueToken S qr signingKey event eventId expiresAt nonce = some artifact)
    (htext : Rendering artifact.token text)
    (hkey : loadPublicKey host args.publicKey = .ok (S.verifyingKey signingKey))
    (hinput : args.readToken host = .ok text) (now now' : UInt64) :
    run host args now now' = .ok (decide (now < expiresAt)) := by
  rw [(issueToken_eq_some hissue).1] at htext
  exact run_rendering (hS _ _) htext hkey hinput now now'

def demoEvent : PaymentEvent where
  txHash := "3389e9f0"
  sourceAccount := "GBUYER"
  destinationAccount := "GDEST"
  amount := "10.0000000"
  asset := "XLM"
  memo := "k3Jd82LmQw0Z"
  ledgerSequence := 51203
  confirmedAt := 0

/-- The arguments of a run on a pass. -/
def demoArgs (text : String) : Args where
  publicKey := some "issuer.pub"
  token := some text
  qrImage := none

/-- The JSON of a signed token with the members of both objects the other way round. -/
def SignedAccessToken.backwards (signed : SignedAccessToken) : Value :=
  .obj [("signature", .str signed.signature), ("token", .obj signed.token.members.reverse)]

lemma SignedAccessToken.represents_backwards (signed : SignedAccessToken) :
    signed.Represents signed.backwards :=
  ⟨_, _, List.reverse_perm _, List.Perm.swap _ _ _, rfl⟩

/-- A pass issued for the event `"`, presented as it was issued, with white space around it, and
with all its members the other way round. -/
theorem run_issued_demo :
    ∃ artifact signed, issueToken (Scheme.constant fun _ => true) QrLibrary.total () demoEvent "\""
        300 demoNonce = some artifact ∧ artifact.token = signedTokenToJson signed ∧
      run (Host.withKey (S := Scheme.constant fun _ => true) ())
          (demoArgs (String.ofList ([' '] ++ artifact.token.toList ++ ['\n']))) 299 299 =
        .ok (decide ((299 : UInt64) < 300)) ∧
      run (Host.withKey (S := Scheme.constant fun _ => true) ())
          (demoArgs (String.ofList ([] ++ signed.backwards.toText.toList ++ ['\n']))) 300 300 =
        .ok (decide ((300 : UInt64) < 300)) := by
  obtain ⟨artifact, hissue⟩ : ∃ artifact, issueToken (Scheme.constant fun _ => true)
      QrLibrary.total () demoEvent "\"" 300 demoNonce = some artifact := ⟨_, rfl⟩
  obtain ⟨signed, htoken⟩ : ∃ signed, artifact.token = signedTokenToJson signed :=
    ⟨_, (issueToken_eq_some hissue).1⟩
  obtain ⟨v, hread, hrep⟩ := signed.exists_readValue
  rw [← htoken] at hread
  refine ⟨artifact, signed, hissue, htoken, ?_, ?_⟩
  · exact run_issued Scheme.constant_correct hissue
      (Rendering.issued (by simp; decide) (by simp; decide)) (loadPublicKey_withKey _ _)
      (Args.readToken_of_token rfl) 299 299
  · exact run_issued Scheme.constant_correct hissue
      (Rendering.rewritten (by simp) (by simp; decide) hread
        (hrep.reorders signed.represents_backwards))
      (loadPublicKey_withKey _ _) (Args.readToken_of_token rfl) 300 300

end Haske
