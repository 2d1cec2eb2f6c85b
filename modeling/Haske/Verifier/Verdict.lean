import Haske.Verifier.Boundary

/-!
# The verdict over time

What the verifier says about one pass when it is run again and again.  The two formats exclude
each other (`not_splitsInto_of_fromStr`): a JSON pass is an array or an object, and so starts
with white space or a bracket, which are no letters of the alphabet of the compact pass.  So a
pass has at most one expiry, whatever its text, and on a machine that does not change, the
verdicts are those of one `Deadline` (`verdict_over_time`).
-/

namespace Haske

open Json Serde Signing Result

variable {S : Scheme}

/-! ### The two formats -/

lemma SignedAccessToken.isComposite_of_ofDoc {d : Doc} {signed : SignedAccessToken}
    (h : ofDoc d = some signed) : d.isComposite = true := by
  cases d with
  | arr elems => rfl
  | obj ms => rfl
  | _ => cases h

/-- A text that can be read as a JSON pass, whatever its signature, is no compact pass. -/
lemma not_splitsInto_of_fromStr {text : String} {signed : SignedAccessToken}
    (h : fromStr SignedAccessToken.ofDoc text = some signed) {payload : List UInt8}
    {signature : Signature} : ¬ SplitsInto text payload signature := by
  obtain ⟨d, hparse, hread⟩ := Option.bind_eq_some_iff.1 h
  obtain ⟨b, bs, hbytes, hb⟩ :=
    head_of_parse hparse (SignedAccessToken.isComposite_of_ofDoc hread)
  obtain ⟨hascii, hdot, hnone⟩ : b < 0x80 ∧ b ≠ 0x2E ∧ Base64.urlSafe.value b = none := by
    rcases hb with hspace | rfl | rfl
    · simp only [isSpace, Bool.or_eq_true, beq_iff_eq] at hspace
      rcases hspace with ((rfl | rfl) | rfl) | rfl <;> exact ⟨by decide, by decide, by decide⟩
    · exact ⟨by decide, by decide, by decide⟩
    · exact ⟨by decide, by decide, by decide⟩
  obtain ⟨c, cs, htext, hc⟩ := Utf8.toList_of_asBytes_cons hbytes hascii
  refine not_splitsInto_of_head htext ?_ ?_ ?_
  · rw [hc]
    exact UInt8.lt_iff_toNat_lt.1 hascii
  · rintro rfl
    exact hdot (UInt8.toNat_inj.1 hc.symm)
  · rw [hc, UInt8.ofNat_toNat, hnone]

/-! ### Deadlines -/

/-- Until when a pass is accepted, each format after the reading of the clock it looks at. -/
inductive Deadline where
  | never
  | before (expiresAt : UInt64)
  | upTo (expiresAt : UInt64)

namespace Deadline

def isOpen : Deadline → UInt64 → UInt64 → Bool
  | never, _, _ => false
  | before expiresAt, now, _ => now < expiresAt
  | upTo expiresAt, _, now' => now' ≤ expiresAt

/-- What is open was open before. -/
lemma isOpen_of_le {d : Deadline} {now₁ now₁' now₂ now₂' : UInt64} (h : now₁ ≤ now₂)
    (h' : now₁' ≤ now₂') (hopen : d.isOpen now₂ now₂' = true) : d.isOpen now₁ now₁' = true := by
  cases d with
  | never => cases hopen
  | before expiresAt =>
      simp only [isOpen, decide_eq_true_iff] at hopen ⊢
      exact UInt64.lt_of_le_of_lt h hopen
  | upTo expiresAt =>
      simp only [isOpen, decide_eq_true_iff] at hopen ⊢
      exact UInt64.le_trans h' hopen

/-- What a deadline says about the pass that it belongs to. -/
inductive Of (publicKey : S.VerifyingKey) (text : String) : Deadline → Prop
  | json {signed : SignedAccessToken} {signature : Signature} :
      fromStr SignedAccessToken.ofDoc text = some signed →
      Base64.decode Base64.standard true (Utf8.asBytes signed.signature) = some signature.bytes →
      S.verify publicKey signed.token.toVec signature = true →
      Of publicKey text (before signed.token.expiresAt)
  | compact {p : CompactAccessPayload} : verifyCompactToken S text publicKey = .ok p →
      Of publicKey text (upTo p.expiresAt)
  | forged : (∀ now now', ¬ Accepts S publicKey text now now') → Of publicKey text never

/-- Every text has a deadline under every key. -/
lemma exists_of (publicKey : S.VerifyingKey) (text : String) : ∃ d, Of publicKey text d := by
  by_cases hjson : ∃ signed now, fromStr SignedAccessToken.ofDoc text = some signed ∧
      verifySignedTokenAt S signed publicKey now = .ok ()
  · obtain ⟨signed, now, hread, hverified⟩ := hjson
    obtain ⟨signature, hdecode, hverify, -⟩ := verifySignedTokenAt_eq_ok.1 hverified
    exact ⟨_, .json hread hdecode hverify⟩
  · by_cases hcompact : ∃ p, verifyCompactToken S text publicKey = .ok p
    · obtain ⟨p, hp⟩ := hcompact
      exact ⟨_, .compact hp⟩
    · refine ⟨never, .forged ?_⟩
      rintro now now' (⟨signed, hread, hverified⟩ | ⟨p, hp, -⟩)
      · exact hjson ⟨signed, now, hread, hverified⟩
      · exact hcompact ⟨p, hp⟩

/-- A pass is accepted as long as its deadline is open. -/
lemma Of.accepts_iff {publicKey : S.VerifyingKey} {text : String} {d : Deadline}
    (h : Of publicKey text d) (now now' : UInt64) :
    Accepts S publicKey text now now' ↔ d.isOpen now now' = true := by
  cases h with
  | @json signed signature hread hdecode hverify =>
      rw [isOpen, decide_eq_true_iff]
      constructor
      · rintro (⟨signed', hread', hverified⟩ | ⟨p, hp, -⟩)
        · obtain rfl := Option.some.inj (hread.symm.trans hread')
          obtain ⟨-, -, -, hnow⟩ := verifySignedTokenAt_eq_ok.1 hverified
          exact hnow
        · obtain ⟨payload, signature', hsplit, -⟩ := verifyCompactToken_eq_ok.1 hp
          exact absurd hsplit (not_splitsInto_of_fromStr hread)
      · intro hnow
        exact Or.inl
          ⟨signed, hread, verifySignedTokenAt_eq_ok.2 ⟨signature, hdecode, hverify, hnow⟩⟩
  | @compact p hp =>
      rw [isOpen, decide_eq_true_iff]
      constructor
      · rintro (⟨signed, hread, -⟩ | ⟨p', hp', hnow⟩)
        · obtain ⟨payload, signature, hsplit, -⟩ := verifyCompactToken_eq_ok.1 hp
          exact absurd hsplit (not_splitsInto_of_fromStr hread)
        · obtain rfl := Except.ok.inj (hp.symm.trans hp')
          exact hnow
      · exact fun hnow => Or.inr ⟨p, hp, hnow⟩
  | forged hnone => exact iff_of_false (hnone now now') (by simp [isOpen])

end Deadline

/-! ### The verdicts on one pass -/

/-- **The verdict over time.**  On every machine and for every choice of arguments, either the
tool fails with one error whenever it is run, or there is one deadline, that of the pass under
the key, such that it always answers whether this is open.  So a pass that is refused is refused
at all later times, and a pass that is accepted was accepted at all earlier ones. -/
theorem verdict_over_time (host : Host S) (args : Args) :
    (∃ e, ∀ now now', run host args now now' = .error e ∧
        main host args now now' = ("INVALID", 1)) ∨
      ∃ publicKey text d, loadPublicKey host args.publicKey = .ok publicKey ∧
        args.readToken host = .ok text ∧ Deadline.Of publicKey (Utf8.trim text) d ∧
        (∀ now now', run host args now now' = .ok (d.isOpen now now') ∧
          main host args now now' =
            if d.isOpen now now' then ("VALID", 0) else ("INVALID", 1)) ∧
        ∀ now₁ now₁' now₂ now₂', now₁ ≤ now₂ → now₁' ≤ now₂' →
          run host args now₂ now₂' = .ok true → run host args now₁ now₁' = .ok true := by
  cases hkey : loadPublicKey host args.publicKey with
  | error e =>
      left
      refine ⟨e, fun now now' => ?_⟩
      have hrun : run host args now now' = .error e := by
        rw [run, hkey, bind_error]
      exact ⟨hrun, by rw [main, hrun]⟩
  | ok publicKey =>
      cases htext : args.readToken host with
      | error e =>
          left
          refine ⟨e, fun now now' => ?_⟩
          have hrun : run host args now now' = .error e := by
            rw [run, hkey, bind_ok, htext, bind_error]
          exact ⟨hrun, by rw [main, hrun]⟩
      | ok text =>
          right
          obtain ⟨d, hd⟩ := Deadline.exists_of publicKey (Utf8.trim text)
          have hrun : ∀ now now', run host args now now' = .ok (d.isOpen now now') := by
            intro now now'
            rw [run_eq_decide hkey htext (hd.accepts_iff now now'), Bool.decide_eq_true]
          refine ⟨publicKey, text, d, rfl, rfl, hd, fun now now' => ⟨hrun now now', ?_⟩, ?_⟩
          · rw [main, hrun]
            cases d.isOpen now now' <;> rfl
          · intro now₁ now₁' now₂ now₂' h h' hopen
            rw [hrun, Except.ok.injEq] at hopen ⊢
            exact d.isOpen_of_le h h' hopen

end Haske
